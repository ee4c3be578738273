import TableQuery.Store.TableFiles

/-! # Engine settings -/

namespace TableQuery

structure EngineConfig where
  dataDir : String
  extension : String
  delimiter : UInt8
  /-- The longest query text accepted, in bytes. -/
  maxQueryLength : Nat
  deriving DecidableEq, Repr

namespace EngineConfig

/-- The standard table files and query texts of up to one mebibyte. -/
def standard : EngineConfig where
  dataDir := TableFiles.standard.dataDir
  extension := TableFiles.standard.extension
  delimiter := TableFiles.standard.delimiter
  maxQueryLength := 1024 * 1024

/-- Where the tables of an engine on files are kept. -/
def tableFiles (config : EngineConfig) : TableFiles :=
  ⟨config.dataDir, config.extension, config.delimiter⟩

end EngineConfig

/-- The version of the engine and of its console. -/
def engineVersion : String := "0.3.0"

end TableQuery
