import TableQuery.Engine.Config
import TableQuery.Engine.QueryText
import TableQuery.Query.Execution
import TableQuery.Store.Memory

/-! # Engines

An engine recognizes query texts and runs queries against the tables it was made with: tables
in memory, table files, or a store of its host. Only tables in memory can be registered with
the engine.
-/

namespace TableQuery

inductive Backend where
  | memory (tables : MemoryTables)
  | files (tables : TableFiles)
  | host (store : Store)

/-- The tables behind an engine, files being read through the given view. -/
def Backend.store (backend : Backend) (files : Files.View) : Store :=
  match backend with
  | .memory tables => tables.store
  | .files tables => tables.store files
  | .host store => store

structure Engine where
  backend : Backend
  config : EngineConfig

namespace Engine

/-- An engine on no tables. -/
def inMemory : Engine := ⟨.memory Keyed.empty, EngineConfig.standard⟩

def onStore (store : Store) : Engine := ⟨.host store, EngineConfig.standard⟩

/-- An engine on table files. The folder need not be there yet, but no file may be in its
    place. -/
def onFiles (files : Files.View) (config : EngineConfig) : Traced Error Engine :=
  if files.isFile config.dataDir then
    .fail (.invalidInput s!"Data path '{config.dataDir}' is not a directory")
  else do
    Traced.emit (.engineOpened config.dataDir config.extension)
    return ⟨.files config.tableFiles, config⟩

def isInMemory (engine : Engine) : Bool :=
  match engine.backend with
  | .memory _ => true
  | _ => false

/-- Registers a table, in place of one of the same name if there is one. -/
def insertTable (engine : Engine) (name : String) (rows : List Row) : Traced Error Engine :=
  match engine.backend with
  | .memory tables => do
      Traced.emit (.tableRegistered name rows.length)
      return { engine with backend := .memory (tables.set name rows) }
  | _ => .fail (.invalidInput "Tables can only be registered on an in-memory engine")

/-- Recognizes a text unless it is refused before. -/
def recognize (engine : Engine) (text : String) : Traced Error Query :=
  match validateQueryText text engine.config.maxQueryLength with
  | .error error => do
      Traced.emit (.textRejected error)
      Traced.fail error
  | .ok () => (Query.recognizeTraced text).mapError .rejected

def execute (engine : Engine) (files : Files.View) (query : Query) : Traced Error Answer :=
  (query.execute (engine.backend.store files)).mapError .failed

def query (engine : Engine) (files : Files.View) (text : String) : Traced Error Answer := do
  let query ← engine.recognize text
  engine.execute files query

end Engine

end TableQuery
