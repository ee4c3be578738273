import TableQuery.Store.Basic
import TableQuery.Store.TableName
import TableQuery.Delimited.Table
import TableQuery.Files.Tree

/-! # Table files

Tables kept as delimited text, one file each, in one folder. The table `users` is the file
`users.csv` there when the extension is `csv`. A file is read anew each time its table is asked
for.
-/

namespace TableQuery

structure TableFiles where
  dataDir : String
  /-- What follows the table name and a dot. -/
  extension : String
  /-- The code point of the character between fields. -/
  delimiter : UInt8
  deriving DecidableEq, Repr

namespace TableFiles

/-- Comma separated files in the folder `data`. -/
def standard : TableFiles := ⟨"data", "csv", 44⟩

/-- The path of a table's file, whatever the name. -/
def path (tables : TableFiles) (name : String) : String :=
  Files.joinPath tables.dataDir (name ++ "." ++ tables.extension)

/-- The text of a table's file. A file that is not there is a table that is not there. -/
def readText (tables : TableFiles) (files : Files.View) (name : String) :
    Except Failure String :=
  match files.read (tables.path name) with
  | .error .notFound => .error (.tableNotFound name)
  | .error fault => .error (.io fault.message)
  | .ok content =>
      match String.fromUTF8? content with
      | some text => .ok text
      | none => .error (.io "stream did not contain valid UTF-8")

def resolve (tables : TableFiles) (files : Files.View) (name : String) :
    Traced Failure (List Row) :=
  match validateTableName name with
  | .error failure => do
      Traced.emit (.nameRejected failure)
      Traced.fail failure
  | .ok () => do
      let text ← Traced.ofExcept (tables.readText files name)
      Traced.emit (.fileRead (tables.path name) text.utf8ByteSize)
      Delimited.readTable name (Char.ofNat tables.delimiter.toNat) text.toList

def store (tables : TableFiles) (files : Files.View) : Store where
  resolve := tables.resolve files

end TableFiles

end TableQuery
