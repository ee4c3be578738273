import TableQuery.Error

/-! # Names of table files

A table name that becomes part of a path may not be empty or long, leave its folder, or hold a
NUL. The first fault in this order is the one reported.
-/

namespace TableQuery

/-- The longest table name, in bytes of its UTF-8 form. -/
def maxTableNameSize : Nat := 256

/-- Whether two dots stand next to each other. -/
def hasTwoDots (name : List Char) : Bool := (name.zip (name.drop 1)).contains ('.', '.')

/-- Why a table name cannot be part of a path. -/
def tableNameFault? (name : String) : Option String :=
  let chars := name.toList
  if chars.isEmpty then some "table name cannot be empty"
  else if name.utf8ByteSize > maxTableNameSize then some "table name exceeds 256 bytes"
  else if chars.contains '/' || chars.contains '\\' || hasTwoDots chars then
    some "table name cannot contain path separators or '..'"
  else if chars.contains '\x00' then some "table name cannot contain null bytes"
  else none

def validateTableName (name : String) : Except Failure Unit :=
  match tableNameFault? name with
  | some reason => .error (.invalidTableName name reason)
  | none => .ok ()

end TableQuery
