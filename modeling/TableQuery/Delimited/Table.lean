import TableQuery.Delimited.Reader
import TableQuery.Row
import TableQuery.Traced

/-! # Tables in delimited text

The first record of a table's text names its columns, each further record is a row. A record
too short for the header leaves the last cells absent; fields beyond the header are dropped.
A column named twice in the header is one column, with the field of its last place.
-/

namespace TableQuery.Delimited

/-- The text without a byte order mark before it. -/
def dropByteOrderMark : List Char → List Char
  | '\uFEFF' :: text => text
  | text => text

/-- The fields of a record beside the columns of the header. -/
def alignCells : (header fields : List String) → List (String × Cell)
  | [], _ => []
  | column :: header, [] => (column, none) :: alignCells header []
  | column :: header, field :: fields => (column, some field) :: alignCells header fields

def rowOf (header fields : List String) : Row := Keyed.ofPairs (alignCells header fields)

/-- The report on a record with more or fewer fields than the header, if it has. -/
def widthEvent? (table : String) (header : List String) (record : Record) : Option Event :=
  if record.fields.length = header.length then none
  else some (.widthDiffers table record.line record.fields.length header.length)

/-- The rows of a table's text. An empty text is a table without rows. -/
def readTable (table : String) (delimiter : Char) (text : List Char) :
    Traced Failure (List Row) :=
  match readRecords delimiter (dropByteOrderMark text) with
  | .error fault => .fail (.malformedTable table fault.line fault.reason)
  | .ok [] => return []
  | .ok (header :: records) => do
      Traced.emitAll (records.filterMap (widthEvent? table header.fields))
      return records.map fun record => rowOf header.fields record.fields

end TableQuery.Delimited
