import TableQuery.Keyed
import TableQuery.Error
import TableQuery.Number.Numeral
import TableQuery.Text.Blank

/-! # Rows

A row gives each of its columns a cell. A cell holds a text or is absent; a column that the row
does not have is a third case, and asking for it is a failure.
-/

namespace TableQuery

/-- The text of a cell, none when it is absent. -/
abbrev Cell := Option String

/-- The number that a cell holds, blanks around it left out. -/
def Cell.number? (cell : Cell) : Option Float :=
  cell.bind fun text => Number.readFloat? (Text.trim text.toList)

abbrev Row := Keyed Cell

namespace Row

def columns (row : Row) : List String := row.keys

/-- The cell of a column, none when the row does not have the column. -/
def cell? (row : Row) (column : String) : Option Cell := row.get? column

/-- The text in a column, none when the column is missing or its cell is absent. -/
def text? (row : Row) (column : String) : Option String := (row.cell? column).join

/-- The cell of a column that the row has to have. -/
def required (row : Row) (column : String) : Except Failure Cell :=
  match row.cell? column with
  | some cell => .ok cell
  | none => .error (.columnNotFound column)

/-- The named columns in the order of the request. A column asked for twice comes once. -/
def project (row : Row) (columns : List String) : Except Failure Row :=
  columns.foldlM (fun (projected : Row) column => do
    let cell ← row.required column
    return projected.set column cell) Keyed.empty

end Row

end TableQuery
