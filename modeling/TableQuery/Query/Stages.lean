import TableQuery.Answer
import TableQuery.Query.Basic

/-! # The stages of a query

A table's rows are filtered by the condition and then projected or counted. Each stage takes
the rows from first to last and stops at the first row it cannot handle.
-/

namespace TableQuery

/-- Whether a row satisfies the condition. Text is compared as text; an absent cell satisfies
    no comparison with text. A numeric literal needs a number in the cell. -/
def Condition.judge (condition : Condition) (row : Row) : Except Failure Bool := do
  let cell ← row.required condition.column
  match condition.literal with
  | .string text =>
      return cell.any fun value => condition.comparison.holds (textOrder value text)
  | literal =>
      match cell.number?, literal.number? with
      | some value, some number => return condition.comparison.holds (floatOrder value number)
      | _, _ => throw .typeMismatch

/-- The rows that satisfy the condition. -/
def Condition.filter (condition : Condition) (rows : List Row) : Except Failure (List Row) :=
  rows.filterM condition.judge

/-- The rows as selected. A count is taken of whole rows, so it leaves them as they are. -/
def Selection.project (selection : Selection) (rows : List Row) : Except Failure (List Row) :=
  match selection with
  | .columns names => rows.mapM fun row => row.project names
  | .all | .count _ => .ok rows

/-- The number of rows that count. -/
def Counted.count (counted : Counted) (rows : List Row) : Except Failure Nat :=
  match counted with
  | .rows => .ok rows.length
  | .column name =>
      rows.foldlM (fun total row => do
        let cell ← row.required name
        return if cell.any fun text => !text.isEmpty then total + 1 else total) 0

end TableQuery
