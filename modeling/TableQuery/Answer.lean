import TableQuery.Row

/-! # Answers

A query answers with rows in table order or with a single count.
-/

namespace TableQuery

inductive Answer where
  | count (n : Nat)
  | rows (table : List Row)
  deriving DecidableEq, Repr

namespace Answer

/-- The number of rows. A count is one line. -/
def size : Answer → Nat
  | .count _ => 1
  | .rows table => table.length

def isEmpty (answer : Answer) : Bool := answer.size == 0

def rows? : Answer → Option (List Row)
  | .count _ => none
  | .rows table => some table

end Answer

end TableQuery
