/-! # Queries

A query selects from one named table, with at most one condition. It is plain data: nothing
in it is checked against a table before it is run.
-/

namespace TableQuery

/-- How a condition compares a cell with its literal. -/
inductive Comparison where
  | eq
  | ne
  | lt
  | le
  | gt
  | ge
  deriving DecidableEq, Repr

namespace Comparison

def symbol : Comparison → String
  | .eq => "="
  | .ne => "!="
  | .lt => "<"
  | .le => "<="
  | .gt => ">"
  | .ge => ">="

/-- Whether the comparison holds of two values in the given order. Values with no order, such
    as NaN and anything, are different and nothing else. -/
def holds : Comparison → Option Ordering → Bool
  | .eq, order => order == some .eq
  | .ne, order => order != some .eq
  | .lt, order => order == some .lt
  | .le, order => order == some .lt || order == some .eq
  | .gt, order => order == some .gt
  | .ge, order => order == some .gt || order == some .eq

end Comparison

/-- Order of two texts by code points, the first difference deciding. -/
def textOrder (a b : String) : Option Ordering := some (compareOfLessAndEq a b)

/-- Order of two doubles: the zeros are equal, NaN has no order. -/
def floatOrder (a b : Float) : Option Ordering :=
  if a < b then some .lt
  else if a == b then some .eq
  else if b < a then some .gt
  else none

/-- Order of two 64-bit integers. -/
def integerOrder (a b : Int64) : Option Ordering := some (compareOfLessAndEq a b)

/-- The right-hand side of a condition, its kind decided once from how it was written. -/
inductive Literal where
  | string (text : String)
  | integer (value : Int64)
  | float (value : Float)
  deriving BEq, DecidableEq, Repr

namespace Literal

/-- The double that cells are compared with. A string literal has none. -/
def number? : Literal → Option Float
  | .string _ => none
  | .integer value => some (Float.ofInt value.toInt)
  | .float value => some value

def isNumeric (literal : Literal) : Bool := literal.number?.isSome

end Literal

/-- A single comparison of one column with a literal. -/
structure Condition where
  column : String
  comparison : Comparison
  literal : Literal
  deriving BEq, DecidableEq, Repr

/-- What is counted. -/
inductive Counted where
  /-- Every row. -/
  | rows
  /-- The rows whose cell in a column is present and not empty. -/
  | column (name : String)
  deriving DecidableEq, Repr

/-- A count in place of rows. -/
structure Aggregate where
  counted : Counted
  /-- The selection as it was written. -/
  expression : String
  deriving DecidableEq, Repr

inductive Selection where
  /-- All columns of each row. -/
  | all
  /-- The named columns in the order of the request. -/
  | columns (names : List String)
  /-- A count of the rows. -/
  | count (aggregate : Aggregate)
  deriving DecidableEq, Repr

structure Query where
  selection : Selection
  source : String
  condition : Option Condition
  deriving BEq, DecidableEq, Repr

namespace Query

/-- Whether the query answers with a count. -/
def isAggregate (query : Query) : Bool :=
  match query.selection with
  | .count _ => true
  | _ => false

end Query

end TableQuery
