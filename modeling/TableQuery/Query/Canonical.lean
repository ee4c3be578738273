import TableQuery.Query.Basic
import TableQuery.Number.Shortest
import TableQuery.Number.Numeral

/-! # Canonical text

Each query has one canonical text: keywords in capitals, single spaces, names as they are and
a string literal between single quotes. Nothing is escaped.
-/

namespace TableQuery

def Literal.text : Literal → String
  | .string text => "'" ++ text ++ "'"
  | .integer value => String.ofList (Number.intText value.toInt)
  | .float value => String.ofList (Number.floatText value)

def Condition.text (condition : Condition) : String :=
  condition.column ++ " " ++ condition.comparison.symbol ++ " " ++ condition.literal.text

def Counted.text : Counted → String
  | .rows => "*"
  | .column name => name

def Aggregate.text (aggregate : Aggregate) : String :=
  "COUNT(" ++ aggregate.counted.text ++ ")"

def Selection.text : Selection → String
  | .all => "*"
  | .columns names => String.intercalate ", " names
  | .count aggregate => aggregate.text

def Query.text (query : Query) : String :=
  let request := "SELECT " ++ query.selection.text ++ " FROM " ++ query.source
  match query.condition with
  | none => request
  | some condition => request ++ " WHERE " ++ condition.text

end TableQuery
