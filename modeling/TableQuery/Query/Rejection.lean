/-! # Rejected query texts

Why a text is no query. Each cause has one message.
-/

namespace TableQuery

inductive Rejection where
  /-- The text does not start with SELECT. -/
  | notSelect
  /-- No FROM follows. -/
  | noFrom
  /-- The condition compares nothing. -/
  | noComparison
  /-- The literal of the condition has a quote at one end only. -/
  | unterminatedString (literal : String)
  /-- The count is left open or counts nothing. -/
  | invalidAggregate (selection : String)
  deriving DecidableEq, Repr

def Rejection.message : Rejection → String
  | .notSelect => "Only SELECT queries are supported"
  | .noFrom => "Invalid SQL syntax"
  | .noComparison => "Invalid WHERE condition"
  | .unterminatedString literal => "Unterminated string literal in WHERE clause: " ++ literal
  | .invalidAggregate selection => "Invalid aggregate expression: " ++ selection

end TableQuery
