import TableQuery.Query.Rejection

/-! # Errors

A query text can be refused before it is looked at, rejected as no query, or recognized and then
fail while it runs. Each error ends the query that met it.
-/

namespace TableQuery

/-- Why a recognized query fails while it runs. -/
inductive Failure where
  | tableNotFound (name : String)
  | columnNotFound (name : String)
  /-- A cell is no number where the literal is one. -/
  | typeMismatch
  | invalidTableName (name reason : String)
  /-- The table's text cannot be read from the given line on. -/
  | malformedTable (table : String) (line : Nat) (reason : String)
  | io (message : String)
  deriving DecidableEq, Repr

def Failure.message : Failure → String
  | .tableNotFound name => s!"Table '{name}' not found"
  | .columnNotFound name => s!"Column '{name}' does not exist"
  | .typeMismatch => "Type mismatch in WHERE clause"
  | .invalidTableName name reason => s!"Invalid table name '{name}': {reason}"
  | .malformedTable table line reason => s!"Malformed table '{table}' at line {line}: {reason}"
  | .io message => s!"I/O error: {message}"

/-- What can end a query. -/
inductive Error where
  | rejected (rejection : Rejection)
  | failed (failure : Failure)
  /-- Refused before recognition. -/
  | invalidInput (message : String)
  /-- The tables in memory were left locked by a crash. -/
  | lockPoisoned
  deriving DecidableEq, Repr

namespace Error

def message : Error → String
  | .rejected rejection => rejection.message
  | .failed failure => failure.message
  | .invalidInput message => s!"Invalid input: {message}"
  | .lockPoisoned => "Lock poisoned"

/-- Whether the text was no query. -/
def isRejection : Error → Bool
  | .rejected _ => true
  | _ => false

/-- Whether a recognized query failed. -/
def isFailure : Error → Bool
  | .failed _ => true
  | _ => false

end Error

end TableQuery
