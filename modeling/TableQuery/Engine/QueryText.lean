import TableQuery.Error
import TableQuery.Text.Blank

/-! # Acceptable query texts

A text is looked at as a whole before it is recognized: it may not be blank, longer than a
limit, or hold a NUL. The first fault in this order is the one reported.
-/

namespace TableQuery

inductive QueryTextFault where
  | blank
  /-- The text has more bytes than the limit. -/
  | tooLong (size limit : Nat)
  | nul
  deriving DecidableEq, Repr

def QueryTextFault.message : QueryTextFault → String
  | .blank => "Query cannot be empty"
  | .tooLong size limit => s!"Query length {size} exceeds maximum {limit}"
  | .nul => "Query cannot contain null bytes"

/-- What keeps a text from being looked at as a query. -/
def queryTextFault? (text : String) (limit : Nat) : Option QueryTextFault :=
  if text.toList.all Text.isBlank then some .blank
  else if text.utf8ByteSize > limit then some (.tooLong text.utf8ByteSize limit)
  else if text.toList.contains '\x00' then some .nul
  else none

def validateQueryText (text : String) (limit : Nat) : Except Error Unit :=
  match queryTextFault? text limit with
  | some fault => .error (.invalidInput fault.message)
  | none => .ok ()

end TableQuery
