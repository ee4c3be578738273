import TableQuery.Query.Basic
import TableQuery.Query.Rejection
import TableQuery.Number.Numeral
import TableQuery.Text.Blank

/-! # Literals in text

A text between single quotes is a string. Any other text without a quote at either end is an
integer if it reads as one of 64 bits, else a double if it reads as one, else a string of
itself. Underscores may separate the digits of a number.
-/

namespace TableQuery

/-- Whether every underscore stands between two ASCII digits. -/
def separatesDigits : (afterDigit : Bool) → List Char → Bool
  | _, [] => true
  | afterDigit, c :: rest =>
      if c == '_' then afterDigit && rest.head?.any Char.isDigit && separatesDigits false rest
      else separatesDigits c.isDigit rest

/-- The text without its underscores, if they only separate digits. -/
def dropSeparators? (text : List Char) : Option (List Char) :=
  if separatesDigits false text then some (text.filter (· != '_')) else none

namespace Literal

/-- The number that a text without blanks at its ends denotes. -/
def readNumber? (text : List Char) : Option Literal := do
  let digits ← dropSeparators? text
  match Number.readInt64? digits with
  | some value => some (.integer value)
  | none => (Number.readFloat? digits).map .float

/-- The literal that a text denotes. Blanks around it do not count. -/
def read (text : List Char) : Except Rejection Literal :=
  let text := Text.trim text
  let opens := text.head? == some '\''
  let closes := text.getLast? == some '\''
  if opens && closes && 2 ≤ text.length then
    .ok (.string (String.ofList (text.drop 1).dropLast))
  else if opens || closes then
    .error (.unterminatedString (String.ofList text))
  else
    .ok ((readNumber? text).getD (.string (String.ofList text)))

end Literal

end TableQuery
