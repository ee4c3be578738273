import TableQuery.Number.Numeral

/-! # JSON values

A value as read from a text, which need not be JSON to its end: `broken` stands where the text
stops being JSON, and nothing is read after it. What comes before it can still be looked at.
-/

namespace TableQuery

/-- A number as written: the digits before the point have no needless zeros. -/
structure JsonNumber where
  negative : Bool
  whole : Nat
  /-- The digits after the point, none without a point. -/
  fraction : List Char
  exponent : Option Int
  deriving DecidableEq, Repr

inductive Json where
  | null
  | bool (value : Bool)
  | number (value : JsonNumber)
  | string (text : String)
  /-- A string with half of a surrogate pair, which no text can hold. -/
  | loneSurrogate
  | array (items : List Json)
  /-- The members in the order of the text, repeated names included. A name that no text can hold
      is none. -/
  | object (members : List (Option String × Json))
  | broken

namespace JsonNumber

def ofInt (value : Int) : JsonNumber := ⟨value < 0, value.natAbs, [], none⟩

/-- The whole number written without point or exponent. Negative zero is none, nor is a number
    that 64 bits cannot hold with or without sign. -/
def toInt? (number : JsonNumber) : Option Int :=
  let value : Int := if number.negative then -number.whole else number.whole
  if number.fraction = [] ∧ number.exponent = none ∧ ¬(number.negative ∧ number.whole = 0) ∧
      Int64.minValue.toInt ≤ value ∧ value < UInt64.size then some value
  else none

/-- No number half-way between two doubles has more digits. -/
def decisiveDigits : Nat := 768

/-- The number as a decimal. Past the decisive digits of a long whole part there is taken to be
    something, however little and whatever is written there. -/
def toDecimal (number : JsonNumber) : Number.Decimal :=
  let places := number.fraction.length
  let coefficient := Nat.pow 10 places * number.whole + Number.digitsValue number.fraction
  let exponent := number.exponent.getD 0 - places
  if number.whole < Nat.pow 10 decisiveDigits then ⟨coefficient, exponent⟩
  else ⟨10 * coefficient + 1, exponent - 1⟩

/-- The double nearest to the number, none beyond the largest. -/
def toFloat? (number : JsonNumber) : Option Float :=
  let size := number.toDecimal.toFloat
  if size.isInf then none else some (if number.negative then -size else size)

end JsonNumber

end TableQuery
