import TableQuery.Number.Decimal

/-! # Numerals

A whole numeral is an optional sign and one or more ASCII digits. A decimal numeral may also
have a point with digits on at least one side of it, and a power of ten after `e` or `E`, of
which only the digits up to a limit count; the words `inf`, `infinity` and `nan` in any case of
letters stand for the values that have no digits. Blanks are no part of a numeral.
-/

namespace TableQuery.Number

/-- Whether a sign makes the number negative, and what follows the sign. -/
def takeSign : List Char → Bool × List Char
  | '-' :: rest => (true, rest)
  | '+' :: rest => (false, rest)
  | text => (false, text)

/-- One or more ASCII digits and nothing else. -/
def isDigits (text : List Char) : Bool := !text.isEmpty && text.all Char.isDigit

/-- A signed numeral whose digits are valued by the given function. -/
def readSigned? (value : List Char → Nat) (text : List Char) : Option Int :=
  let (negative, digits) := takeSign text
  if isDigits digits then
    let size : Int := value digits
    some (if negative then -size else size)
  else none

/-- The value of a whole numeral. -/
def readInt? (text : List Char) : Option Int := readSigned? digitsValue text

/-- The value of a whole numeral that fits into 64 bits with sign. -/
def readInt64? (text : List Char) : Option Int64 := do
  let value ← readInt? text
  if Int64.minValue.toInt ≤ value ∧ value ≤ Int64.maxValue.toInt then some (Int64.ofInt value)
  else none

/-- A whole number in digits, with a minus sign when it is negative. -/
def intText (value : Int) : List Char :=
  let digits := Nat.toDigits 10 value.natAbs
  if value < 0 then '-' :: digits else digits

/-- Exponents from here on are out of reach for a numeral of ordinary length. -/
def exponentLimit : Nat := 65536

/-- The value of the digits of an exponent. The digits after those that reach the limit do not
    count, so that `1000000` is read as `100000`. -/
def exponentValue (digits : List Char) : Nat :=
  digits.foldl (fun (value : Nat) digit =>
    if value < exponentLimit then 10 * value + (digit.toNat - '0'.toNat) else value) 0

/-- The power of ten written after the digits of a decimal numeral, if any. -/
def readExponent? : List Char → Option Int
  | [] => some 0
  | mark :: rest => if mark == 'e' || mark == 'E' then readSigned? exponentValue rest else none

/-- The value of an unsigned decimal numeral. -/
def readDecimal? (text : List Char) : Option Decimal := do
  let whole := text.takeWhile Char.isDigit
  let (fraction, rest) : List Char × List Char :=
    match text.dropWhile Char.isDigit with
    | '.' :: rest => (rest.takeWhile Char.isDigit, rest.dropWhile Char.isDigit)
    | rest => ([], rest)
  if whole.isEmpty && fraction.isEmpty then none
  else
    let exponent ← readExponent? rest
    some ⟨digitsValue (whole ++ fraction), exponent - fraction.length⟩

/-- A whole number that the binary logarithm of a positive decimal reaches, since `2 ^ 3 ≤ 10` and
    `10 ^ 3 ≤ 2 ^ 10`. -/
def Decimal.log2AtLeast (x : Decimal) : Int :=
  x.coefficient.log2 + min (3 * x.exponent) (10 * x.exponent / 3)

/-- A whole number that the binary logarithm of a positive decimal stays below, since `10 ≤ 2 ^ 4`
    and `2 ^ 33 ≤ 10 ^ 10`. -/
def Decimal.log2Below (x : Decimal) : Int :=
  x.coefficient.log2 + 1 + max (4 * x.exponent) (33 * x.exponent / 10 + 1)

/-- The double nearest to a decimal, infinite beyond the largest. A decimal of at least `2 ^ 1024`
    and one of less than half the smallest double are decided by their size alone. -/
def Decimal.toFloat (x : Decimal) : Float :=
  if x.coefficient = 0 then 0
  else if 1024 ≤ x.log2AtLeast then 1 / 0
  else if x.log2Below ≤ -1075 then 0
  else Float.ofScientific x.coefficient (x.exponent < 0) x.exponent.natAbs

/-- The double that a decimal numeral or one of the words for infinity and NaN denotes. -/
def readFloat? (text : List Char) : Option Float := do
  let (negative, rest) := takeSign text
  let word := rest.map Char.toLower
  let size : Float ←
    if word = "inf".toList || word = "infinity".toList then some (1 / 0)
    else if word = "nan".toList then some (0 / 0)
    else (readDecimal? rest).map Decimal.toFloat
  some (if negative then -size else size)

end TableQuery.Number
