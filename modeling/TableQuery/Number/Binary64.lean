/-! # Doubles as exact numbers

The 64 bits of a double hold a sign, eleven exponent bits and 52 fraction bits. A finite
double is its sign and a whole coefficient times a power of two.
-/

namespace TableQuery.Number

/-- What a double stands for. -/
inductive Binary64 where
  | nan
  | infinite (negative : Bool)
  /-- The number `coefficient · 2 ^ power` with a sign. When `closerBelow` holds, the next
      smaller double is half as far away as the next larger one. -/
  | finite (negative : Bool) (coefficient : Nat) (power : Int) (closerBelow : Bool)
  deriving DecidableEq, Repr

namespace Binary64

def fractionSize : Nat := Nat.pow 2 52

def exponentSize : Nat := Nat.pow 2 11

/-- Reads the fields of a 64-bit word. An exponent field of ones marks the infinities and NaN;
    an exponent field of zeros has no leading one and the scale of the smallest exponent. -/
def ofWord (word : Nat) : Binary64 :=
  let negative := word / (fractionSize * exponentSize) % 2 == 1
  let exponent := word / fractionSize % exponentSize
  let fraction := word % fractionSize
  if exponent = exponentSize - 1 then
    if fraction = 0 then .infinite negative else .nan
  else if exponent = 0 then
    .finite negative fraction (-1074) false
  else
    .finite negative (fractionSize + fraction) (exponent - 1075) (fraction = 0 && 1 < exponent)

def ofFloat (x : Float) : Binary64 := ofWord x.toBits.toNat

end Binary64

end TableQuery.Number
