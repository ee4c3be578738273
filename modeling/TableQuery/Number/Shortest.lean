import TableQuery.Number.Binary64
import TableQuery.Number.Decimal

/-! # Shortest decimals

Many decimals lie so close to a double that reading them gives that double back. Among them
the shortest is the one on the coarsest grid of powers of ten; where that grid has two such
decimals next to the double, the nearer one is taken, and the larger one if both are equally
near.
-/

namespace TableQuery.Number.Shortest

/-- A double, the bounds within which decimals read back as it, and a grid of decimals, as
    multiples of one common unit. -/
structure Grid where
  value : Nat
  low : Nat
  high : Nat
  step : Nat
  /-- Whether the bounds themselves read back. -/
  closed : Bool

/-- The grid of the multiples of `10 ^ exponent` around `coefficient · 2 ^ power`. The bounds lie
    half-way to the neighbouring doubles. A decimal half-way between two doubles is read as the
    one with the even coefficient. -/
def grid (coefficient : Nat) (power : Int) (closerBelow : Bool) (exponent : Int) : Grid :=
  let quarter := power - 2
  let scale := Nat.pow 2 quarter.toNat * Nat.pow 10 (-exponent).toNat
  { value := 4 * coefficient * scale
    low := (4 * coefficient - if closerBelow then 1 else 2) * scale
    high := (4 * coefficient + 2) * scale
    step := Nat.pow 10 exponent.toNat * Nat.pow 2 (-quarter).toNat
    closed := coefficient % 2 = 0 }

namespace Grid

/-- Whether the `n`-th decimal of the grid reads back as the double. -/
def readsBack (g : Grid) (n : Nat) : Bool :=
  if g.closed then g.low ≤ n * g.step && n * g.step ≤ g.high
  else g.low < n * g.step && n * g.step < g.high

/-- The nearest decimal of the grid that reads back; of two equally near ones the larger. -/
def nearest? (g : Grid) : Option Nat :=
  let below := g.value / g.step
  let above := below + 1
  if g.readsBack below then
    if g.readsBack above && above * g.step - g.value ≤ g.value - below * g.step then some above
    else some below
  else if g.readsBack above then some above
  else none

end Grid

/-- A double is itself a decimal with as many places as its power of two is negative. -/
def exact (coefficient : Nat) (power : Int) : Decimal :=
  ⟨coefficient * Nat.pow 2 power.toNat * Nat.pow 5 (-power).toNat, min power 0⟩

/-- Powers of ten from above the largest double down to below the smallest. -/
def exponents : List Int := (List.range 700).map fun (n : Nat) => 310 - (n : Int)

end Shortest

/-- The shortest decimal that reads back as a finite double. -/
def shortest (coefficient : Nat) (power : Int) (closerBelow : Bool) : Decimal :=
  let found := Shortest.exponents.findSome? fun exponent =>
    ((Shortest.grid coefficient power closerBelow exponent).nearest?).map (⟨·, exponent⟩)
  found.getD (Shortest.exact coefficient power)

/-- Text of a double: the sign, then its shortest decimal in positional form. -/
def floatText (x : Float) : List Char :=
  match Binary64.ofFloat x with
  | .nan => "NaN".toList
  | .infinite negative => if negative then "-inf".toList else "inf".toList
  | .finite negative coefficient power closerBelow =>
      let magnitude :=
        if coefficient = 0 then ['0'] else (shortest coefficient power closerBelow).text
      if negative then '-' :: magnitude else magnitude

end TableQuery.Number
