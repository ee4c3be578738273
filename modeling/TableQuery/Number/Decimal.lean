/-! # Decimals

A decimal is a whole coefficient times a power of ten. Its positional text writes the
coefficient's digits with zeros or a decimal point, and never an exponent.
-/

namespace TableQuery.Number

/-- The number `coefficient · 10 ^ exponent`. -/
structure Decimal where
  coefficient : Nat
  exponent : Int
  deriving DecidableEq, Repr

namespace Decimal

/-- Positional text: zeros after the digits, or a point inside or before them. -/
def text (x : Decimal) : List Char :=
  let digits := Nat.toDigits 10 x.coefficient
  match x.exponent with
  | .ofNat zeros => digits ++ List.replicate zeros '0'
  | .negSucc n =>
      let places := n + 1
      if places < digits.length then
        digits.take (digits.length - places) ++ '.' :: digits.drop (digits.length - places)
      else
        '0' :: '.' :: (List.replicate (places - digits.length) '0' ++ digits)

end Decimal

/-- Value of a run of ASCII digits, which is halved a number of times before its digits are
    taken one by one. -/
def valueByHalves : Nat → List Char → Nat
  | 0, digits => Nat.ofDigitChars 10 digits 0
  | times + 1, digits =>
      let left := digits.take (digits.length / 2)
      let right := digits.drop (digits.length / 2)
      Nat.pow 10 right.length * valueByHalves times left + valueByHalves times right

theorem valueByHalves_eq (times : Nat) (digits : List Char) :
    valueByHalves times digits = Nat.ofDigitChars 10 digits 0 := by
  induction times generalizing digits with
  | zero => rfl
  | succ times ih =>
      have joined := @Nat.ofDigitChars_eq_ofDigitChars_zero (digits.drop (digits.length / 2))
        (Nat.ofDigitChars 10 (digits.take (digits.length / 2)) 0)
      rw [← Nat.ofDigitChars_append, List.take_append_drop] at joined
      rw [valueByHalves, ih, ih, joined]
      rfl

/-- Value of a run of ASCII digits. A query text has room for a million of them, so long runs are
    halved until the pieces are short. -/
def digitsValue (digits : List Char) : Nat := valueByHalves (digits.length.log2 - 5) digits

theorem digitsValue_eq (digits : List Char) :
    digitsValue digits = Nat.ofDigitChars 10 digits 0 :=
  valueByHalves_eq _ digits

/-- Writing a number in digits and taking their value gives the number back. -/
@[simp] theorem digitsValue_toDigits (n : Nat) : digitsValue (Nat.toDigits 10 n) = n := by
  rw [digitsValue_eq, Nat.ofDigitChars_ten_toDigits]

end TableQuery.Number
