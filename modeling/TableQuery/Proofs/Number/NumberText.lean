import TableQuery.Number.Numeral
import TableQuery.Number.Shortest
import TableQuery.Query.Literal
import TableQuery.Proofs.Text.Occurrence

/-! # Texts of numbers

The texts of integers and doubles use few characters: digits, the letters of `inf` and `NaN`, a
minus sign and a point. None of them is a blank, a quote or a semicolon, so such a text stands
in a query without quotes. The text of an integer is read as that integer.
-/

namespace TableQuery.Number

def Plain (c : Char) : Prop := c.isAlphanum ∨ c = '-' ∨ c = '.'

/-- A text with at least one character, all of them characters of written numbers. -/
def PlainText (text : List Char) : Prop := text ≠ [] ∧ ∀ c ∈ text, Plain c

instance (c : Char) : Decidable (Plain c) :=
  inferInstanceAs (Decidable (c.isAlphanum = true ∨ c = '-' ∨ c = '.'))

instance (text : List Char) : Decidable (PlainText text) :=
  decidable_of_iff ((!text.isEmpty && text.all fun c => decide (Plain c)) = true)
    (by simp [PlainText])

theorem plain_of_isDigit {c : Char} (h : c.isDigit) : Plain c :=
  .inl (by simp [Char.isAlphanum, h])

theorem isDigit_of_mem_toDigits {n : Nat} {c : Char} (h : c ∈ Nat.toDigits 10 n) : c.isDigit :=
  Nat.isDigit_of_mem_toDigits (by omega) (by omega) h

theorem Plain.visible {c : Char} (h : Plain c) :
    Text.isBlank c = false ∧ c ≠ '\'' ∧ c ≠ ';' := by
  rcases h with alphanumeric | rfl | rfl
  · have range : (65 ≤ c.toNat ∧ c.toNat ≤ 90 ∨ 97 ≤ c.toNat ∧ c.toNat ≤ 122) ∨
        (48 ≤ c.toNat ∧ c.toNat ≤ 57) := by
      simp only [Char.isAlphanum, Bool.or_eq_true] at alphanumeric
      rcases alphanumeric with alpha | digit
      · exact .inl (Text.isAlpha_iff.mp alpha)
      · simp only [Char.isDigit, Bool.and_eq_true, decide_eq_true_eq, ge_iff_le,
          UInt32.le_iff_toNat_le] at digit
        exact .inr digit
    refine ⟨Text.isBlank_eq_false (by omega) (by omega), ?_, ?_⟩
    · rintro rfl
      exact absurd range (by decide)
    · rintro rfl
      exact absurd range (by decide)
  · decide
  · decide

theorem plainText_toDigits (n : Nat) : PlainText (Nat.toDigits 10 n) :=
  ⟨Nat.toDigits_ne_nil, fun _ hc => plain_of_isDigit (isDigit_of_mem_toDigits hc)⟩

theorem PlainText.minus {text : List Char} (h : PlainText text) : PlainText ('-' :: text) := by
  refine ⟨List.cons_ne_nil '-' text, ?_⟩
  intro c hc
  rcases List.mem_cons.mp hc with rfl | hc
  · exact .inr (.inl rfl)
  · exact h.2 c hc

theorem plainText_decimal (x : Decimal) : PlainText x.text := by
  have digits := plainText_toDigits x.coefficient
  unfold Decimal.text
  cases x.exponent with
  | ofNat zeros =>
      refine ⟨by simp [digits.1], ?_⟩
      intro c hc
      rcases List.mem_append.mp hc with hc | hc
      · exact digits.2 c hc
      · rw [List.eq_of_mem_replicate hc]
        exact plain_of_isDigit rfl
  | negSucc n =>
      simp only
      split
      · refine ⟨by simp, ?_⟩
        intro c hc
        rcases List.mem_append.mp hc with hc | hc
        · exact digits.2 c (List.mem_of_mem_take hc)
        · rcases List.mem_cons.mp hc with rfl | hc
          · exact .inr (.inr rfl)
          · exact digits.2 c (List.mem_of_mem_drop hc)
      · refine ⟨by simp, ?_⟩
        intro c hc
        simp only [List.mem_cons, List.mem_append, List.mem_replicate] at hc
        rcases hc with rfl | rfl | ⟨-, rfl⟩ | hc
        · exact plain_of_isDigit rfl
        · exact .inr (.inr rfl)
        · exact plain_of_isDigit rfl
        · exact digits.2 c hc

/-- The text of a double holds digits, a minus sign and a point, or it is one of three words. -/
theorem plainText_floatText (x : Float) : PlainText (floatText x) := by
  unfold floatText
  cases Binary64.ofFloat x with
  | nan => exact (by decide : PlainText "NaN".toList)
  | infinite negative =>
      cases negative with
      | false => exact (by decide : PlainText "inf".toList)
      | true => exact (by decide : PlainText "-inf".toList)
  | finite negative coefficient power closerBelow =>
      have magnitude : PlainText
          (if coefficient = 0 then ['0'] else (shortest coefficient power closerBelow).text) := by
        split
        · exact (by decide : PlainText ['0'])
        · exact plainText_decimal _
      cases negative with
      | false => exact magnitude
      | true => exact magnitude.minus

theorem plainText_intText (n : Int) : PlainText (intText n) := by
  unfold intText
  simp only
  split
  · exact (plainText_toDigits n.natAbs).minus
  · exact plainText_toDigits n.natAbs

theorem takeSign_of_isDigit {text : List Char} (h : ∀ c ∈ text.head?, c.isDigit) :
    takeSign text = (false, text) := by
  cases text with
  | nil => rfl
  | cons c text =>
      have digit : c.isDigit := h c rfl
      unfold takeSign
      split
      next eq =>
          obtain ⟨rfl, -⟩ := List.cons.inj eq
          exact absurd digit (by decide)
      next eq =>
          obtain ⟨rfl, -⟩ := List.cons.inj eq
          exact absurd digit (by decide)
      next => rfl

theorem readInt?_intText (n : Int) : readInt? (intText n) = some n := by
  have digits : isDigits (Nat.toDigits 10 n.natAbs) := by
    simp only [isDigits, Bool.and_eq_true, Bool.not_eq_true', List.isEmpty_eq_false_iff,
      List.all_eq_true]
    exact ⟨Nat.toDigits_ne_nil, fun _ hc => isDigit_of_mem_toDigits hc⟩
  unfold intText readInt? readSigned?
  by_cases negative : n < 0
  · simp only [negative, if_true, takeSign, digits, digitsValue_toDigits]
    congr 1
    omega
  · have unsigned : takeSign (Nat.toDigits 10 n.natAbs) = (false, Nat.toDigits 10 n.natAbs) :=
      takeSign_of_isDigit fun c hc => isDigit_of_mem_toDigits (List.mem_of_mem_head? hc)
    simp only [negative, if_false, unsigned, digits, if_true, digitsValue_toDigits,
      Bool.false_eq_true]
    congr 1
    omega

theorem readInt64?_intText (value : Int64) : readInt64? (intText value.toInt) = some value := by
  have range := And.intro value.minValue_le_toInt value.toInt_le
  simp only [readInt64?, readInt?_intText, Option.bind_eq_bind, Option.bind_some, range, and_self,
    if_true, Int64.ofInt_toInt]

end TableQuery.Number

namespace TableQuery

open Number

theorem separatesDigits_of_not_mem {text : List Char} (h : '_' ∉ text) (afterDigit : Bool) :
    separatesDigits afterDigit text := by
  induction text generalizing afterDigit with
  | nil => rfl
  | cons c text ih =>
      simp only [List.mem_cons, not_or] at h
      obtain ⟨other, rest⟩ := h
      rw [separatesDigits, if_neg (by simpa using Ne.symm other)]
      exact ih rest c.isDigit

theorem dropSeparators?_of_not_mem {text : List Char} (h : '_' ∉ text) :
    dropSeparators? text = some text := by
  have kept : text.filter (· != '_') = text := by
    rw [List.filter_eq_self]
    intro c hc
    simp only [bne_iff_ne]
    rintro rfl
    exact h hc
  simp [dropSeparators?, separatesDigits_of_not_mem h, kept]

namespace Literal

theorem readNumber?_intText (value : Int64) :
    readNumber? (intText value.toInt) = some (.integer value) := by
  have noSeparator : '_' ∉ intText value.toInt := by
    intro member
    exact absurd ((plainText_intText value.toInt).2 '_' member) (by decide)
  simp only [readNumber?, dropSeparators?_of_not_mem noSeparator, Option.bind_eq_bind,
    Option.bind_some, readInt64?_intText]

end Literal

end TableQuery
