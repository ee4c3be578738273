import TableQuery.Proofs.Query.LiteralReading

/-! # Characters of numerals

A text is read as a number only if it is made of letters, digits, signs, points and, between its
digits, underscores. With any other character in it a literal without quotes is a string.
-/

namespace TableQuery.Number

/-- What a text that is read as a number may hold. -/
def NumeralText (text : List Char) : Prop := ∀ c ∈ text, Plain c ∨ c = '+'

section NumeralText

variable {text : List Char}

theorem numeralText_of_digits (digits : ∀ c ∈ text, c.isDigit) : NumeralText text :=
  fun c member => .inl (plain_of_isDigit (digits c member))

theorem numeralText_append {left right : List Char} (hl : NumeralText left)
    (hr : NumeralText right) : NumeralText (left ++ right) :=
  fun c member => (List.mem_append.mp member).elim (hl c) (hr c)

theorem NumeralText.of_takeSign (h : NumeralText (takeSign text).2) : NumeralText text := by
  unfold takeSign at h
  split at h
  next rest => exact List.forall_mem_cons.mpr ⟨.inl (.inr (.inl rfl)), h⟩
  next rest => exact List.forall_mem_cons.mpr ⟨.inr rfl, h⟩
  next => exact h

theorem numeralText_of_readSigned? {value : List Char → Nat} {number : Int}
    (read : readSigned? value text = some number) : NumeralText text := by
  simp only [readSigned?, Option.ite_none_right_eq_some] at read
  exact (numeralText_of_digits (isDigits_iff.mp read.1).2).of_takeSign

theorem numeralText_of_readExponent? {exponent : Int} (read : readExponent? text = some exponent) :
    NumeralText text := by
  cases text with
  | nil => exact nofun
  | cons mark rest =>
      rw [readExponent?, Option.ite_none_right_eq_some] at read
      obtain ⟨letter, read⟩ := read
      have alpha : mark.isAlphanum := by
        rcases Bool.or_eq_true_iff.mp letter with small | capital
        · rw [beq_iff_eq.mp small]
          decide
        · rw [beq_iff_eq.mp capital]
          decide
      exact List.forall_mem_cons.mpr ⟨.inl (.inl alpha), numeralText_of_readSigned? read⟩

theorem isDigit_of_mem_takeWhile : ∀ c ∈ text.takeWhile Char.isDigit, c.isDigit :=
  List.all_eq_true.mp List.all_takeWhile

theorem numeralText_of_readDecimal? {decimal : Decimal} (read : readDecimal? text = some decimal) :
    NumeralText text := by
  rw [← List.takeWhile_append_dropWhile (p := Char.isDigit) (l := text)]
  refine numeralText_append (numeralText_of_digits isDigit_of_mem_takeWhile) ?_
  unfold readDecimal? at read
  dsimp only at read
  split at read
  next fraction rest point =>
    rw [Option.ite_none_left_eq_some] at read
    obtain ⟨exponent, readRest, -⟩ := Option.bind_eq_some_iff.mp read.2
    rw [point, ← List.takeWhile_append_dropWhile (p := Char.isDigit) (l := rest)]
    refine List.forall_mem_cons.mpr ⟨.inl (.inr (.inr rfl)), ?_⟩
    exact numeralText_append (numeralText_of_digits isDigit_of_mem_takeWhile)
      (numeralText_of_readExponent? readRest)
  next rest noPoint =>
    rw [Option.ite_none_left_eq_some] at read
    obtain ⟨exponent, readRest, -⟩ := Option.bind_eq_some_iff.mp read.2
    exact numeralText_of_readExponent? readRest

theorem numeralText_of_letters (letters : (text.map Char.toLower).all Char.isAlpha) :
    NumeralText text := by
  intro c member
  have lower := List.all_eq_true.mp letters c.toLower (List.mem_map_of_mem member)
  have alpha := Text.isAlpha_toLower_iff.mp lower
  exact .inl (.inl (by simp [Char.isAlphanum, alpha]))

/-- Whatever is read as a number holds letters, digits, signs and points only. -/
theorem numeralText_of_readFloat? {number : Float} (read : readFloat? text = some number) :
    NumeralText text := by
  refine NumeralText.of_takeSign ?_
  unfold readFloat? at read
  cases signed : takeSign text with
  | mk negative rest =>
      rw [signed] at read
      dsimp only at read
      split at read
      next infinite =>
        apply numeralText_of_letters
        simp only [Bool.or_eq_true, decide_eq_true_eq] at infinite
        rcases infinite with short | long
        · rw [short]
          decide
        · rw [long]
          decide
      next =>
        split at read
        next nan =>
          apply numeralText_of_letters
          rw [nan]
          decide
        next =>
          obtain ⟨size, read, -⟩ := Option.bind_eq_some_iff.mp read
          obtain ⟨decimal, read, -⟩ := Option.map_eq_some_iff.mp read
          exact numeralText_of_readDecimal? read

end NumeralText

end TableQuery.Number

namespace TableQuery.Literal

open Number

theorem readNumber?_eq_none {text : List Char} {c : Char} (member : c ∈ text) (other : ¬Plain c)
    (notPlus : c ≠ '+') (notSeparator : c ≠ '_') : readNumber? text = none := by
  rw [Option.eq_none_iff_forall_ne_some]
  intro literal read
  obtain ⟨digits, dropped, read⟩ := Option.bind_eq_some_iff.mp read
  obtain ⟨-, rfl⟩ := dropSeparators?_eq_some_iff.mp dropped
  have kept : c ∈ text.filter (· != '_') :=
    List.mem_filter.mpr ⟨member, by simpa using notSeparator⟩
  obtain ⟨number, read⟩ : ∃ number, readFloat? (text.filter (· != '_')) = some number := by
    split at read
    next value whole => exact exists_readFloat?_of_readInt? (readInt64?_eq_some_iff.mp whole)
    next =>
      obtain ⟨number, read, -⟩ := Option.map_eq_some_iff.mp read
      exact ⟨number, read⟩
  exact (numeralText_of_readFloat? read c kept).elim other notPlus

end TableQuery.Literal
