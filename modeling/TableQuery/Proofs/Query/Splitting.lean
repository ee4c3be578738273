import TableQuery.Proofs.Query.ConditionReading

/-! # Where a condition is split

A condition is split at the leftmost place where the symbol of a comparison stands, and there at
the longest symbol. The search says so of whatever it finds, and it finds nothing only in a text
without any of the characters `=`, `<` and `>`.
-/

namespace TableQuery.Comparison

open Text

/-- The leftmost comparison of a text, the longest of those that stand at its place, and the two
    parts of the text beside it. -/
structure Splits (text left : List Char) (comparison : Comparison) (right : List Char) : Prop where
  written : text = left ++ comparison.symbol.toList ++ right
  leftmost : ∀ (other : Comparison) (before after : List Char),
    text = before ++ other.symbol.toList ++ after → left.length ≤ before.length
  longest : ∀ (other : Comparison) (after : List Char),
    text = left ++ other.symbol.toList ++ after →
      other.symbol.toList.length ≤ comparison.symbol.toList.length

variable {comparison other : Comparison} {text left right rest : List Char}

theorem symbol_toList_injective (same : comparison.symbol.toList = other.symbol.toList) :
    comparison = other := by
  cases comparison <;> cases other <;> simp_all [symbol]

theorem exists_mem_symbol (comparison : Comparison) :
    ∃ c ∈ comparison.symbol.toList, c = '=' ∨ c = '<' ∨ c = '>' := by
  cases comparison with
  | eq | ne | le | ge => exact ⟨'=', by simp [symbol], .inl rfl⟩
  | lt => exact ⟨'<', by simp [symbol], .inr (.inl rfl)⟩
  | gt => exact ⟨'>', by simp [symbol], .inr (.inr rfl)⟩

theorem eq_of_leading?_eq_some (found : leading? text = some (comparison, rest)) :
    text = comparison.symbol.toList ++ rest := by
  unfold leading? at found
  split at found <;> cases found <;> rfl

theorem leading?_symbol_ne_none (comparison : Comparison) (rest : List Char) :
    leading? (comparison.symbol.toList ++ rest) ≠ none := by
  cases comparison with
  | eq => exact leading?_ne_none (.inl rfl) rest
  | lt => exact leading?_ne_none (.inr (.inl rfl)) rest
  | gt => exact leading?_ne_none (.inr (.inr rfl)) rest
  | ne | le | ge => simp [leading?, symbol]

theorem length_symbol_le_of_leading? (found : leading? text = some (comparison, rest))
    {after : List Char} (stands : text = other.symbol.toList ++ after) :
    other.symbol.toList.length ≤ comparison.symbol.toList.length := by
  cases other with
  | ne | le | ge =>
      -- A symbol of two characters is looked for before any shorter one.
      rw [stands] at found
      obtain ⟨rfl, -⟩ := Prod.mk.inj (Option.some.inj found)
      exact Nat.le_refl _
  | eq | lt | gt =>
      cases comparison <;> simp [symbol]

theorem leading?_eq_none_iff :
    leading? text = none ↔
      ∀ (other : Comparison) (after : List Char), text ≠ other.symbol.toList ++ after := by
  constructor
  · rintro miss other after rfl
    exact leading?_symbol_ne_none other after miss
  · intro absent
    cases found : leading? text with
    | none => rfl
    | some hit => exact absurd (eq_of_leading?_eq_some found) (absent hit.1 hit.2)

/-- The longest symbol at the start of a text is the one that is found there. -/
theorem leading?_symbol_of_longest
    (longest : ∀ (other : Comparison) (after : List Char),
      comparison.symbol.toList ++ rest = other.symbol.toList ++ after →
        other.symbol.toList.length ≤ comparison.symbol.toList.length) :
    leading? (comparison.symbol.toList ++ rest) = some (comparison, rest) := by
  cases found : leading? (comparison.symbol.toList ++ rest) with
  | none => exact absurd found (leading?_symbol_ne_none comparison rest)
  | some hit =>
      obtain ⟨other, after⟩ := hit
      have same := eq_of_leading?_eq_some found
      have lengths := Nat.le_antisymm (length_symbol_le_of_leading? found rfl)
        (longest other after same)
      obtain ⟨symbols, rests⟩ := List.append_inj same lengths
      rw [symbol_toList_injective symbols, rests]

theorem Splits.ne_nil (h : Splits text left comparison right) : text ≠ [] := by
  obtain ⟨c, member, -⟩ := exists_mem_symbol comparison
  have inText : c ∈ text := by simp [h.written, member]
  exact List.ne_nil_of_mem inText

theorem find?_eq_some_iff :
    find? text = some (left, comparison, right) ↔ Splits text left comparison right := by
  rw [find?, firstPlace?_eq_some_iff]
  constructor
  · rintro ⟨skipped, rest, rfl, rfl, hit, earliest⟩
    have same := eq_of_leading?_eq_some hit
    refine ⟨by simp [same], ?_, ?_⟩
    · intro other before after stands
      apply Nat.le_of_not_lt
      intro shorter
      have miss := earliest before (other.symbol.toList ++ after) (by simpa using stands)
        (by simpa using shorter)
      exact leading?_symbol_ne_none other after miss
    · intro other after stands
      rw [List.append_assoc] at stands
      exact length_symbol_le_of_leading? hit (List.append_cancel_left stands)
  · rintro ⟨rfl, leftmost, longest⟩
    refine ⟨left, comparison.symbol.toList ++ right, by simp, by simp, ?_, ?_⟩
    · apply leading?_symbol_of_longest
      intro other after stands
      exact longest other after (by rw [List.append_assoc, stands, List.append_assoc])
    · intro passed ahead eq shorter
      rw [leading?_eq_none_iff]
      rintro other after rfl
      have later := leftmost other passed after (by rw [eq, List.append_assoc])
      omega

theorem find?_eq_none_iff :
    find? text = none ↔ ∀ c ∈ text, c ≠ '=' ∧ c ≠ '<' ∧ c ≠ '>' := by
  rw [find?, firstPlace?_eq_none_iff]
  constructor
  · intro miss c member
    obtain ⟨passed, ahead, rfl⟩ := List.append_of_mem member
    have none := miss passed (c :: ahead) rfl
    refine ⟨?_, ?_, ?_⟩
    · exact fun mark => leading?_ne_none (.inl mark) ahead none
    · exact fun mark => leading?_ne_none (.inr (.inl mark)) ahead none
    · exact fun mark => leading?_ne_none (.inr (.inr mark)) ahead none
  · intro clear passed ahead eq
    rw [leading?_eq_none_iff]
    rintro other after rfl
    obtain ⟨c, member, mark⟩ := exists_mem_symbol other
    obtain ⟨notEq, notLt, notGt⟩ := clear c (by rw [eq]; simp [member])
    rcases mark with rfl | rfl | rfl
    · exact notEq rfl
    · exact notLt rfl
    · exact notGt rfl

end TableQuery.Comparison
