import TableQuery.Query.SlicedRecognition
import TableQuery.Proofs.Number.NumeralText
import TableQuery.Proofs.Query.CanonicalReading
import TableQuery.Proofs.Text.Slice

/-! # Where a comparison is found

The symbols are tried in a fixed order at one character after the other. The order has the longer
symbols first, so what is found is the leftmost comparison and the longest at its place. All that
follows it belongs to the literal: a comparison further on is never cut, and since no number has
its characters, it stands unchanged in the text of a string.
-/

namespace TableQuery

open Text

namespace Comparison

variable {ε : Type} {text left ahead : List Char}

theorem exists_scanOrder_eq (comparison : Comparison) :
    ∃ before after, scanOrder = before ++ comparison :: after ∧
      ∀ other ∈ before, other ≠ comparison ∧
        comparison.symbol.toList.length ≤ other.symbol.toList.length := by
  cases comparison with
  | le => exact ⟨[], _, rfl, by decide⟩
  | ge => exact ⟨[.le], _, rfl, by decide⟩
  | ne => exact ⟨[.le, .ge], _, rfl, by decide⟩
  | eq => exact ⟨[.le, .ge, .ne], _, rfl, by decide⟩
  | lt => exact ⟨[.le, .ge, .ne, .eq], _, rfl, by decide⟩
  | gt => exact ⟨[.le, .ge, .ne, .eq, .lt], _, rfl, by decide⟩

theorem find?_scanOrder (rest : List Char) :
    (scanOrder.find? fun comparison => comparison.symbol.toList.isPrefixOf rest) =
      (leading? rest).map Prod.fst := by
  cases found : leading? rest with
  | none =>
      rw [Option.map_none, List.find?_eq_none]
      intro other _ stands
      obtain ⟨after, eq⟩ := List.isPrefixOf_iff_prefix.mp stands
      exact leading?_eq_none_iff.mp found other after eq.symm
  | some hit =>
      obtain ⟨comparison, after⟩ := hit
      have here := eq_of_leading?_eq_some found
      obtain ⟨before, behind, order, longer⟩ := exists_scanOrder_eq comparison
      rw [Option.map_some, List.find?_eq_some_iff_append]
      refine ⟨List.isPrefixOf_iff_prefix.mpr ⟨after, here.symm⟩, before, behind, order, ?_⟩
      intro other earlier
      obtain ⟨different, long⟩ := longer other earlier
      rw [Bool.not_eq_true', Bool.eq_false_iff]
      intro stands
      obtain ⟨otherAfter, eq⟩ := List.isPrefixOf_iff_prefix.mp stands
      have lengths := Nat.le_antisymm (length_symbol_le_of_leading? found eq.symm) long
      exact different (symbol_toList_injective (List.append_inj (eq.trans here) lengths).1)

theorem gives_scanFrom (cut : text = left ++ ahead) :
    (scanFrom text (byteSize left) ahead : Sliced ε (Option (Nat × Comparison))).Gives
      (.ok ((firstPlace? (fun _ rest => leading? rest) left.reverse ahead).map
        fun (before, comparison, _) => (byteSize before, comparison))) := by
  induction ahead generalizing left with
  | nil => exact Sliced.gives_pure _
  | cons c ahead ih =>
      rw [scanFrom, firstPlace?]
      refine (Sliced.gives_take_end cut rfl).bind_ok ?_
      rw [find?_scanOrder]
      cases leading? (c :: ahead) with
      | some found =>
          simp only [Option.map_some, List.reverse_reverse]
          exact Sliced.gives_pure _
      | none =>
          have later := ih (show text = left ++ [c] ++ ahead by simp [cut])
          simpa using later

/-- The scan finds what the search on characters finds, and no slice of it is refused. -/
theorem gives_scan (text : List Char) :
    (scan text : Sliced ε (Option (Nat × Comparison))).Gives
      (.ok ((find? text).map fun (left, comparison, _) => (byteSize left, comparison))) :=
  gives_scanFrom (show text = [] ++ text from rfl)

variable {comparison other : Comparison} {right : List Char}

theorem Splits.clear (h : Splits text left comparison right) :
    ∀ c ∈ left, c ≠ '=' ∧ c ≠ '<' ∧ c ≠ '>' :=
  clear_of_find? (find?_eq_some_iff.mpr h)

theorem Splits.head?_ne_of_exclamation (h : Splits text left comparison right)
    (last : left.getLast? = some '!') :
    (comparison.symbol.toList ++ right).head? ≠ some '=' := by
  intro first
  obtain ⟨before, rfl⟩ := List.getLast?_eq_some_iff.mp last
  obtain ⟨after, eq⟩ := List.head?_eq_some_iff.mp first
  have stands : text = before ++ Comparison.ne.symbol.toList ++ after := by
    rw [h.written, List.append_assoc, eq]
    simp [symbol]
  have earlier := h.leftmost .ne before after stands
  rw [List.length_append, List.length_singleton] at earlier
  omega

theorem Splits.head?_ne_of_short (h : Splits text left comparison right)
    (short : comparison = .lt ∨ comparison = .gt) : right.head? ≠ some '=' := by
  intro first
  obtain ⟨after, rfl⟩ := List.head?_eq_some_iff.mp first
  rcases short with rfl | rfl
  · have longer := h.longest .le after (by rw [h.written]; simp [symbol])
    simp [symbol] at longer
  · have longer := h.longest .ge after (by rw [h.written]; simp [symbol])
    simp [symbol] at longer

theorem not_infix_of_clear {part : List Char} (clear : ∀ c ∈ part, c ≠ '=' ∧ c ≠ '<' ∧ c ≠ '>')
    (other : Comparison) : ¬other.symbol.toList <:+: part := by
  intro inside
  obtain ⟨c, member, mark⟩ := exists_mem_symbol other
  obtain ⟨notEq, notLt, notGt⟩ := clear c (inside.subset member)
  rcases mark with eq | lt | gt
  · exact notEq eq
  · exact notLt lt
  · exact notGt gt

theorem Splits.exists_eq_append (h : Splits text left comparison right) {before after : List Char}
    (stands : text = before ++ other.symbol.toList ++ after)
    (later : (left ++ comparison.symbol.toList).length ≤ before.length) :
    ∃ inner, before = left ++ comparison.symbol.toList ++ inner ∧
      right = inner ++ other.symbol.toList ++ after := by
  have same := h.written.symm.trans stands
  rw [List.append_assoc before] at same
  obtain ⟨inner, rfl, rest⟩ :
      ∃ inner, before = left ++ comparison.symbol.toList ++ inner ∧
        right = inner ++ (other.symbol.toList ++ after) := by
    rcases List.append_eq_append_iff.mp same with ⟨inner, eq, rest⟩ | ⟨inner, eq, rest⟩
    · exact ⟨inner, eq, rest⟩
    · have lengths := congrArg List.length eq
      simp only [List.length_append] at lengths later
      obtain rfl : inner = [] := List.length_eq_zero_iff.mp (by omega)
      exact ⟨[], by simpa using eq.symm, by simpa using rest.symm⟩
  exact ⟨inner, rfl, by rw [rest, List.append_assoc]⟩

end Comparison

namespace Literal

variable {inner after front back content mark : List Char} {other : Comparison} {literal : Literal}

theorem visible_of_mem_symbol : ∀ c ∈ other.symbol.toList, isBlank c = false ∧ c ≠ '\'' := by
  have visible : other.symbol.toList.all fun c => !isBlank c && c != '\'' := by
    cases other with
    | eq | ne | lt | le | gt | ge => decide
  simpa using visible

theorem readNumber?_of_symbol (front back : List Char) (other : Comparison) :
    readNumber? (front ++ other.symbol.toList ++ back) = none := by
  obtain ⟨c, member, mark⟩ := Comparison.exists_mem_symbol other
  have inText : c ∈ front ++ other.symbol.toList ++ back := by simp [member]
  rcases mark with rfl | rfl | rfl
  all_goals exact readNumber?_eq_none inText (by decide) (by decide) (by decide)

theorem exists_inside_quotes (quoted : front ++ mark ++ back = '\'' :: (content ++ ['\'']))
    (nonempty : mark ≠ []) (unquoted : ∀ c ∈ mark, c ≠ '\'') :
    ∃ head tail, front = '\'' :: head ∧ back = tail ++ ['\''] ∧ content = head ++ mark ++ tail := by
  obtain ⟨head, rfl⟩ : ∃ head, front = '\'' :: head := by
    cases front with
    | nil =>
        obtain ⟨c, more, rfl⟩ := List.exists_cons_of_ne_nil nonempty
        exact absurd (List.cons.inj quoted).1 (unquoted c List.mem_cons_self)
    | cons c head => exact ⟨head, by rw [(List.cons.inj quoted).1]⟩
  have closed : head ++ mark ++ back = content ++ ['\''] := (List.cons.inj quoted).2
  rcases List.eq_nil_or_concat back with rfl | ⟨tail, c, rfl⟩
  · have last : '\'' ∈ (head ++ mark ++ []).getLast? := by rw [closed, List.getLast?_concat]; rfl
    rw [List.append_nil, List.getLast?_append_of_ne_nil _ nonempty] at last
    exact absurd rfl (unquoted _ (List.mem_of_mem_getLast? last))
  · rw [List.concat_eq_append, ← List.append_assoc] at closed
    obtain ⟨inside, quote⟩ := List.append_inj' closed rfl
    exact ⟨head, tail, rfl, by rw [List.concat_eq_append, quote], inside.symm⟩

/-- A literal with a comparison in its text is a string, and the comparison stands in it as it was
    written, with all that is not a blank or a quote at an end of the text. -/
theorem exists_string_of_symbol
    (read : Literal.read (inner ++ other.symbol.toList ++ after) = .ok literal) :
    ∃ head tail, head <:+ inner ∧ tail <+: after ∧
      literal = .string (String.ofList (head ++ other.symbol.toList ++ tail)) := by
  have nonempty : other.symbol.toList ≠ [] := by
    obtain ⟨c, member, -⟩ := Comparison.exists_mem_symbol other
    exact List.ne_nil_of_mem member
  have ends : Trimmed other.symbol.toList :=
    ⟨fun c first => (visible_of_mem_symbol c (List.mem_of_mem_head? first)).1,
      fun c last => (visible_of_mem_symbol c (List.mem_of_mem_getLast? last)).1⟩
  have trimmed := trim_around inner after nonempty ends
  have fromStart : trimStart inner <:+ inner := List.dropWhile_suffix _
  have toEnd : trimEnd after <+: after := by
    obtain ⟨dropped, -, eq⟩ := exists_eq_dropEndWhile_append isBlank after
    exact ⟨dropped, eq.symm⟩
  generalize whole : inner ++ other.symbol.toList ++ after = text at read trimmed
  by_cases quote : (trim text).head? = some '\'' ∨ (trim text).getLast? = some '\''
  · have closed : ¬HalfQuoted (trim text) := by
      intro half
      rw [read_of_halfQuoted half] at read
      cases read
    obtain ⟨content, form⟩ := exists_quoted_of_not_halfQuoted quote closed
    rw [read_of_quoted form] at read
    obtain ⟨head, tail, opening, closing, rfl⟩ :=
      exists_inside_quotes (trimmed.symm.trans form) nonempty
        fun c member => (visible_of_mem_symbol c member).2
    refine ⟨head, tail, ?_, ?_, (Except.ok.inj read).symm⟩
    · exact (opening ▸ List.suffix_cons _ head).trans fromStart
    · exact (closing ▸ List.prefix_append tail _).trans toEnd
  · rw [not_or] at quote
    rw [read_of_unquoted quote.1 quote.2, trimmed, readNumber?_of_symbol] at read
    exact ⟨_, _, fromStart, toEnd, (Except.ok.inj read).symm⟩

end Literal

namespace Comparison

variable {ε : Type}

/-- The scan finds nothing only in a text without `=`, `<` and `>`. What it finds splits the text
    at the leftmost comparison, which is the longest at its place: no comparison starts in what
    stands before it, an exclamation mark there is not followed by `=`, and neither `<` nor `>` is
    found where `=` follows. The column of the condition has no comparison in it. Every comparison
    further on stands at its place in the text of the literal, and as it was written in the string
    that is read from it. -/
theorem scan_splits (text : List Char) :
    ∃ found?, (scan text : Sliced ε (Option (Nat × Comparison))).Gives (.ok found?) ∧
      (found? = none ↔ ∀ c ∈ text, c ≠ '=' ∧ c ≠ '<' ∧ c ≠ '>') ∧
      ∀ offset comparison, found? = some (offset, comparison) →
        ∃ left right, Splits text left comparison right ∧ byteSize left = offset ∧
          (∀ c ∈ left, c ≠ '=' ∧ c ≠ '<' ∧ c ≠ '>') ∧
          (left.getLast? = some '!' → (comparison.symbol.toList ++ right).head? ≠ some '=') ∧
          (comparison = .lt ∨ comparison = .gt → right.head? ≠ some '=') ∧
          (Condition.recognize text = do
            let literal ← Literal.read right
            return ⟨String.ofList (trim left), comparison, literal⟩) ∧
          (∀ other : Comparison, ¬other.symbol.toList <:+: trim left) ∧
          ∀ (other : Comparison) (before after : List Char),
            text = before ++ other.symbol.toList ++ after →
            (left ++ comparison.symbol.toList).length ≤ before.length →
            ∃ inner, before = left ++ comparison.symbol.toList ++ inner ∧
              right = inner ++ other.symbol.toList ++ after ∧
              ∀ literal, Literal.read right = .ok literal →
                ∃ head tail, head <:+ inner ∧ tail <+: after ∧
                  literal = .string (String.ofList (head ++ other.symbol.toList ++ tail)) := by
  refine ⟨_, gives_scan text, ?_, ?_⟩
  · rw [Option.map_eq_none_iff, find?_eq_none_iff]
  · intro offset comparison found
    obtain ⟨⟨left, _, right⟩, split, same⟩ := Option.map_eq_some_iff.mp found
    cases same
    have splits := find?_eq_some_iff.mp split
    have clear : ∀ c ∈ trim left, c ≠ '=' ∧ c ≠ '<' ∧ c ≠ '>' :=
      fun c member => splits.clear c (mem_of_mem_trim member)
    refine ⟨left, right, splits, rfl, splits.clear, splits.head?_ne_of_exclamation,
      splits.head?_ne_of_short, Condition.recognize_of_splits splits, not_infix_of_clear clear, ?_⟩
    intro other before after stands later
    obtain ⟨inner, eq, rfl⟩ := splits.exists_eq_append stands later
    exact ⟨inner, eq, rfl, fun literal read => Literal.exists_string_of_symbol read⟩

/-- An exclamation mark that `<` follows is left to the column, and a comparison between quotes to
    the literal. -/
theorem scan_splits_exclamation :
    ∃ left right, Splits "a!<'x=y'".toList left .lt right ∧ left.getLast? = some '!' ∧
      (lt.symbol.toList ++ right).head? ≠ some '=' ∧ right.head? ≠ some '=' ∧
      ∃ inner, right = inner ++ eq.symbol.toList ++ "y'".toList ∧
        Literal.read right = .ok (.string "x=y") ∧
        ∃ head tail, head <:+ inner ∧ tail <+: "y'".toList ∧
          Literal.string "x=y" = .string (String.ofList (head ++ eq.symbol.toList ++ tail)) := by
  obtain ⟨found?, gives, -, splitting⟩ := @scan_splits Empty "a!<'x=y'".toList
  have found : found? = some (2, .lt) :=
    Except.ok.inj (Option.some.inj (gives.result.symm.trans rfl))
  obtain ⟨left, right, splits, -, -, exclamation, short, -, -, further⟩ := splitting 2 .lt found
  obtain ⟨rfl, rfl⟩ : left = "a!".toList ∧ right = "'x=y'".toList := by
    have split : find? "a!<'x=y'".toList = some ("a!".toList, .lt, "'x=y'".toList) := by
      decide +kernel
    simpa using (find?_eq_some_iff.mpr splits).symm.trans split
  obtain ⟨inner, -, rest, kept⟩ :=
    further .eq "a!<'x".toList "y'".toList (by decide) (by decide)
  have read : Literal.read "'x=y'".toList = .ok (.string "x=y") := by rfl
  exact ⟨_, _, splits, rfl, exclamation rfl, short (.inl rfl), inner, rest, read, kept _ read⟩

end Comparison

end TableQuery
