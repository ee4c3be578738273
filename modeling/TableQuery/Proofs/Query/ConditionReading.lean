import TableQuery.Proofs.Query.Layout
import TableQuery.Proofs.Number.NumberText

/-! # Conditions are read from their layouts

A condition is cut at the leftmost comparison, the longer symbol first. Since a gap stands on
each side of the symbol, and the column holds no character that starts one, the cut falls where
the condition was written.
-/

namespace TableQuery

open Text Number

namespace Comparison

theorem leading?_symbol (comparison : Comparison) {rest : List Char} (h : rest.head? ≠ some '=') :
    leading? (comparison.symbol.toList ++ rest) = some (comparison, rest) := by
  cases comparison with
  | eq | ne | le | ge => rfl
  | lt | gt =>
      cases rest with
      | nil => rfl
      | cons c rest =>
          have other : c ≠ '=' := by simpa using h
          simp [leading?, symbol, other]

/-- An exclamation mark alone starts no symbol, so it may stand inside what is passed over. -/
theorem leading?_eq_none {left rest : List Char} (nonempty : left ≠ [])
    (clear : ∀ c ∈ left, c ≠ '=' ∧ c ≠ '<' ∧ c ≠ '>') (last : left.getLast? ≠ some '!') :
    leading? (left ++ rest) = none := by
  cases left with
  | nil => exact absurd rfl nonempty
  | cons c left =>
      obtain ⟨notEq, notLt, notGt⟩ := clear c List.mem_cons_self
      cases left with
      | nil =>
          have notNe : c ≠ '!' := by simpa using last
          simp [leading?, notEq, notLt, notGt, notNe]
      | cons d left =>
          have inner : d ≠ '=' := (clear d (by simp)).1
          simp [leading?, notEq, notLt, notGt, inner]

theorem leading?_ne_none {c : Char} (h : c = '=' ∨ c = '<' ∨ c = '>') (rest : List Char) :
    leading? (c :: rest) ≠ none := by
  rcases h with rfl | rfl | rfl
  · simp [leading?]
  · unfold leading?
    split <;> simp_all
  · unfold leading?
    split <;> simp_all

theorem find?_separated {left rest right : List Char} {comparison : Comparison}
    (clear : ∀ c ∈ left, c ≠ '=' ∧ c ≠ '<' ∧ c ≠ '>') (last : left.getLast? ≠ some '!')
    (here : leading? rest = some (comparison, right)) :
    find? (left ++ rest) = some (left, comparison, right) := by
  apply firstPlace?_eq_some_iff.mpr
  refine ⟨left, rest, rfl, rfl, here, ?_⟩
  intro passed ahead eq shorter
  rcases List.append_eq_append_iff.mp eq with ⟨excess, rfl, -⟩ | ⟨excess, rfl, rfl⟩
  · simp only [List.length_append] at shorter
    omega
  · have nonempty : excess ≠ [] := by
      rintro rfl
      simp at shorter
    apply leading?_eq_none nonempty
    · intro c hc
      exact clear c (List.mem_append_right passed hc)
    · rwa [List.getLast?_append_of_ne_nil passed nonempty] at last

theorem clear_of_find? {text left right : List Char} {comparison : Comparison}
    (found : find? text = some (left, comparison, right)) :
    ∀ c ∈ left, c ≠ '=' ∧ c ≠ '<' ∧ c ≠ '>' := by
  obtain ⟨skipped, rest, rfl, rfl, -, earliest⟩ := firstPlace?_eq_some_iff.mp found
  intro c hc
  obtain ⟨passed, ahead, rfl⟩ := List.append_of_mem hc
  have miss := earliest passed (c :: ahead ++ rest) (by simp) (by simp)
  refine ⟨?_, ?_, ?_⟩
  · intro eq
    exact leading?_ne_none (.inl eq) _ miss
  · intro eq
    exact leading?_ne_none (.inr (.inl eq)) _ miss
  · intro eq
    exact leading?_ne_none (.inr (.inr eq)) _ miss

theorem isBlank_head?_symbol (comparison : Comparison) (rest : List Char) :
    ∀ c ∈ (comparison.symbol.toList ++ rest).head?, isBlank c = false := by
  cases comparison with
  | eq | ne | lt | le | gt | ge =>
      simp only [symbol, String.reduceToList, List.cons_append, List.head?_cons, Option.mem_def,
        Option.some.injEq, forall_eq']
      decide

end Comparison

namespace Literal

/-- A text that is read as the literal, and at whose end nothing could be lost to the query
    around it. -/
structure ReadsAs (literal : Literal) (text : List Char) : Prop where
  read : Literal.read text = .ok literal
  nonempty : text ≠ []
  closed : ∀ c ∈ text.getLast?, isBlank c = false ∧ c ≠ ';'

theorem read_blanks_append {blanks : List Char} (hb : Blanks blanks) (text : List Char) :
    read (blanks ++ text) = read text := by
  unfold read
  rw [trim_blanks_append hb]

theorem read_of_quoted {text content : List Char} (form : trim text = '\'' :: (content ++ ['\''])) :
    read text = .ok (.string (String.ofList content)) := by
  have last : ('\'' :: (content ++ ['\''])).getLast? = some '\'' := by
    rw [← List.cons_append, List.getLast?_concat]
  unfold read
  rw [form]
  simp [last]

theorem read_of_unquoted {text : List Char} (opens : (trim text).head? ≠ some '\'')
    (closes : (trim text).getLast? ≠ some '\'') :
    read text = .ok ((readNumber? (trim text)).getD (.string (String.ofList (trim text)))) := by
  have unopened : ((trim text).head? == some '\'') = false := by simpa using opens
  have unclosed : ((trim text).getLast? == some '\'') = false := by simpa using closes
  unfold read
  simp only [unopened, unclosed, Bool.and_self, Bool.or_self, Bool.false_and, Bool.false_eq_true,
    if_false]

theorem readsAs_quoted (text : String) :
    ReadsAs (.string text) ('\'' :: (text.toList ++ ['\''])) := by
  have last : ('\'' :: (text.toList ++ ['\''])).getLast? = some '\'' := by
    rw [← List.cons_append, List.getLast?_concat]
  have trimmed : Trimmed ('\'' :: (text.toList ++ ['\''])) := by
    simp only [Trimmed, last, List.head?_cons, Option.mem_def, Option.some.injEq, forall_eq']
    decide
  refine ⟨?_, List.cons_ne_nil _ _, ?_⟩
  · rw [read_of_quoted (trim_eq_self trimmed), String.ofList_toList]
  · simp only [last, Option.mem_def, Option.some.injEq, forall_eq']
    decide

theorem readsAs_plainText {text : List Char} (plain : PlainText text) :
    ReadsAs ((readNumber? text).getD (.string (String.ofList text))) text := by
  have visible : ∀ c ∈ text, isBlank c = false ∧ c ≠ '\'' ∧ c ≠ ';' :=
    fun c hc => (plain.2 c hc).visible
  have trimmed : Trimmed text :=
    ⟨fun c hc => (visible c (List.mem_of_mem_head? hc)).1,
      fun c hc => (visible c (List.mem_of_mem_getLast? hc)).1⟩
  have opens : (trim text).head? ≠ some '\'' := by
    rw [trim_eq_self trimmed]
    exact fun first => (visible _ (List.mem_of_mem_head? first)).2.1 rfl
  have closes : (trim text).getLast? ≠ some '\'' := by
    rw [trim_eq_self trimmed]
    exact fun last => (visible _ (List.mem_of_mem_getLast? last)).2.1 rfl
  refine ⟨?_, plain.1, ?_⟩
  · have unquoted := read_of_unquoted opens closes
    rwa [trim_eq_self trimmed] at unquoted
  · intro c hc
    obtain ⟨blank, -, semicolon⟩ := visible c (List.mem_of_mem_getLast? hc)
    exact ⟨blank, semicolon⟩

theorem readsAs_intText (value : Int64) : ReadsAs (.integer value) (intText value.toInt) := by
  have reads := readsAs_plainText (plainText_intText value.toInt)
  rwa [readNumber?_intText] at reads

theorem Layout.readsAs {literal : Literal} {text : List Char} (h : Layout literal text) :
    ReadsAs literal text := by
  cases h with
  | string => exact readsAs_quoted _
  | integer => exact readsAs_intText _

end Literal

namespace Condition

variable {form : LiteralForm} {condition : Condition} {text : List Char}

theorem Layout.closed (h : condition.Layout Literal.ReadsAs text) :
    text ≠ [] ∧ ∀ c ∈ text.getLast?, isBlank c = false ∧ c ≠ ';' := by
  cases h with
  | mk leftGap rightGap written =>
      refine ⟨by simp [written.nonempty], ?_⟩
      rw [← List.append_assoc, List.getLast?_append_of_ne_nil _ written.nonempty]
      exact written.closed

theorem recognize_of_layout (separable : condition.Separable)
    (h : condition.Layout Literal.ReadsAs text) : recognize (trim text) = .ok condition := by
  have closed := h.closed
  cases h with
  | @mk left right literal leftGap rightGap written =>
      have tail : condition.comparison.symbol.toList ++ right ++ literal ≠ [] := by
        simp [written.nonempty]
      obtain ⟨kept, blank, start, eq⟩ := exists_trim_eq_append separable.trimmed leftGap tail
        (by rw [List.append_assoc]; exact condition.comparison.isBlank_head?_symbol _)
        (fun c hc => (closed.2 c (by rwa [List.getLast?_append_of_ne_nil _ tail])).1)
      have here : Comparison.leading? (condition.comparison.symbol.toList ++ right ++ literal) =
          some (condition.comparison, right ++ literal) := by
        rw [List.append_assoc]
        exact condition.comparison.leading?_symbol (rightGap.head?_ne (by decide))
      have clear : ∀ c ∈ condition.column.toList ++ kept, c ≠ '=' ∧ c ≠ '<' ∧ c ≠ '>' := by
        intro c hc
        rcases List.mem_append.mp hc with inColumn | inGap
        · exact separable.noComparison c inColumn
        · refine ⟨?_, ?_, ?_⟩
          · exact blank.ne_of_mem (by decide) inGap
          · exact blank.ne_of_mem (by decide) inGap
          · exact blank.ne_of_mem (by decide) inGap
      have last : (condition.column.toList ++ kept).getLast? ≠ some '!' := by
        by_cases none : kept = []
        · simp [none, start none]
        · rw [List.getLast?_append_of_ne_nil _ none]
          intro exclamation
          exact blank.ne_of_mem (by decide) (List.mem_of_mem_getLast? exclamation) rfl
      unfold recognize
      rw [eq, Comparison.find?_separated clear last here]
      simp only [Literal.read_blanks_append rightGap.2, written.read, trim_append_blanks blank,
        trim_eq_self separable.trimmed, String.ofList_toList]
      rfl

end Condition

end TableQuery
