import TableQuery.Proofs.Query.CanonicalReading
import TableQuery.Proofs.Query.Outcome

/-! # Counts beside other items

A count stands alone: a selection that goes on after it, with a comma and more items, is refused.
But what is looked at is only how the selection starts and ends. When the last item ends with a
parenthesis, as a second count does, that one is taken to close the first, and the selection is a
count of one column whose name holds all that stands between.
-/

namespace TableQuery

open Text

/-- A count and more items after it, between commas. -/
inductive CombinedLayout (aggregate : Aggregate) (items : List String) : List Char → Prop where
  | mk {counted blanks listed : List Char} (first : Selection.Layout (.count aggregate) counted)
      (blank : Blanks blanks) (rest : ColumnsLayout items listed) :
      CombinedLayout aggregate items (counted ++ blanks ++ ',' :: listed)

/-- A name that nothing in a selection takes apart. -/
structure PlainName (name : String) : Prop where
  selectable : Selectable name
  nonempty : name ≠ ""
  unbroken : ∀ c ∈ name.toList, c ≠ ',' ∧ c ≠ '(' ∧ c ≠ ')'

/-- What a selection lists: a plain name, or a count of rows or of what has a plain name. -/
inductive SelectionItem (item : String) : Prop where
  | name (plain : PlainName item)
  | countRows (written : Selection.Layout (.count ⟨.rows, ""⟩) item.toList)
  | countColumn {name : String} (plain : PlainName name)
      (written : Selection.Layout (.count ⟨.column name, ""⟩) item.toList)

/-- A text that asks for a selection from a whole table, its keywords in either case. -/
inductive Query.Asks (selected : List Char) (source : String) : List Char → Prop where
  | mk {leading select first second fromWord third : List Char} {ending : Ending}
      (leadingBlank : Blanks leading) (spellsSelect : Spells "SELECT".toList select)
      (firstGap : Gap first) (secondGap : Gap second) (spellsFrom : Spells "FROM".toList fromWord)
      (thirdGap : Gap third) :
      Asks selected source
        (leading ++ (select ++ (first ++ selected ++ second ++ fromWord ++
          (third ++ source.toList))) ++ ending.text)

section Selections

variable {aggregate : Aggregate} {items : List String} {selected listed : List Char} {last : String}

theorem Padded.getLast?_trimEnd {text padded : List Char} (h : Padded text padded)
    (trimmed : Trimmed text) : (trimEnd padded).getLast? = text.getLast? := by
  obtain ⟨left, right, leftBlank, rightBlank, rfl⟩ := h
  rw [trimEnd_append_blanks rightBlank]
  by_cases empty : text = []
  · have none : trimEnd left = [] := by simpa [trimEnd] using trimEnd_append_blanks leftBlank []
    rw [empty, List.append_nil, none]
  · have ends : (left ++ text).getLast? = text.getLast? := List.getLast?_append_of_ne_nil left empty
    rw [trimEnd, dropEndWhile_eq_self (ends ▸ trimmed.2), ends]

theorem ColumnsLayout.getLast?_trimEnd (h : ColumnsLayout items listed)
    (trimmed : ∀ item ∈ items, Trimmed item.toList) (ends : items.getLast? = some last) :
    (',' :: trimEnd listed).getLast? = some (last.toList.getLast?.getD ',') := by
  induction h with
  | @last item piece padded =>
      obtain rfl : item = last := by simpa using ends
      rw [List.getLast?_cons, padded.getLast?_trimEnd (trimmed item List.mem_cons_self)]
  | @cons item items piece listed padded rest ih =>
      have filled : items ≠ [] := by
        rintro rfl
        cases rest
      rw [trimEnd_append_cons piece (by decide), ← List.cons_append,
        List.getLast?_append_of_ne_nil _ (List.cons_ne_nil ',' _)]
      apply ih fun other member => trimmed other (List.mem_cons_of_mem item member)
      rwa [List.getLast?_cons_of_ne_nil filled] at ends

theorem CombinedLayout.not_occurs_from (h : CombinedLayout aggregate items selected)
    (separable : Selection.Separable (.count aggregate))
    (selectable : ∀ item ∈ items, Selectable item) : ¬Occurs "FROM".toList selected := by
  cases h with
  | @mk counted blanks listed first blank rest =>
      intro occurs
      rw [List.append_cons, List.append_assoc counted] at occurs
      have foreign : ∀ c ∈ blanks ++ [','], c.isAlpha = false :=
        isAlpha_eq_false_of_mem_concat blank rfl
      rcases occurs_append_gap letters_from foreign occurs (by simp) with inCount | inList
      · exact first.not_occurs_from separable inCount
      · exact rest.not_occurs_from selectable inList

/-- The parenthesis of the count is open up to the end of the selection, beyond the first comma. -/
theorem CombinedLayout.exists_trim_eq (h : CombinedLayout aggregate items selected)
    (trimmed : ∀ item ∈ items, Trimmed item.toList) (ends : items.getLast? = some last) :
    ∃ keyword gap inner, Spells "COUNT".toList keyword ∧ Blanks gap ∧
      trim selected = keyword ++ gap ++ '(' :: inner ∧ ',' ∈ inner ∧
      inner.getLast? = some (last.toList.getLast?.getD ',') := by
  cases h with
  | @mk counted blanks listed first blank rest =>
      cases first with
      | @count _ keyword gap left right spelled gapBlank leftBlank rightBlank =>
          have comma : isBlank ',' = false := by decide
          refine ⟨keyword, gap, left ++ aggregate.counted.text.toList ++ right ++ [')'] ++ blanks ++
            ',' :: trimEnd listed, spelled, gapBlank, ?_, by simp, ?_⟩
          · simp only [List.append_assoc]
            rw [trim, trimStart_eq_self (spelled.isBlank_head? letters_count _)]
            simpa using trimEnd_append_cons (keyword ++ gap ++ '(' :: (left ++
              aggregate.counted.text.toList ++ right ++ [')']) ++ blanks) comma listed
          · rw [List.getLast?_append_of_ne_nil _ (List.cons_ne_nil ',' _)]
            exact rest.getLast?_trimEnd trimmed ends

theorem CombinedLayout.recognize_trim_of_open (h : CombinedLayout aggregate items selected)
    (trimmed : ∀ item ∈ items, Trimmed item.toList) (ends : items.getLast? = some last)
    (unclosed : last.toList.getLast? ≠ some ')') :
    Selection.recognize (trim selected) =
      .error (.invalidAggregate (String.ofList (trim selected))) := by
  obtain ⟨keyword, gap, inner, spelled, blank, eq, -, final⟩ := h.exists_trim_eq trimmed ends
  refine Selection.recognize_of_brokenCount ⟨keyword, gap, inner, spelled, blank, eq, .inl ?_⟩
  rw [final]
  cases closing : last.toList.getLast? with
  | none => decide
  | some c =>
      rw [closing] at unclosed
      exact unclosed

theorem CombinedLayout.exists_recognize_trim (h : CombinedLayout aggregate items selected)
    (separable : Selection.Separable (.count aggregate))
    (selectable : ∀ item ∈ items, Selectable item) (ends : items.getLast? = some last)
    (closed : last.toList.getLast? = some ')') :
    ∃ name, ',' ∈ name.toList ∧ Selection.Layout (.count ⟨.column name, ""⟩) (trim selected) ∧
      Selection.recognize (trim selected) =
        .ok (.count ⟨.column name, String.ofList (trim selected)⟩) := by
  obtain ⟨keyword, gap, inner, spelled, blank, eq, comma, final⟩ :=
    h.exists_trim_eq (fun item member => (selectable item member).1) ends
  rw [closed, Option.getD_some] at final
  obtain ⟨argument, rfl⟩ := List.getLast?_eq_some_iff.mp final
  obtain ⟨left, right, leftBlank, rightBlank, padded⟩ := exists_eq_blanks_trim_blanks argument
  obtain ⟨name, named⟩ : ∃ name : String, name.toList = trim argument :=
    ⟨String.ofList (trim argument), String.toList_ofList⟩
  rw [← named] at padded
  have inName : ',' ∈ name.toList := by
    have inArgument : ',' ∈ argument := by simpa using comma
    rw [padded] at inArgument
    simpa [Blanks.not_mem_comma leftBlank, Blanks.not_mem_comma rightBlank] using inArgument
  have absent : ¬Occurs "FROM".toList argument := by
    intro occurs
    refine not_occurs_trim (h.not_occurs_from separable selectable) ?_
    rw [eq]
    simpa using occurs.extend (keyword ++ gap ++ ['(']) [')']
  have layout : Selection.Layout (.count ⟨.column name, ""⟩) (trim selected) := by
    rw [eq, padded]
    exact .count spelled blank leftBlank rightBlank
  have clear : Selection.Separable (.count ⟨.column name, ""⟩) := by
    refine .countColumn ⟨named ▸ trimmed_trim argument, named ▸ not_occurs_trim absent⟩ ?_ ?_
    · rintro rfl
      exact absurd inName (by decide)
    · rintro rfl
      exact absurd inName (by decide)
  refine ⟨name, inName, layout, ?_⟩
  have read := Selection.recognize_of_layout clear layout
  rwa [trim_eq_self (trimmed_trim selected)] at read

end Selections

namespace Query

theorem Asks.recognize_eq {selected text : List Char} {source : String}
    (h : Asks selected source text) (absent : ¬Occurs "FROM".toList selected)
    (plain : PlainSource source) :
    recognize (String.ofList text) = do
      let selection ← Selection.recognize (trim selected)
      return ⟨selection, source, none⟩ := by
  cases h with
  | @mk leading select first second fromWord third ending leadingBlank spellsSelect firstGap
      secondGap spellsFrom thirdGap =>
      obtain ⟨rest, split, read⟩ := ClauseLayout.plain.splitCondition_trim plain.trimmed
        plain.noWhere nofun
      rw [recognize, String.toList_ofList, recognizeChars_framed leadingBlank spellsSelect firstGap
        absent secondGap spellsFrom thirdGap plain.trimmed.2
        (fun semicolon => absurd semicolon plain.noSemicolon), split]
      simp only [read, String.ofList_toList]
      rfl

/-- A count with more items after it is refused unless the last item ends with a parenthesis.
    With one, what is counted is a column, and its name goes on over a comma. -/
theorem recognize_combined {aggregate : Aggregate} {items : List String}
    {selected text : List Char} {source last : String}
    (separable : Selection.Separable (.count aggregate))
    (selectable : ∀ item ∈ items, Selectable item)
    (combined : CombinedLayout aggregate items selected) (plain : PlainSource source)
    (asks : Asks selected source text) (ends : items.getLast? = some last) :
    (last.toList.getLast? ≠ some ')' → recognize (String.ofList text) =
        .error (.invalidAggregate (String.ofList (trim selected)))) ∧
      (last.toList.getLast? = some ')' → ∃ name, ',' ∈ name.toList ∧
        Selection.Layout (.count ⟨.column name, ""⟩) (trim selected) ∧
        recognize (String.ofList text) =
          .ok ⟨.count ⟨.column name, String.ofList (trim selected)⟩, source, none⟩) := by
  have absent := combined.not_occurs_from separable selectable
  refine ⟨fun unclosed => ?_, fun closed => ?_⟩
  · have trimmed : ∀ item ∈ items, Trimmed item.toList :=
      fun item member => (selectable item member).1
    rw [asks.recognize_eq absent plain, combined.recognize_trim_of_open trimmed ends unclosed]
    rfl
  · obtain ⟨name, comma, layout, read⟩ :=
      combined.exists_recognize_trim separable selectable ends closed
    refine ⟨name, comma, layout, ?_⟩
    rw [asks.recognize_eq absent plain, read]
    rfl

theorem asks_plain (selected source : String) :
    Asks selected.toList source ("SELECT " ++ selected ++ " FROM " ++ source).toList := by
  have asks : Asks selected.toList source
      ([] ++ ("SELECT".toList ++ ([' '] ++ selected.toList ++ [' '] ++ "FROM".toList ++
        ([' '] ++ source.toList))) ++ (Ending.mk [] 0 [] blanks_nil blanks_nil).text) :=
    .mk blanks_nil (spells_self _) gap_space gap_space (spells_self _) gap_space
  simpa [Ending.text] using asks

/-- A name after a count of rows, and a second count after a count with blanks around. -/
theorem recognize_combined_counts :
    recognize "SELECT COUNT(*), name FROM t" = .error (.invalidAggregate "COUNT(*), name") ∧
      ∃ name, ',' ∈ name.toList ∧
        Selection.Layout (.count ⟨.column name, ""⟩) "Count ( a ) , COUNT(b)".toList ∧
        recognize "SELECT Count ( a ) , COUNT(b) FROM t" =
          .ok ⟨.count ⟨.column name, "Count ( a ) , COUNT(b)"⟩, "t", none⟩ := by
  have spelled : Spells "COUNT".toList "Count".toList := by decide
  have named : CombinedLayout ⟨.rows, ""⟩ ["name"] "COUNT(*), name".toList :=
    .mk (.count (spells_self _) blanks_nil blanks_nil blanks_nil) blanks_nil
      (.last ⟨[' '], [], gap_space.2, blanks_nil, rfl⟩)
  have counted : CombinedLayout ⟨.column "a", ""⟩ ["COUNT(b)"] "Count ( a ) , COUNT(b)".toList :=
    .mk (.count spelled gap_space.2 gap_space.2 gap_space.2) gap_space.2
      (.last ⟨[' '], [], gap_space.2, blanks_nil, rfl⟩)
  constructor
  · exact (recognize_combined .countRows (by decide) named (by decide)
      (asks_plain "COUNT(*), name" "t") rfl).1 (by decide)
  · exact (recognize_combined (.countColumn (by decide) (by decide) (by decide)) (by decide)
      counted (by decide) (asks_plain "Count ( a ) , COUNT(b)" "t") rfl).2 (by decide)

/-- That a count before other items is always refused is wrong: two counts are taken for one count
    of a column called `a), COUNT(b`. -/
theorem not_forall_combined_refused :
    ¬∀ (name : String) (items : List String) (selected text : List Char) (source : String),
      PlainName name → (∀ item ∈ items, SelectionItem item) →
      CombinedLayout ⟨.column name, ""⟩ items selected → PlainSource source →
      Asks selected source text →
      ∃ expression, recognize (String.ofList text) = .error (.invalidAggregate expression) := by
  intro refused
  have first : PlainName "a" := ⟨by decide, by decide, by simp⟩
  have second : PlainName "b" := ⟨by decide, by decide, by simp⟩
  have written : Selection.Layout (.count ⟨.column "b", ""⟩) "COUNT(b)".toList :=
    .count (spells_self _) blanks_nil blanks_nil blanks_nil
  have counts : CombinedLayout ⟨.column "a", ""⟩ ["COUNT(b)"] "COUNT(a), COUNT(b)".toList :=
    .mk (.count (spells_self _) blanks_nil blanks_nil blanks_nil) blanks_nil
      (.last ⟨[' '], [], gap_space.2, blanks_nil, rfl⟩)
  have accepted : recognize "SELECT COUNT(a), COUNT(b) FROM t" =
      .ok ⟨.count ⟨.column "a), COUNT(b", "COUNT(a), COUNT(b)"⟩, "t", none⟩ := by rfl
  obtain ⟨expression, rejected⟩ := refused "a" ["COUNT(b)"] _ _ "t" first
    (fun item inside => List.mem_singleton.mp inside ▸ .countColumn second written) counts
    (by decide) (asks_plain "COUNT(a), COUNT(b)" "t")
  rw [String.ofList_toList] at rejected
  cases accepted.symm.trans rejected

end Query

end TableQuery
