import TableQuery.Proofs.Query.LayoutReading
import TableQuery.Proofs.Result

/-! # Canonical texts are recognized

Nothing in a canonical text is escaped, and it is read back all the same: a recognized query is
separable, since each of its parts was cut out by the very searches that will look at it again,
and the canonical text of a separable query is one of its layouts. Only semicolons at the end of
a source without a condition are taken for the end of the query.
-/

namespace TableQuery

open Text Number

theorem mem_of_mem_trim {text : List Char} {c : Char} (h : c ∈ trim text) : c ∈ text := by
  obtain ⟨left, right, -, -, eq⟩ := exists_eq_blanks_trim_blanks text
  rw [eq]
  exact List.mem_append_left right (List.mem_append_right left h)

theorem not_occurs_trim {keyword text : List Char} (absent : ¬Occurs keyword text) :
    ¬Occurs keyword (trim text) := by
  intro occurs
  obtain ⟨left, right, -, -, eq⟩ := exists_eq_blanks_trim_blanks text
  rw [eq] at absent
  exact absent (occurs.extend left right)

theorem not_occursAsWord_trim {keyword text : List Char} (absent : ¬OccursAsWord keyword text) :
    ¬OccursAsWord keyword (trim text) := by
  intro occurs
  obtain ⟨left, right, hl, hr, eq⟩ := exists_eq_blanks_trim_blanks text
  rw [eq] at absent
  apply absent
  apply occurs.extend
  · exact fun c hc => isWordChar_eq_false_of_isBlank (hl c (List.mem_of_mem_getLast? hc))
  · exact fun c hc => isWordChar_eq_false_of_isBlank (hr c (List.mem_of_mem_head? hc))

theorem Condition.separable_of_recognize {text : List Char} {condition : Condition}
    (h : recognize text = .ok condition) : condition.Separable := by
  unfold recognize at h
  split at h
  next => cases h
  next left comparison right found =>
      cases literal : Literal.read right with
      | error rejection => simp [literal, bind, Except.bind] at h
      | ok value =>
          obtain rfl : ⟨String.ofList (trim left), comparison, value⟩ = condition := by
            simpa [literal, bind, Except.bind, pure, Except.pure] using h
          refine ⟨by simpa using trimmed_trim left, ?_⟩
          intro c hc
          exact Comparison.clear_of_find? found c (mem_of_mem_trim (by simpa using hc))

theorem Counted.separable_of_recognize {argument : List Char} {expression : String}
    (trimmed : Trimmed argument) (absent : ¬Occurs "FROM".toList argument)
    (nonempty : argument ≠ []) :
    Selection.Separable (.count ⟨Counted.recognize argument, expression⟩) := by
  unfold Counted.recognize
  split
  next => exact .countRows
  next other =>
      refine .countColumn ⟨by simpa using trimmed, by simpa using absent⟩ ?_ ?_
      · intro empty
        exact nonempty (by simpa using congrArg String.toList empty)
      · intro star
        exact other (by simpa using congrArg String.toList star)

theorem Aggregate.separable_of_recognize? {text : List Char} {aggregate : Aggregate}
    (absent : ¬Occurs "FROM".toList text) (h : recognize? text = .ok (some aggregate)) :
    Selection.Separable (.count aggregate) := by
  unfold recognize? at h
  split at h
  next inner found =>
      dsimp only at h
      split at h
      next counts =>
          obtain rfl :
              ⟨Counted.recognize (trim inner.dropLast), String.ofList text⟩ = aggregate := by
            simpa using h
          have inside : ¬Occurs "FROM".toList inner.dropLast := by
            intro occurs
            obtain ⟨keyword, gap, -, -, rfl⟩ := afterCount_eq_some_iff.mp found
            have filled := List.ne_nil_of_mem (List.mem_of_getLast? counts.1)
            have eq := List.dropLast_concat_getLast filled
            apply absent
            rw [List.append_cons, ← eq, ← List.append_assoc]
            exact occurs.extend _ _
          exact Counted.separable_of_recognize (trimmed_trim _) (not_occurs_trim inside) counts.2
      next => cases h
  next => cases h

theorem Selection.separable_columns {text : List Char} (trimmed : Trimmed text)
    (absent : ¬Occurs "FROM".toList text) (notAll : text ≠ ['*']) (noCount : ¬OpensCount text) :
    Selection.Separable
      (.columns ((text.splitOn ',').map fun piece => String.ofList (trim piece))) := by
  refine .columns ?_ ?_ ?_ ?_ ?_
  · simp [List.splitOn_ne_nil]
  · intro star
    apply notAll
    have pieces : (text.splitOn ',').map trim = [['*']] := by
      have := congrArg (List.map String.toList) star
      simpa [Function.comp_def] using this
    obtain ⟨piece, split, eq⟩ := List.map_eq_singleton_iff.mp pieces
    have whole : [','].intercalate (text.splitOn ',') = text := List.intercalate_splitOn ','
    rw [split, List.intercalate_singleton] at whole
    rw [← eq, whole, trim_eq_self trimmed]
  · intro name member
    obtain ⟨piece, inside, rfl⟩ := List.mem_map.mp member
    obtain ⟨-, left, right, rfl⟩ := mem_splitOn_comma inside
    refine ⟨by simpa using trimmed_trim piece, ?_⟩
    simpa using not_occurs_trim fun occurs => absent (occurs.extend left right)
  · intro name member comma
    obtain ⟨piece, inside, rfl⟩ := List.mem_map.mp member
    exact (mem_splitOn_comma inside).1 (mem_of_mem_trim (by simpa using comma))
  · intro name first opens
    apply noCount
    rw [← trim_eq_self trimmed]
    by_cases comma : ',' ∈ text
    · obtain ⟨piece, rest, rfl, fresh⟩ := List.eq_append_cons_of_mem comma
      rw [List.splitOn_append_cons_self_of_not_mem fresh] at first
      obtain rfl : String.ofList (trim piece) = name := by simpa using first
      exact opensCount_trim_append_comma_iff.mpr (by simpa using opens)
    · rw [List.splitOn_eq_singleton comma] at first
      obtain rfl : String.ofList (trim text) = name := by simpa using first
      simpa using opens

theorem Selection.separable_of_recognize {text : List Char} {selection : Selection}
    (trimmed : Trimmed text) (absent : ¬Occurs "FROM".toList text)
    (h : recognize text = .ok selection) : selection.Separable := by
  unfold recognize at h
  cases counted : Aggregate.recognize? text with
  | error rejection => simp [counted, bind, Except.bind] at h
  | ok aggregate? =>
      cases aggregate? with
      | some aggregate =>
          obtain rfl : .count aggregate = selection := by
            simpa [counted, bind, Except.bind, pure, Except.pure] using h
          exact Aggregate.separable_of_recognize? absent counted
      | none =>
          simp only [counted, bind, Except.bind] at h
          split at h
          next =>
              obtain rfl : Selection.all = selection := by simpa [pure, Except.pure] using h
              exact .all
          next notAll =>
              obtain rfl : Selection.columns ((text.splitOn ',').map fun piece =>
                  String.ofList (trim piece)) = selection := by
                simpa [pure, Except.pure] using h
              have noCount := Aggregate.recognize?_eq_none_iff.mp counted
              exact separable_columns trimmed absent notAll noCount

theorem splitCondition_separable {text source : List Char} {condition : Option (List Char)}
    (trimmed : Trimmed text) (h : splitCondition text = (source, condition)) :
    Trimmed source ∧ ¬OccursAsWord "WHERE".toList source := by
  unfold splitCondition at h
  split at h
  next none =>
      obtain ⟨rfl, -⟩ := Prod.mk.inj h
      exact ⟨trimmed, (cutAtWord?_eq_none_iff letters_where).mp none⟩
  next before after cut =>
      obtain ⟨rfl, -⟩ := Prod.mk.inj h
      exact ⟨trimmed_trim before,
        not_occursAsWord_trim (not_occursAsWord_of_cutAtWord? letters_where cut)⟩

theorem Query.recognizeChars_eq_ok {text : List Char} {query : Query}
    (h : recognizeChars text = .ok query) :
    ∃ body selected rest source stated, afterKeyword? "SELECT".toList (statement text) = some body ∧
      cutAtKeyword? "FROM".toList body = some (selected, rest) ∧
      splitCondition (trim rest) = (source, stated) ∧ query.source = String.ofList source ∧
      Selection.recognize (trim selected) = .ok query.selection ∧
      stated.mapM Condition.recognize = .ok query.condition := by
  unfold recognizeChars at h
  split at h
  next => cases h
  next body start =>
      split at h
      next => cases h
      next selected rest cut =>
          cases split : splitCondition (trim rest) with
          | mk source stated =>
              simp only [split] at h
              obtain ⟨selection, chosen, h⟩ := Result.bind_eq_ok_iff.mp h
              obtain ⟨condition, read, h⟩ := Result.bind_eq_ok_iff.mp h
              obtain rfl := Except.ok.inj h
              exact ⟨body, selected, rest, source, stated, start, cut, split, rfl, chosen, read⟩

theorem Condition.recognize_of_mapM {stated : Option (List Char)} {condition : Condition}
    (h : stated.mapM recognize = .ok (some condition)) :
    ∃ text, recognize text = .ok condition := by
  cases stated with
  | none => cases h
  | some text =>
      rw [Option.mapM_some] at h
      obtain ⟨value, read, h⟩ := Result.bind_eq_ok_iff.mp h
      obtain rfl : value = condition := by simpa using h
      exact ⟨text, read⟩

theorem Query.separable_of_recognizeChars {text : List Char} {query : Query}
    (h : recognizeChars text = .ok query) : query.Separable := by
  obtain ⟨body, selected, rest, source, stated, -, cut, split, named, chosen, read⟩ :=
    recognizeChars_eq_ok h
  obtain ⟨sourceTrimmed, noWhere⟩ := splitCondition_separable (trimmed_trim rest) split
  refine ⟨?_, by simpa [named] using sourceTrimmed, by simpa [named] using noWhere, ?_⟩
  · have absent := not_occurs_trim (not_occurs_of_cutAtKeyword? letters_from cut)
    exact Selection.separable_of_recognize (trimmed_trim selected) absent chosen
  · intro condition stated
    rw [Option.mem_def.mp stated] at read
    obtain ⟨text, recognized⟩ := Condition.recognize_of_mapM read
    exact Condition.separable_of_recognize recognized

theorem padded_self (text : List Char) : Padded text text :=
  ⟨[], [], blanks_nil, blanks_nil, by simp⟩

theorem Padded.blanks_append {blanks text padded : List Char} (hb : Blanks blanks)
    (h : Padded text padded) : Padded text (blanks ++ padded) := by
  obtain ⟨left, right, hl, hr, rfl⟩ := h
  exact ⟨blanks ++ left, right, Text.blanks_append hb hl, hr, by simp⟩

theorem ColumnsLayout.blanks_append {blanks text : List Char} {names : List String}
    (hb : Blanks blanks) (h : ColumnsLayout names text) : ColumnsLayout names (blanks ++ text) := by
  cases h with
  | last padded => exact .last (padded.blanks_append hb)
  | cons padded rest =>
      rw [← List.append_assoc]
      exact .cons (padded.blanks_append hb) rest

theorem columnsLayout_intercalate {names : List String} (nonempty : names ≠ []) :
    ColumnsLayout names (String.intercalate ", " names).toList := by
  induction names with
  | nil => exact absurd rfl nonempty
  | cons name names ih =>
      cases names with
      | nil => simpa using ColumnsLayout.last (padded_self name.toList)
      | cons next names =>
          have rest := (ih (List.cons_ne_nil next names)).blanks_append gap_space.2
          simpa [String.intercalate_cons_cons] using ColumnsLayout.cons (padded_self _) rest

theorem Selection.layout_text {selection : Selection} (separable : selection.Separable) :
    selection.Layout selection.text.toList := by
  cases separable with
  | all => exact .all
  | columns nonempty =>
      exact .columns (by simpa [Selection.text] using columnsLayout_intercalate nonempty)
  | countRows | countColumn =>
      have layout : ∀ aggregate : Aggregate, Selection.Layout (.count aggregate)
          ("COUNT".toList ++ [] ++ '(' :: ([] ++ aggregate.counted.text.toList ++ [] ++ [')'])) :=
        fun _ => .count (spells_self _) blanks_nil blanks_nil blanks_nil
      simpa [Selection.text, Aggregate.text] using layout _

theorem Literal.exists_readsAs_text (literal : Literal) :
    ∃ again, ReadsAs again literal.text.toList ∧
      ((∀ value, literal ≠ .float value) → again = literal) := by
  cases literal with
  | string text =>
      refine ⟨.string text, ?_, fun _ => rfl⟩
      simpa [Literal.text] using readsAs_quoted text
  | integer value =>
      refine ⟨.integer value, ?_, fun _ => rfl⟩
      simpa [Literal.text] using readsAs_intText value
  | float value =>
      have reads := readsAs_plainText (plainText_floatText value)
      refine ⟨(readNumber? (floatText value)).getD (.string (String.ofList (floatText value))), ?_,
        fun other => absurd rfl (other value)⟩
      simpa [Literal.text] using reads

theorem Condition.layout_text (condition : Condition) {literal : Literal}
    (reads : literal.ReadsAs condition.literal.text.toList) :
    Condition.Layout Literal.ReadsAs { condition with literal } condition.text.toList := by
  have layout : Condition.Layout Literal.ReadsAs { condition with literal }
      (condition.column.toList ++ [' '] ++ (condition.comparison.symbol.toList ++ [' '] ++
        condition.literal.text.toList)) :=
    .mk gap_space gap_space reads
  simpa [Condition.text] using layout

def Selection.canonical : Selection → Selection
  | .count aggregate => .count { aggregate with expression := aggregate.text }
  | selection => selection

/-- The source as the canonical text gives it: semicolons that nothing follows end the query. -/
def Query.statedSource (query : Query) : List Char :=
  match query.condition with
  | some _ => query.source.toList
  | none => trimEnd (dropEndWhile (· == ';') query.source.toList)

/-- The same condition but for its literal, which is read from its text and differs from the one
    before only where that was a double. -/
inductive Condition.Restated : Option Condition → Option Condition → Prop where
  | none : Restated none none
  | some {condition : Condition} {literal : Literal}
      (read : Literal.read condition.literal.text.toList = .ok literal)
      (kept : (∀ value, condition.literal ≠ .float value) → literal = condition.literal) :
      Restated (some condition) (some { condition with literal })

structure Query.Restated (query again : Query) : Prop where
  selection : again.selection = query.selection.canonical
  source : again.source = String.ofList query.statedSource
  condition : Condition.Restated query.condition again.condition

theorem Selection.labelled_text (selection : Selection) :
    selection.labelled selection.text.toList = selection.canonical := by
  cases selection with
  | all | columns => rfl
  | count aggregate => simp [labelled, canonical, text]

/-- A text that starts like a canonical text and goes on with a laid-out clause is a layout. -/
theorem Query.layout_of_clause (query : Query) {clause text : List Char} {ending : Ending}
    (separable : query.selection.Separable)
    (stated : ClauseLayout Literal.ReadsAs query.source query.condition clause)
    (eq : text = "SELECT ".toList ++ query.selection.text.toList ++ " FROM ".toList ++ clause ++
      ending.text) :
    query.Layout Literal.ReadsAs query.selection.text.toList ending text := by
  have layout : query.Layout Literal.ReadsAs query.selection.text.toList ending
      ([] ++ ("SELECT".toList ++ ([' '] ++ query.selection.text.toList ++ [' '] ++ "FROM".toList ++
        ([' '] ++ clause))) ++ ending.text) :=
    .mk blanks_nil (spells_self _) gap_space (Selection.layout_text separable) gap_space
      (spells_self _) gap_space stated
  simpa [eq] using layout

theorem exists_eq_stated_append {source : List Char} (trimmed : Trimmed source) :
    ∃ ending : Ending, source = trimEnd (dropEndWhile (· == ';') source) ++ ending.text ∧
      ((trimEnd (dropEndWhile (· == ';') source)).getLast? = some ';' →
        ending.blanks ≠ [] ∧ ending.semicolons ≠ 0) := by
  obtain ⟨semicolons, all, opened⟩ := exists_eq_dropEndWhile_append (· == ';') source
  obtain ⟨blanks, blank, stated⟩ :=
    exists_eq_dropEndWhile_append isBlank (dropEndWhile (· == ';') source)
  have row : semicolons = List.replicate semicolons.length ';' :=
    List.eq_replicate_of_mem fun c hc => by simpa using all c hc
  have whole : source = trimEnd (dropEndWhile (· == ';') source) ++ blanks ++ semicolons := by
    rw [trimEnd, ← stated]
    exact opened
  refine ⟨⟨blanks, semicolons.length, [], blank, blanks_nil⟩, ?_, ?_⟩
  · rw [Ending.text, ← row, List.append_nil, ← List.append_assoc]
    exact whole
  · intro last
    have gapped : blanks ≠ [] := by
      rintro rfl
      rw [List.append_nil] at stated
      rw [trimEnd, ← stated] at last
      simpa using getLast?_dropEndWhile (· == ';') source ';' last
    refine ⟨gapped, ?_⟩
    intro none
    rw [List.eq_nil_of_length_eq_zero none, List.append_nil] at whole
    have visible := trimmed.2 (blanks.getLast gapped) (by
      rw [whole, List.getLast?_append_of_ne_nil _ gapped]
      exact List.getLast?_eq_some_getLast gapped)
    simp [blank _ (List.getLast_mem gapped)] at visible

theorem Ending.isWordChar_head? (ending : Ending) :
    ∀ c ∈ ending.text.head?, isWordChar c = false := by
  intro c hc
  have member := List.mem_of_mem_head? hc
  simp only [text, List.mem_append, List.mem_replicate] at member
  rcases member with (inBlanks | ⟨-, rfl⟩) | inTrailing
  · exact isWordChar_eq_false_of_isBlank (ending.blank c inBlanks)
  · decide +kernel
  · exact isWordChar_eq_false_of_isBlank (ending.trailingBlank c inTrailing)

/-- Without a condition, the semicolons at the end of the source and the blanks before them are
    the ending of the text. -/
theorem Query.exists_layout_plain {query : Query} (separable : query.Separable)
    (plain : query.condition = none) :
    ∃ ending, Query.Separable { query with source := String.ofList query.statedSource } ∧
      Query.ClosedBy { query with source := String.ofList query.statedSource } ending ∧
      Query.Layout Literal.ReadsAs { query with source := String.ofList query.statedSource }
        query.selection.text.toList ending query.text.toList := by
  have same : query.statedSource = trimEnd (dropEndWhile (· == ';') query.source.toList) := by
    rw [statedSource, plain]
  obtain ⟨ending, whole, closed⟩ := exists_eq_stated_append separable.sourceTrimmed
  rw [← same] at whole closed
  refine ⟨ending, ⟨separable.selection, ?_, ?_, separable.condition⟩, ?_, ?_⟩
  · rw [String.toList_ofList]
    refine ⟨?_, by rw [same]; exact getLast?_dropEndWhile isBlank _⟩
    intro c hc
    apply separable.sourceTrimmed.1
    rw [whole, List.head?_append, Option.mem_def.mp hc]
    rfl
  · rw [String.toList_ofList]
    intro occurs
    apply separable.noWhere
    rw [whole]
    have start : ∀ c ∈ [].getLast?, isWordChar c = false := by simp
    simpa using occurs.extend start ending.isWordChar_head?
  · intro _
    rw [String.toList_ofList]
    exact closed
  · apply layout_of_clause { query with source := String.ofList query.statedSource }
      separable.selection
    · rw [plain]
      exact .plain
    · rw [text, plain]
      simp [whole]

theorem Query.layout_filtered {query : Query} {condition : Condition} {literal : Literal}
    (separable : query.Separable) (filtered : query.condition = some condition)
    (reads : literal.ReadsAs condition.literal.text.toList) :
    Query.Layout Literal.ReadsAs { query with condition := some { condition with literal } }
      query.selection.text.toList ⟨[], 0, [], blanks_nil, blanks_nil⟩ query.text.toList := by
  apply layout_of_clause { query with condition := some { condition with literal } }
    separable.selection
  · exact .filtered gap_space (spells_self "WHERE".toList) gap_space (condition.layout_text reads)
  · rw [text, filtered]
    simp [Ending.text]

theorem Query.recognize_text {query : Query} (expressible : query.Expressible)
    (reads : ∀ condition ∈ query.condition,
      condition.literal.ReadsAs condition.literal.text.toList) :
    recognize query.text = .ok { query with selection := query.selection.canonical } := by
  obtain ⟨ending, closed, layout⟩ : ∃ ending, query.ClosedBy ending ∧
      query.Layout Literal.ReadsAs query.selection.text.toList ending query.text.toList := by
    refine ⟨⟨[], 0, [], blanks_nil, blanks_nil⟩,
      fun unconditional semicolon => absurd semicolon (expressible.noSemicolon unconditional), ?_⟩
    cases stated : query.condition with
    | none =>
        apply query.layout_of_clause expressible.selection
        · rw [stated]
          exact .plain
        · simp [text, stated, Ending.text]
    | some condition =>
        have layout := layout_filtered expressible.toSeparable stated (reads condition stated)
        rwa [← stated] at layout
  rw [recognize, recognizeChars_layout expressible.toSeparable closed layout, labelled,
    Selection.labelled_text]

/-- The canonical text of a recognized query is recognized, as what it says. -/
theorem Query.exists_recognize_text {text : String} {query : Query}
    (h : recognize text = .ok query) :
    ∃ again, recognize query.text = .ok again ∧ query.Restated again := by
  have separable := separable_of_recognizeChars h
  cases condition : query.condition with
  | none =>
      obtain ⟨ending, clear, closed, layout⟩ := exists_layout_plain separable condition
      refine ⟨_, recognizeChars_layout clear closed layout, ?_, rfl, ?_⟩
      · exact Selection.labelled_text query.selection
      · simpa [condition, labelled] using Condition.Restated.none
  | some stated =>
      obtain ⟨literal, reads, kept⟩ := stated.literal.exists_readsAs_text
      have own := separable.condition stated condition
      have clear : Query.Separable { query with condition := some { stated with literal } } := by
        refine ⟨separable.selection, separable.sourceTrimmed, separable.noWhere, ?_⟩
        rintro _ ⟨⟩
        exact ⟨own.trimmed, own.noComparison⟩
      refine ⟨_, recognizeChars_layout clear nofun (layout_filtered separable condition reads),
        ?_, ?_, ?_⟩
      · exact Selection.labelled_text query.selection
      · simp [statedSource, condition, labelled]
      · simpa [condition, labelled] using Condition.Restated.some reads.read kept

/-- The semicolon that belonged to the source is lost when the text is read again. -/
theorem Query.exists_recognize_text_count :
    ∃ again, recognize (Query.text ⟨.count ⟨.column "id", "count( id )"⟩, "a;", none⟩) =
        .ok again ∧
      Query.Restated ⟨.count ⟨.column "id", "count( id )"⟩, "a;", none⟩ again := by
  have recognized : recognize "select count( id ) from a; ;;" =
      .ok ⟨.count ⟨.column "id", "count( id )"⟩, "a;", none⟩ := by rfl
  exact exists_recognize_text recognized

end TableQuery
