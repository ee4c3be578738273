import TableQuery.Proofs.Query.ConditionReading
import TableQuery.Proofs.Query.SelectionReading

/-! # Queries are read from their layouts

The keyword searches know nothing of tokens, quotes or names. Still a separable query is read
back from each of its layouts, since every cut falls where the layout put its keyword: the
selection holds no FROM, the source holds no WHERE, and a gap keeps each keyword apart from
what stands before it.
-/

namespace TableQuery

open Text

theorem letters_select : Letters "SELECT".toList := by decide

theorem letters_where : Letters "WHERE".toList := by decide

theorem plainSource_iff {source : String} :
    PlainSource source ↔ Trimmed source.toList ∧ cutAtWord? "WHERE".toList source.toList = none ∧
      source.toList.getLast? ≠ some ';' := by
  rw [cutAtWord?_eq_none_iff letters_where]
  exact ⟨fun h => ⟨h.trimmed, h.noWhere, h.noSemicolon⟩, fun h => ⟨h.1, h.2.1, h.2.2⟩⟩

instance (source : String) : Decidable (PlainSource source) :=
  decidable_of_iff _ plainSource_iff.symm

/-- The ending of a layout is no part of the source. A source that ends in a semicolon of its own
    needs blanks between that and the semicolons that are taken off. -/
def Query.ClosedBy (query : Query) (ending : Ending) : Prop :=
  query.condition = none → query.source.toList.getLast? = some ';' →
    ending.blanks ≠ [] ∧ ending.semicolons ≠ 0

theorem statement_eq {leading body trailing : List Char} (semicolons : Nat)
    (leadingBlank : Blanks leading) (trailingBlank : Blanks trailing) (present : body ≠ [])
    (first : ∀ c ∈ body.head?, isBlank c = false) (last : body.getLast? ≠ some ';')
    (visible : semicolons = 0 → ∀ c ∈ body.getLast?, isBlank c = false) :
    statement (leading ++ (body ++ List.replicate semicolons ';') ++ trailing) = body := by
  have trimmed : Trimmed (body ++ List.replicate semicolons ';') := by
    cases semicolons with
    | zero =>
        rw [List.replicate_zero, List.append_nil]
        exact ⟨first, visible rfl⟩
    | succ n =>
        apply trimmed_append present (by simp) first
        rw [List.getLast?_replicate]
        simp [isBlank_eq_false]
  unfold statement
  rw [trim_padded leadingBlank trailingBlank trimmed, dropEndWhile_append_of_all (by simp)]
  apply dropEndWhile_eq_self
  intro c hc
  rw [beq_eq_false_iff_ne]
  rintro rfl
  exact last hc

theorem exists_statement_eq_append {leading head gap clause : List Char} (ending : Ending)
    (leadingBlank : Blanks leading) (present : head ≠ [])
    (first : ∀ c ∈ head.head?, isBlank c = false)
    (last : ∀ c ∈ head.getLast?, isBlank c = false ∧ c ≠ ';') (gapped : Gap gap)
    (visible : ∀ c ∈ clause.getLast?, isBlank c = false)
    (closed : clause.getLast? = some ';' → ending.blanks ≠ [] ∧ ending.semicolons ≠ 0) :
    ∃ rest, statement (leading ++ (head ++ (gap ++ clause)) ++ ending.text) = head ++ rest ∧
      trim rest = trim clause := by
  have firstOf : ∀ rest, ∀ c ∈ (head ++ rest).head?, isBlank c = false := by
    cases head with
    | nil => exact absurd rfl present
    | cons c head => exact fun _ => first
  by_cases none : ending.semicolons = 0
  · by_cases empty : clause = []
    · -- Nothing is stated after the head, so the gap goes with the ending.
      have blank : Blanks (gap ++ (ending.blanks ++ ending.trailing)) :=
        blanks_append gapped.2 (blanks_append ending.blank ending.trailingBlank)
      refine ⟨[], ?_, by rw [empty]⟩
      have found := statement_eq 0 leadingBlank blank present first
        (fun semicolon => (last ';' semicolon).2 rfl) (fun _ c hc => (last c hc).1)
      simpa [Ending.text, none, empty] using found
    · have blank := blanks_append ending.blank ending.trailingBlank
      refine ⟨gap ++ clause, ?_, trim_blanks_append gapped.2 clause⟩
      have ends : (head ++ (gap ++ clause)).getLast? = clause.getLast? := by
        rw [← List.append_assoc, List.getLast?_append_of_ne_nil _ empty]
      have found := statement_eq 0 leadingBlank blank (by simp [present]) (firstOf (gap ++ clause))
        (fun semicolon => (closed (ends ▸ semicolon)).2 none) (fun _ => ends ▸ visible)
      simpa [Ending.text, none] using found
  · refine ⟨gap ++ clause ++ ending.blanks, ?_, ?_⟩
    · have stop : (head ++ (gap ++ clause ++ ending.blanks)).getLast? ≠ some ';' := by
        rw [List.getLast?_append_of_ne_nil head (by simp [gapped.1])]
        by_cases noBlanks : ending.blanks = []
        · by_cases empty : clause = []
          · rw [noBlanks, empty, List.append_nil, List.append_nil]
            exact fun hc => gapped.2.ne_of_mem (by decide) (List.mem_of_mem_getLast? hc) rfl
          · rw [noBlanks, List.append_nil, List.getLast?_append_of_ne_nil gap empty]
            exact fun hc => (closed hc).1 noBlanks
        · rw [List.getLast?_append_of_ne_nil _ noBlanks]
          exact fun hc => ending.blank.ne_of_mem (by decide) (List.mem_of_mem_getLast? hc) rfl
      have found := statement_eq ending.semicolons leadingBlank ending.trailingBlank
        (by simp [present]) (firstOf _) stop (fun zero => absurd zero none)
      simpa [Ending.text] using found
    · rw [List.append_assoc, trim_blanks_append gapped.2, trim_append_blanks ending.blank]

namespace ClauseLayout

variable {source : String} {condition? : Option Condition} {clause : List Char}

theorem splitCondition_trim (h : ClauseLayout Literal.ReadsAs source condition? clause)
    (trimmed : Trimmed source.toList) (noWhere : ¬OccursAsWord "WHERE".toList source.toList)
    (separable : ∀ condition ∈ condition?, condition.Separable) :
    ∃ rest, splitCondition (trim clause) = (source.toList, rest) ∧
      rest.mapM Condition.recognize = .ok condition? := by
  cases h with
  | plain =>
      refine ⟨none, ?_, rfl⟩
      rw [trim_eq_self trimmed, splitCondition, (cutAtWord?_eq_none_iff letters_where).mpr noWhere]
  | @filtered condition before keyword after text beforeGap spelled afterGap written =>
      obtain ⟨present, ends⟩ := written.closed
      have last : ∀ c ∈ (keyword ++ after ++ text).getLast?, isBlank c = false := by
        rw [List.getLast?_append_of_ne_nil _ present]
        exact fun c hc => (ends c hc).1
      have first : ∀ c ∈ (keyword ++ after ++ text).head?, isBlank c = false := by
        rw [List.append_assoc]
        exact spelled.isBlank_head? letters_where _
      obtain ⟨kept, blank, start, eq⟩ :=
        exists_trim_eq_append trimmed beforeGap (by simp [present]) first last
      have stop : ∀ c ∈ (after ++ text).head?, isWordChar c = false := by
        cases after with
        | nil => exact absurd rfl afterGap.1
        | cons c after =>
            intro d hd
            obtain rfl : c = d := by simpa using hd
            exact isWordChar_eq_false_of_isBlank (afterGap.2 c List.mem_cons_self)
      have cut : cutAtWord? "WHERE".toList (trim (source.toList ++ before ++
          (keyword ++ after ++ text))) = some (source.toList ++ kept, after ++ text) := by
        rw [eq, List.append_assoc keyword, ← List.append_assoc _ keyword]
        exact cutAtWord?_blanks letters_where blank start noWhere spelled stop
      have stated : trim text ≠ [] := trim_ne_nil present fun c hc => (ends c hc).1
      refine ⟨some (trim text), ?_, ?_⟩
      · rw [splitCondition, cut]
        simp only [trim_append_blanks blank, trim_eq_self trimmed, trim_blanks_append afterGap.2,
          List.isEmpty_eq_false_iff.mpr stated, Bool.false_eq_true, if_false]
      · rw [Option.mapM_some, Condition.recognize_of_layout (separable condition rfl) written]
        rfl

theorem ends (h : ClauseLayout Literal.ReadsAs source condition? clause)
    (trimmed : Trimmed source.toList) :
    (∀ c ∈ clause.getLast?, isBlank c = false) ∧
      (clause.getLast? = some ';' → condition? = none ∧ source.toList.getLast? = some ';') := by
  cases h with
  | plain => exact ⟨trimmed.2, fun semicolon => ⟨rfl, semicolon⟩⟩
  | @filtered condition before keyword after text beforeGap spelled afterGap written =>
      obtain ⟨present, ends⟩ := written.closed
      have same : (source.toList ++ before ++ (keyword ++ after ++ text)).getLast? =
          text.getLast? := by
        rw [← List.append_assoc, List.getLast?_append_of_ne_nil _ present]
      rw [same]
      exact ⟨fun c hc => (ends c hc).1, fun semicolon => absurd rfl (ends ';' semicolon).2⟩

end ClauseLayout

theorem Query.recognizeChars_framed {leading select first selected second fromWord third clause :
    List Char} {ending : Ending} (leadingBlank : Blanks leading)
    (spellsSelect : Spells "SELECT".toList select) (firstGap : Gap first)
    (absent : ¬Occurs "FROM".toList selected) (secondGap : Gap second)
    (spellsFrom : Spells "FROM".toList fromWord) (thirdGap : Gap third)
    (visible : ∀ c ∈ clause.getLast?, isBlank c = false)
    (closed : clause.getLast? = some ';' → ending.blanks ≠ [] ∧ ending.semicolons ≠ 0) :
    recognizeChars (leading ++ (select ++ (first ++ selected ++ second ++ fromWord ++
        (third ++ clause))) ++ ending.text) = do
      let selection ← Selection.recognize (trim selected)
      let condition ← (splitCondition (trim clause)).2.mapM Condition.recognize
      return ⟨selection, String.ofList (splitCondition (trim clause)).1, condition⟩ := by
  have padded : Padded selected (first ++ selected) :=
    ⟨first, [], firstGap.2, blanks_nil, by simp⟩
  have opens := spellsSelect.isBlank_head? letters_select
    (first ++ selected ++ second ++ fromWord)
  have ends : ∀ c ∈ (select ++ (first ++ selected ++ second ++ fromWord)).getLast?,
      isBlank c = false ∧ c ≠ ';' := by
    intro c hc
    rw [← List.append_assoc,
      List.getLast?_append_of_ne_nil _ (spellsFrom.ne_nil letters_from)] at hc
    have alpha := spellsFrom.isAlpha letters_from c (List.mem_of_mem_getLast? hc)
    refine ⟨isBlank_eq_false_of_isAlpha alpha, ?_⟩
    rintro rfl
    exact absurd alpha (by decide)
  obtain ⟨rest, kept, same⟩ := exists_statement_eq_append ending leadingBlank
    (by simp [spellsFrom.ne_nil letters_from]) opens ends thirdGap visible closed
  have cut : cutAtKeyword? "FROM".toList (first ++ selected ++ second ++ fromWord ++ rest) =
      some (first ++ selected ++ second, rest) :=
    cutAtKeyword?_gap letters_from secondGap (padded.not_occurs_from absent) spellsFrom
  have between : trim (first ++ selected ++ second) = trim selected := by
    rw [trim_append_blanks secondGap.2, trim_blanks_append firstGap.2]
  unfold recognizeChars
  rw [← List.append_assoc select, kept, List.append_assoc select,
    afterKeyword?_spelling spellsSelect]
  simp only [cut, same, between]

/-- A separable query is read from each of its layouts, if its ending is no part of it. -/
theorem Query.recognizeChars_layout {query : Query} {selected text : List Char} {ending : Ending}
    (separable : query.Separable) (closed : query.ClosedBy ending)
    (layout : query.Layout Literal.ReadsAs selected ending text) :
    recognizeChars text = .ok (query.labelled selected) := by
  cases layout with
  | @mk leading select first second fromWord third clause leadingBlank spellsSelect firstGap
      chosen secondGap spellsFrom thirdGap stated =>
      obtain ⟨visible, ownSemicolon⟩ := stated.ends separable.sourceTrimmed
      obtain ⟨condition, split, read⟩ := stated.splitCondition_trim separable.sourceTrimmed
        separable.noWhere separable.condition
      rw [recognizeChars_framed leadingBlank spellsSelect firstGap
        (chosen.not_occurs_from separable.selection) secondGap spellsFrom thirdGap visible
        (fun semicolon => closed (ownSemicolon semicolon).1 (ownSemicolon semicolon).2),
        Selection.recognize_of_layout separable.selection chosen, split]
      simp only [read, bind, Except.bind, String.ofList_toList]
      rfl

/-- Every expressible query is read from every layout of it, with the text of its selection as
    the expression of a count. -/
theorem Query.recognize_layout {query : Query} {selected text : List Char} {ending : Ending}
    (expressible : query.Expressible) (layout : query.Layout Literal.Layout selected ending text) :
    recognize (String.ofList text) = .ok (query.labelled selected) := by
  have closed : query.ClosedBy ending :=
    fun unconditional semicolon => absurd semicolon (expressible.noSemicolon unconditional)
  have read := recognizeChars_layout expressible.toSeparable closed
    (layout.mono fun _ _ written => written.readsAs)
  rwa [recognize, String.toList_ofList]

/-- A count over two lines, its keywords in mixed case, with a string that holds a keyword, a
    semicolon and a quote. -/
theorem Query.recognize_layout_count :
    recognize " select\tCount ( id )\nFROM users Where  name !=\n'it's; from' ;; " =
      .ok ⟨.count ⟨.column "id", "Count ( id )"⟩, "users",
        some ⟨"name", .ne, .string "it's; from"⟩⟩ := by
  have selectable : Selectable "id" :=
    ⟨by decide, (cutAtKeyword?_eq_none_iff letters_from).mp (by rfl)⟩
  have expressible : Query.Expressible ⟨.count ⟨.column "id", ""⟩, "users",
      some ⟨"name", .ne, .string "it's; from"⟩⟩ :=
    { selection := .countColumn selectable (by decide) (by decide)
      sourceTrimmed := by decide
      noWhere := (cutAtWord?_eq_none_iff letters_where).mp (by rfl)
      condition := by
        rintro _ ⟨⟩
        exact ⟨by decide, by simp⟩
      noSemicolon := nofun }
  have spaces : Gap [' ', ' '] := by decide
  have tab : Gap ['\t'] := by decide
  have newline : Gap ['\n'] := by decide
  have countWord : Spells "COUNT".toList "Count".toList := by decide
  have whereWord : Spells "WHERE".toList "Where".toList := by decide
  have selectWord : Spells "SELECT".toList "select".toList := by decide
  have selection : Selection.Layout (.count ⟨.column "id", ""⟩) "Count ( id )".toList :=
    .count countWord gap_space.2 gap_space.2 gap_space.2
  have clause : ClauseLayout Literal.Layout "users"
      (some ⟨"name", .ne, .string "it's; from"⟩) "users Where  name !=\n'it's; from'".toList :=
    .filtered gap_space whereWord spaces (.mk gap_space newline .string)
  have layout : Query.Layout Literal.Layout ⟨.count ⟨.column "id", ""⟩, "users",
      some ⟨"name", .ne, .string "it's; from"⟩⟩ "Count ( id )".toList
      ⟨[' '], 2, [' '], gap_space.2, gap_space.2⟩ _ :=
    .mk gap_space.2 selectWord tab selection newline (spells_self _) gap_space clause
  exact recognize_layout expressible layout

end TableQuery
