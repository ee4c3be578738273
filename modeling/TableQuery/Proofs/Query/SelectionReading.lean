import TableQuery.Proofs.Query.Layout

/-! # Selections are read from their layouts

A selection is a count when it starts with COUNT and an opening parenthesis, and a list of names
between commas otherwise. Blanks around a name belong to no name, so the names do not depend on
the layout.
-/

namespace TableQuery

open Text

theorem letters_count : Letters "COUNT".toList := by decide

theorem letters_from : Letters "FROM".toList := by decide

instance (name : String) : Decidable (Selectable name) :=
  decidable_of_iff
    (Trimmed name.toList ∧ cutAtKeyword? "FROM".toList name.toList = none)
    (and_congr_right fun _ => cutAtKeyword?_eq_none_iff letters_from)

section OpensCount

variable {text more blanks : List Char}

theorem afterCount_eq_some_iff {inner : List Char} :
    (afterKeyword? "COUNT".toList text).map trimStart = some ('(' :: inner) ↔
      ∃ keyword gap, Spells "COUNT".toList keyword ∧ Blanks gap ∧
        text = keyword ++ gap ++ '(' :: inner := by
  constructor
  · intro found
    obtain ⟨rest, after, eq⟩ := Option.map_eq_some_iff.mp found
    obtain ⟨keyword, rfl, spells⟩ := afterKeyword?_eq_some_iff.mp after
    refine ⟨keyword, rest.takeWhile isBlank, spells, List.all_eq_true.mp List.all_takeWhile, ?_⟩
    rw [List.append_assoc, ← eq, trimStart, List.takeWhile_append_dropWhile]
  · intro opened
    obtain ⟨keyword, gap, spells, blank, rfl⟩ := opened
    rw [List.append_assoc, afterKeyword?_spelling spells, Option.map_some,
      trimStart_blanks_append blank, trimStart_eq_self (by simp [isBlank_eq_false])]

theorem opensCount_iff :
    OpensCount text ↔
      ∃ inner, (afterKeyword? "COUNT".toList text).map trimStart = some ('(' :: inner) := by
  simp only [afterCount_eq_some_iff]
  constructor
  · intro opens
    obtain ⟨keyword, gap, inner, spells, blank, eq⟩ := opens
    exact ⟨inner, keyword, gap, spells, blank, eq⟩
  · intro opened
    obtain ⟨inner, keyword, gap, spells, blank, eq⟩ := opened
    exact ⟨keyword, gap, inner, spells, blank, eq⟩

theorem OpensCount.append (h : OpensCount text) (more : List Char) : OpensCount (text ++ more) := by
  obtain ⟨keyword, gap, rest, spells, blank, rfl⟩ := h
  exact ⟨keyword, gap, rest ++ more, spells, blank, by simp⟩

theorem OpensCount.of_append_comma (h : OpensCount (text ++ ',' :: more)) : OpensCount text := by
  obtain ⟨keyword, gap, rest, spells, blank, eq⟩ := h
  rw [List.append_cons (keyword ++ gap)] at eq
  rcases List.append_eq_append_iff.mp eq with ⟨excess, start, eq⟩ | ⟨excess, rfl, -⟩
  · cases excess with
    | nil => exact ⟨keyword, gap, [], spells, blank, by simpa using start.symm⟩
    | cons c excess =>
        -- The comma would stand before the parenthesis, where only letters and blanks are.
        obtain ⟨rfl, -⟩ := List.cons.inj eq
        have member : ',' ∈ keyword ++ gap ++ ['('] := by simp [start]
        simp only [List.mem_append, List.mem_singleton] at member
        rcases member with (inKeyword | inGap) | eq
        · exact absurd (spells.isAlpha letters_count _ inKeyword) (by decide)
        · exact absurd rfl (blank.ne_of_mem (by decide) inGap)
        · exact absurd eq (by decide)
  · exact ⟨keyword, gap, excess, spells, blank, by simp⟩

theorem OpensCount.of_append_blanks (hb : Blanks blanks) (h : OpensCount (text ++ blanks)) :
    OpensCount text := by
  obtain ⟨keyword, gap, rest, spells, blank, eq⟩ := h
  rw [List.append_cons (keyword ++ gap)] at eq
  rcases List.append_eq_append_iff.mp eq with ⟨excess, start, rfl⟩ | ⟨excess, rfl, -⟩
  · cases excess with
    | nil => exact ⟨keyword, gap, [], spells, blank, by simpa using start.symm⟩
    | cons c excess =>
        have last :=
          getLast_eq_of_append_eq start (List.cons_ne_nil '(' []) (List.cons_ne_nil c excess)
        refine absurd last.symm (hb.ne_of_mem (by decide) ?_)
        exact List.mem_append_left rest (List.getLast_mem _)
  · exact ⟨keyword, gap, excess, spells, blank, by simp⟩

theorem opensCount_trim_iff : OpensCount (trim text) ↔ OpensCount (trimStart text) := by
  obtain ⟨right, blank, eq⟩ := exists_trimStart_eq_trim_append text
  rw [eq]
  exact ⟨fun h => h.append right, fun h => h.of_append_blanks blank⟩

/-- A list of names starts like a count exactly when its first name does. -/
theorem opensCount_trim_append_comma_iff :
    OpensCount (trim (text ++ ',' :: more)) ↔ OpensCount (trim text) := by
  rw [opensCount_trim_iff, opensCount_trim_iff, trimStart_append_cons text (by decide)]
  exact ⟨OpensCount.of_append_comma, fun h => h.append (',' :: more)⟩

end OpensCount

theorem Aggregate.recognize?_eq_none_iff {text : List Char} :
    recognize? text = .ok none ↔ ¬OpensCount text := by
  rw [opensCount_iff, recognize?]
  split
  next inner eq =>
      simp only [eq, Option.some.injEq, List.cons.injEq, true_and, exists_eq', not_true, iff_false]
      split <;> simp
  next other =>
      simp only [true_iff, not_exists]
      exact other

theorem Aggregate.recognize?_written {keyword gap left argument right : List Char}
    (spelled : Spells "COUNT".toList keyword) (gapBlank : Blanks gap) (leftBlank : Blanks left)
    (rightBlank : Blanks right) (trimmed : Trimmed argument) (nonempty : argument ≠ []) :
    recognize? (keyword ++ gap ++ '(' :: (left ++ argument ++ right ++ [')'])) =
      .ok (some ⟨Counted.recognize argument,
        String.ofList (keyword ++ gap ++ '(' :: (left ++ argument ++ right ++ [')']))⟩) := by
  unfold recognize?
  rw [afterCount_eq_some_iff.mpr ⟨keyword, gap, spelled, gapBlank, rfl⟩]
  simp only [List.getLast?_concat, List.dropLast_concat, trim_padded leftBlank rightBlank trimmed,
    nonempty, ne_eq, not_false_eq_true, and_self, if_true]

theorem Counted.recognize_text {counted : Counted}
    (h : ∀ name, counted = .column name → name ≠ "*") :
    recognize counted.text.toList = counted := by
  cases counted with
  | rows => rfl
  | column name =>
      have other : name.toList ≠ ['*'] := by
        intro star
        exact h name rfl (String.toList_inj.mp (star.trans (by rfl)))
      simp [recognize, text, other]

section Names

variable {blanks text piece : List Char} {name : String} {names : List String}

theorem Blanks.not_mem_comma (h : Blanks blanks) : ',' ∉ blanks := by
  intro member
  exact h.ne_of_mem (by decide) member rfl

theorem mem_splitOn_comma {text piece : List Char} (h : piece ∈ text.splitOn ',') :
    ',' ∉ piece ∧ ∃ left right, text = left ++ piece ++ right := by
  by_cases comma : ',' ∈ text
  · obtain ⟨first, rest, eq, fresh⟩ := List.eq_append_cons_of_mem comma
    have shorter : rest.length < text.length := by
      rw [eq, List.length_append, List.length_cons]
      omega
    rw [eq, List.splitOn_append_cons_self_of_not_mem fresh] at h
    rcases List.mem_cons.mp h with rfl | later
    · exact ⟨fresh, [], ',' :: rest, by simpa using eq⟩
    · obtain ⟨absent, left, right, eq'⟩ := mem_splitOn_comma later
      exact ⟨absent, first ++ ',' :: left, right, by simp [eq, eq']⟩
  · rw [List.splitOn_eq_singleton comma] at h
    obtain rfl := List.mem_singleton.mp h
    exact ⟨comma, [], [], by simp⟩
termination_by text.length

theorem map_trim_splitOn_append_blanks (hb : Blanks blanks) (text : List Char) :
    ((text ++ blanks).splitOn ',').map trim = (text.splitOn ',').map trim := by
  by_cases comma : ',' ∈ text
  · obtain ⟨piece, rest, eq, fresh⟩ := List.eq_append_cons_of_mem comma
    have shorter : rest.length < text.length := by
      rw [eq, List.length_append, List.length_cons]
      omega
    rw [eq, List.append_assoc, List.cons_append, List.splitOn_append_cons_self_of_not_mem fresh,
      List.splitOn_append_cons_self_of_not_mem fresh, List.map_cons, List.map_cons,
      map_trim_splitOn_append_blanks hb rest]
  · have none : ',' ∉ text ++ blanks := by
      simp [comma, Blanks.not_mem_comma hb]
    rw [List.splitOn_eq_singleton comma, List.splitOn_eq_singleton none, List.map_singleton,
      List.map_singleton, trim_append_blanks hb]
termination_by text.length

theorem map_trim_splitOn_blanks_append (hb : Blanks blanks) (text : List Char) :
    ((blanks ++ text).splitOn ',').map trim = (text.splitOn ',').map trim := by
  have fresh := Blanks.not_mem_comma hb
  by_cases comma : ',' ∈ text
  · obtain ⟨piece, rest, rfl, absent⟩ := List.eq_append_cons_of_mem comma
    have none : ',' ∉ blanks ++ piece := by simp [fresh, absent]
    rw [← List.append_assoc, List.splitOn_append_cons_self_of_not_mem absent,
      List.splitOn_append_cons_self_of_not_mem none, List.map_cons, List.map_cons,
      trim_blanks_append hb]
  · have none : ',' ∉ blanks ++ text := by simp [comma, fresh]
    rw [List.splitOn_eq_singleton comma, List.splitOn_eq_singleton none, List.map_singleton,
      List.map_singleton, trim_blanks_append hb]

theorem map_trim_splitOn_trim (text : List Char) :
    ((trim text).splitOn ',').map trim = (text.splitOn ',').map trim := by
  obtain ⟨left, right, hl, hr, eq⟩ := exists_eq_blanks_trim_blanks text
  conv => rhs; rw [eq]
  rw [map_trim_splitOn_append_blanks hr, map_trim_splitOn_blanks_append hl]

theorem Padded.trim_eq {padded : List Char} (h : Padded text padded) (trimmed : Trimmed text) :
    trim padded = text := by
  obtain ⟨left, right, hl, hr, rfl⟩ := h
  exact trim_padded hl hr trimmed

theorem Padded.not_mem_comma {padded : List Char} (h : Padded text padded) (fresh : ',' ∉ text) :
    ',' ∉ padded := by
  obtain ⟨left, right, hl, hr, rfl⟩ := h
  simp [Blanks.not_mem_comma hl, Blanks.not_mem_comma hr, fresh]

theorem ColumnsLayout.map_trim_splitOn (h : ColumnsLayout names text)
    (trimmed : ∀ name ∈ names, Trimmed name.toList) (noComma : ∀ name ∈ names, ',' ∉ name.toList) :
    (text.splitOn ',').map trim = names.map String.toList := by
  induction h with
  | @last name piece padded =>
      have fresh := padded.not_mem_comma (noComma name List.mem_cons_self)
      rw [List.splitOn_eq_singleton fresh, List.map_singleton, List.map_singleton,
        padded.trim_eq (trimmed name List.mem_cons_self)]
  | @cons name names piece text padded rest ih =>
      have fresh := padded.not_mem_comma (noComma name List.mem_cons_self)
      rw [List.splitOn_append_cons_self_of_not_mem fresh, List.map_cons, List.map_cons,
        padded.trim_eq (trimmed name List.mem_cons_self)]
      rw [ih (fun other member => trimmed other (List.mem_cons_of_mem name member))
        (fun other member => noComma other (List.mem_cons_of_mem name member))]

theorem ColumnsLayout.opensCount_iff (h : ColumnsLayout (name :: names) text)
    (trimmed : Trimmed name.toList) : OpensCount (trim text) ↔ OpensCount name.toList := by
  cases h with
  | last padded => rw [padded.trim_eq trimmed]
  | cons padded rest => rw [opensCount_trim_append_comma_iff, padded.trim_eq trimmed]

end Names

theorem isAlpha_eq_false_of_mem_concat {blanks : List Char} (blank : Blanks blanks) {sign : Char}
    (foreign : sign.isAlpha = false) : ∀ c ∈ blanks ++ [sign], c.isAlpha = false := by
  intro c hc
  rcases List.mem_append.mp hc with inBlanks | isSign
  · exact isAlpha_eq_false_of_isBlank (blank c inBlanks)
  · rwa [List.mem_singleton.mp isSign]

theorem not_occurs_from_of_foreign {text : List Char} (foreign : ∀ c ∈ text, c.isAlpha = false) :
    ¬Occurs "FROM".toList text := by
  intro occurs
  have padded : Occurs "FROM".toList (text ++ [] ++ []) := by simpa using occurs
  exact not_occurs_nil letters_from (occurs_of_occurs_padded letters_from foreign (by simp) padded)

theorem not_occurs_from_of_spells {keyword : List Char} (spells : Spells "COUNT".toList keyword) :
    ¬Occurs "FROM".toList keyword := by
  intro occurs
  obtain ⟨before, after, spelling, rfl, inner⟩ := occurs
  have lower : 'f' ∈ spelling.map Char.toLower := by
    rw [show spelling.map Char.toLower = "FROM".toList.map Char.toLower from inner]
    decide
  have member : 'f' ∈ "COUNT".toList.map Char.toLower := by
    rw [← spells, List.map_append, List.map_append]
    exact List.mem_append_left _ (List.mem_append_right _ lower)
  exact absurd member (by decide)

theorem Padded.not_occurs_from {text padded : List Char} (h : Padded text padded)
    (absent : ¬Occurs "FROM".toList text) : ¬Occurs "FROM".toList padded := by
  obtain ⟨left, right, hl, hr, rfl⟩ := h
  intro occurs
  refine absent (occurs_of_occurs_padded letters_from ?_ ?_ occurs)
  · exact fun c hc => isAlpha_eq_false_of_isBlank (hl c hc)
  · exact fun c hc => isAlpha_eq_false_of_isBlank (hr c hc)

theorem ColumnsLayout.not_occurs_from {names : List String} {text : List Char}
    (h : ColumnsLayout names text) (selectable : ∀ name ∈ names, Selectable name) :
    ¬Occurs "FROM".toList text := by
  induction h with
  | @last name piece padded =>
      exact padded.not_occurs_from (selectable name List.mem_cons_self).2
  | @cons name names piece text padded rest ih =>
      intro occurs
      rw [List.append_cons] at occurs
      have foreign : ∀ c ∈ [','], c.isAlpha = false := List.forall_mem_singleton.mpr rfl
      rcases occurs_append_gap letters_from foreign occurs (List.cons_ne_nil ',' [])
        with first | later
      · exact padded.not_occurs_from (selectable name List.mem_cons_self).2 first
      · exact ih (fun other member => selectable other (List.mem_cons_of_mem name member)) later

namespace Selection

variable {selection : Selection} {text : List Char}

theorem Layout.not_occurs_from (h : selection.Layout text) (separable : selection.Separable) :
    ¬Occurs "FROM".toList text := by
  cases h with
  | all => exact not_occurs_from_of_foreign (List.forall_mem_singleton.mpr rfl)
  | columns listed =>
      cases separable with
      | columns _ _ selectable => exact listed.not_occurs_from selectable
  | @count aggregate keyword gap left right spelled gapBlank leftBlank rightBlank =>
      have argument : ¬Occurs "FROM".toList aggregate.counted.text.toList := by
        cases separable with
        | countRows =>
            have star : ¬Occurs "FROM".toList ['*'] :=
              not_occurs_from_of_foreign (List.forall_mem_singleton.mpr rfl)
            simpa [Counted.text] using star
        | countColumn selectable => exact selectable.2
      intro occurs
      rw [List.append_cons, List.append_assoc keyword] at occurs
      have foreign : ∀ c ∈ gap ++ ['('], c.isAlpha = false :=
        isAlpha_eq_false_of_mem_concat gapBlank rfl
      rcases occurs_append_gap letters_from foreign occurs (by simp) with inKeyword | inArgument
      · exact not_occurs_from_of_spells spelled inKeyword
      · rw [List.append_assoc] at inArgument
        have closing : ∀ c ∈ right ++ [')'], c.isAlpha = false :=
          isAlpha_eq_false_of_mem_concat rightBlank rfl
        refine argument (occurs_of_occurs_padded letters_from ?_ closing inArgument)
        exact fun c hc => isAlpha_eq_false_of_isBlank (leftBlank c hc)

theorem trim_ne_star {names : List String} (listed : ColumnsLayout names text)
    (selectable : ∀ name ∈ names, Selectable name) (noComma : ∀ name ∈ names, ',' ∉ name.toList)
    (notAll : names ≠ ["*"]) : trim text ≠ ['*'] := by
  intro star
  have pieces := listed.map_trim_splitOn (fun name member => (selectable name member).1) noComma
  rw [← map_trim_splitOn_trim, star] at pieces
  apply notAll
  have texts : names.map String.toList = ["*"].map String.toList := pieces.symm.trans (by rfl)
  exact (List.map_inj_right fun _ _ => String.toList_inj.mp).mp texts

theorem recognize_of_layout (separable : selection.Separable) (h : selection.Layout text) :
    recognize (trim text) = .ok (selection.labelled text) := by
  cases h with
  | all => rfl
  | @columns names text listed =>
      cases separable with
      | columns nonempty notAll selectable noComma noCount =>
          have noOpening : ¬OpensCount (trim text) := by
            cases names with
            | nil => exact absurd rfl nonempty
            | cons name names =>
                rw [listed.opensCount_iff (selectable name List.mem_cons_self).1]
                exact noCount name rfl
          have pieces := listed.map_trim_splitOn
            (fun name member => (selectable name member).1) noComma
          rw [← map_trim_splitOn_trim] at pieces
          have names_eq : ((trim text).splitOn ',').map (fun piece => String.ofList (trim piece)) =
              names := by
            calc ((trim text).splitOn ',').map (fun piece => String.ofList (trim piece))
                = (((trim text).splitOn ',').map trim).map String.ofList := by
                  simp [Function.comp_def]
              _ = (names.map String.toList).map String.ofList := by rw [pieces]
              _ = names := by simp [Function.comp_def]
          unfold recognize
          rw [Aggregate.recognize?_eq_none_iff.mpr noOpening]
          simp only [bind, Except.bind, trim_ne_star listed selectable noComma notAll, if_false,
            names_eq]
          rfl
  | @count aggregate keyword gap left right spelled gapBlank leftBlank rightBlank =>
      have trimmed : Trimmed (keyword ++ (gap ++
          '(' :: (left ++ aggregate.counted.text.toList ++ right ++ [')']))) := by
        refine ⟨spelled.isBlank_head? letters_count _, ?_⟩
        rw [← List.cons_append, ← List.append_assoc, ← List.append_assoc, List.getLast?_concat]
        simp [isBlank_eq_false]
      obtain ⟨clean, nonempty, counted⟩ : Trimmed aggregate.counted.text.toList ∧
          aggregate.counted.text.toList ≠ [] ∧
          Counted.recognize aggregate.counted.text.toList = aggregate.counted := by
        cases separable with
        | countRows =>
            refine ⟨?_, by simp [Counted.text], Counted.recognize_text (by simp)⟩
            simp [Counted.text, Trimmed, isBlank_eq_false]
        | countColumn selectable nonempty notAll =>
            refine ⟨selectable.1, by simpa [Counted.text] using nonempty, ?_⟩
            apply Counted.recognize_text
            rintro _ ⟨⟩
            exact notAll
      unfold recognize
      rw [List.append_assoc, trim_eq_self trimmed, ← List.append_assoc,
        Aggregate.recognize?_written spelled gapBlank leftBlank rightBlank clean nonempty, counted]
      rfl

end Selection

end TableQuery
