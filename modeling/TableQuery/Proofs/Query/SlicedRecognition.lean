import TableQuery.Proofs.Query.Scanning
import TableQuery.Proofs.Text.WordSearch

/-! # Recognition by byte offsets

Recognizing a query by byte offsets comes to the same as recognizing it by characters, and no slice
it asks for is refused. Step for step, the offsets that are added up are the sizes of what the
searches on characters have cut off, whatever else the text holds.
-/

namespace TableQuery

open Text

namespace Literal

variable {text : List Char}

theorem readSliced_of_not_quoted
    (unquoted : ¬(2 ≤ byteSize (trim text) ∧ (trim text).head? = some '\'' ∧
      (trim text).getLast? = some '\'')) :
    readSliced text = .ofExcept (read text) := by
  simp only [readSliced]
  rw [if_neg (by simpa [and_assoc, and_comm, and_left_comm] using unquoted)]
  split
  next quote =>
      have half : HalfQuoted (trim text) := ⟨by simpa using quote, unquoted⟩
      rw [read_of_halfQuoted half]
      rfl
  next bare =>
      obtain ⟨opens, closes⟩ :
          (trim text).head? ≠ some '\'' ∧ (trim text).getLast? ≠ some '\'' := by
        simpa using bare
      rw [read_of_unquoted opens closes]
      rfl

theorem gives_readSliced (text : List Char) : (readSliced text).Gives (read text) := by
  by_cases quoted : 2 ≤ byteSize (trim text) ∧ (trim text).head? = some '\'' ∧
      (trim text).getLast? = some '\''
  · obtain ⟨content, form⟩ := exists_quoted quoted.1 quoted.2.1 quoted.2.2
    have quote : byteSize ['\''] = 1 := by decide
    rw [read_of_quoted form, readSliced]
    simp only [quoted.1, quoted.2.1, quoted.2.2, beq_self_eq_true, decide_true, Bool.and_self,
      if_true]
    have cut : trim text = ['\''] ++ content ++ ['\''] := form
    refine (Sliced.gives_take cut quote ?_).bind_ok (Sliced.gives_pure _)
    rw [cut, byteSize_append, byteSize_append, quote, Nat.add_sub_cancel]
  · rw [readSliced_of_not_quoted quoted]
    exact Sliced.gives_ofExcept _

end Literal

theorem Condition.gives_recognizeSliced (text : List Char) :
    (recognizeSliced text).Gives (recognize text) := by
  refine (Comparison.gives_scan text).bind_ok ?_
  cases found : Comparison.find? text with
  | none =>
      rw [recognize, found]
      exact Sliced.gives_fail _
  | some split =>
      obtain ⟨left, comparison, right⟩ := split
      have splits := Comparison.find?_eq_some_iff.mp found
      have cut : text = left ++ (comparison.symbol.toList ++ right) := by
        rw [splits.written, List.append_assoc]
      have size : byteSize (left ++ comparison.symbol.toList) =
          byteSize left + comparison.symbol.utf8ByteSize := by
        rw [byteSize_append, byteSize_toList]
      rw [recognize_of_splits splits]
      exact (Sliced.gives_take_start cut rfl).bind_ok <|
        (Sliced.gives_take_end splits.written size).bind_ok <|
          (Literal.gives_readSliced right).bind fun literal => Sliced.gives_pure _

theorem Aggregate.gives_recognizeSliced? (selection : List Char) :
    (recognizeSliced? selection).Gives (recognize? selection) := by
  cases after : afterKeyword? "COUNT".toList selection with
  | none =>
      rw [recognizeSliced?, opensWith_eq_isSome, recognize?, after]
      exact Sliced.gives_pure none
  | some rest =>
      obtain ⟨spelling, cut, spells⟩ := afterKeyword?_eq_some_iff.mp after
      rw [recognizeSliced?, opensWith_eq_isSome, recognize?, after,
        if_pos Option.isSome_some, Option.map_some]
      refine (Sliced.gives_take_end cut (Spells.byteSize_eq spells)).bind_ok ?_
      split
      next inner opened =>
          simp only [opened]
          split
          · exact Sliced.gives_pure _
          · exact Sliced.gives_fail _
      next unopened =>
          split
          next inner opened => exact absurd (Option.some.inj opened) (unopened inner)
          next => exact Sliced.gives_pure none

theorem Selection.gives_recognizeSliced (text : List Char) :
    (recognizeSliced text).Gives (recognize text) := by
  refine (Aggregate.gives_recognizeSliced? text).bind fun aggregate? => ?_
  cases aggregate? with
  | some aggregate => exact Sliced.gives_pure _
  | none =>
      dsimp only
      split
      · exact Sliced.gives_pure _
      · exact Sliced.gives_pure _

theorem gives_splitConditionSliced (text : List Char) :
    (splitConditionSliced text).Gives (.ok (splitCondition text)) := by
  obtain ⟨search, gives, right⟩ :=
    exists_wordSearch_gives Rejection letters_where.1 letters_where.ascii (isBoundary_zero text)
  refine gives.bind_ok ?_
  rw [right.found?_eq letters_where.1, wordOffset?, splitCondition]
  cases found : cutAtWord? "WHERE".toList text with
  | none => exact Sliced.gives_pure _
  | some parts =>
      obtain ⟨before, after⟩ := parts
      obtain ⟨⟨⟨spelling, cut, spells⟩, -⟩, -⟩ := (cutAtWord?_eq_some_iff letters_where).mp found
      have start : text = before ++ (spelling ++ after) := by rw [cut, List.append_assoc]
      have size : byteSize (before ++ spelling) = byteSize before + byteSize "WHERE".toList := by
        rw [byteSize_append, spells.byteSize_eq]
      exact (Sliced.gives_take_start start rfl).bind_ok <|
        (Sliced.gives_take_end cut size).bind_ok (Sliced.gives_pure _)

theorem Text.Sliced.gives_mapM {ε α β : Type} {sliced : α → Sliced ε β} {plain : α → Except ε β}
    (each : ∀ value, (sliced value).Gives (plain value)) (value? : Option α) :
    (value?.mapM sliced).Gives (value?.mapM plain) := by
  cases value? with
  | none => exact gives_pure none
  | some value =>
      have mapped : (some value).mapM plain = do return some (← plain value) := by
        change some <$> plain value = _
        cases plain value <;> rfl
      rw [mapped]
      exact (each value).bind fun _ => gives_pure _

namespace Query

variable {text statement body : List Char} {start stop : Nat}

theorem byteOffset?_select (selects : Selects statement body) :
    byteOffset? "SELECT".toList statement = some 0 := by
  obtain ⟨select, spells, rfl⟩ := selects
  rw [byteOffset?_eq_some_iff letters_select.1 letters_select.ascii]
  exact ⟨⟨[], body, ⟨select, rfl, spells⟩, rfl⟩, fun place _ => Nat.zero_le place⟩

theorem opensWith_select_iff :
    opensWith "SELECT".toList statement ↔ ∃ body, Selects statement body := by
  rw [opensWith_eq_isSome, Option.isSome_iff_exists]
  exact exists_congr fun body => afterKeyword?_select_eq_some_iff

/-- The first FROM is found behind SELECT, wherever SELECT was found. -/
theorem select_end_le (opens : opensWith "SELECT".toList statement)
    (select : byteOffset? "SELECT".toList statement = some start)
    (source : byteOffset? "FROM".toList statement = some stop) :
    start + byteSize "SELECT".toList ≤ stop := by
  obtain ⟨body, selects⟩ := opensWith_select_iff.mp opens
  obtain rfl : start = 0 := Option.some.inj (select.symm.trans (byteOffset?_select selects))
  obtain ⟨spelling, spells, rfl⟩ := selects
  obtain ⟨before, after, between, rfl⟩ :=
    ((byteOffset?_eq_some_iff letters_from.1 letters_from.ascii).mp source).1
  obtain ⟨rest, rfl, -⟩ := (occursBetween_from_iff spells).mp between
  rw [byteSize_append, spells.byteSize_eq]
  omega

theorem gives_recognizeSliced (text : List Char) :
    (recognizeSliced text).Gives (recognizeChars text) := by
  by_cases opens : opensWith "SELECT".toList (TableQuery.statement text)
  case neg =>
    rw [recognizeChars_of_not_selects fun selects => opens (opensWith_select_iff.mpr selects),
      recognizeSliced]
    simp only [opens]
    exact Sliced.gives_fail _
  obtain ⟨body, selects⟩ := opensWith_select_iff.mp opens
  have select := byteOffset?_select selects
  rw [recognizeSliced]
  by_cases occurs : Occurs "FROM".toList (TableQuery.statement text)
  case neg =>
    have absent : byteOffset? "FROM".toList (TableQuery.statement text) = none := by
      rw [byteOffset?_eq_keywordOffset? letters_from, keywordOffset?,
        (cutAtKeyword?_eq_none_iff letters_from).mpr occurs]
      rfl
    rw [recognizeChars_of_not_occurs_from selects occurs]
    simp only [opens, select, absent]
    exact Sliced.gives_fail _
  obtain ⟨selection, clause, parts⟩ := exists_parts selects occurs
  rw [recognizeChars_of_parts parts]
  obtain ⟨spelling, between, after, spells, first, rfl, rfl⟩ := parts
  have source : byteOffset? "FROM".toList (TableQuery.statement text) =
      some (byteSize (spelling ++ between)) := by
    rw [byteOffset?_eq_keywordOffset? letters_from, keywordOffset?,
      (cutAtKeyword?_eq_some_iff letters_from).mpr first]
    rfl
  have forward := Nat.not_lt_of_le (select_end_le opens select source)
  obtain ⟨⟨keyword, cut, keywordSpells⟩, -⟩ := first
  -- Both offsets count from the start of the statement, so the slices are cut from all of it.
  simp only [opens, select, source, forward]
  have front : TableQuery.statement text = spelling ++ between ++ (keyword ++ after) := by
    rw [cut, List.append_assoc]
  refine (Sliced.gives_take front ?_ ?_).bind_ok ?_
  · rw [spells.byteSize_eq, Nat.zero_add]
  · rw [byteSize_append, spells.byteSize_eq, Nat.zero_add]
  refine (Sliced.gives_take_end cut ?_).bind_ok ?_
  · rw [byteSize_append, keywordSpells.byteSize_eq]
  exact (gives_splitConditionSliced (trim after)).bind_ok <|
    (Selection.gives_recognizeSliced (trim between)).bind fun chosen =>
      (Sliced.gives_mapM Condition.gives_recognizeSliced _).bind fun condition =>
        Sliced.gives_pure _

/-- Whatever the text, each slice asked for has its ends in order, inside the text it is cut from
    and at boundaries of characters, so none is refused. That goes for the whole recognition, which
    comes to the query or rejection that recognizing by characters comes to, for each of its parts
    on a text of any kind, and for the search for any ASCII word, with the offsets it starts again
    from. The first FROM never starts before the end of the SELECT that a statement opens with, so
    it is never rejected for that. -/
theorem slices_fit (text keyword : List Char) :
    (recognizeSliced text).Gives (recognizeChars text) ∧
    (Aggregate.recognizeSliced? text).Gives (Aggregate.recognize? text) ∧
    (Condition.recognizeSliced text).Gives (Condition.recognize text) ∧
    (Comparison.scan text : Sliced Rejection (Option (Nat × Comparison))).Gives
      (.ok ((Comparison.find? text).map fun (left, comparison, _) =>
        (byteSize left, comparison))) ∧
    (Literal.readSliced text).Gives (Literal.read text) ∧
    (keyword ≠ [] → Ascii keyword →
      ∃ search, (wordSearch keyword text 0 : Sliced Rejection WordSearch).Gives (.ok search) ∧
        search.found? = wordOffset? keyword text ∧
        ∀ restart ∈ search.visited, IsBoundary text restart) ∧
    ∀ start stop, opensWith "SELECT".toList (TableQuery.statement text) →
      byteOffset? "SELECT".toList (TableQuery.statement text) = some start →
      byteOffset? "FROM".toList (TableQuery.statement text) = some stop →
      start + byteSize "SELECT".toList ≤ stop := by
  refine ⟨gives_recognizeSliced text, Aggregate.gives_recognizeSliced? text,
    Condition.gives_recognizeSliced text, Comparison.gives_scan text,
    Literal.gives_readSliced text, fun nonempty ascii => ?_, fun _ _ => select_end_le⟩
  obtain ⟨search, gives, right⟩ :=
    exists_wordSearch_gives Rejection nonempty ascii (isBoundary_zero text)
  exact ⟨search, gives, right.found?_eq nonempty, right.boundaries⟩

/-- The selection of a statement is cut out from behind SELECT up to FROM, and the search for a word
    goes on after the last letter of SELECT. -/
theorem slices_fit_accented :
    (Slice.mk "select é from t where cité >= 'é'".toList 6 10).Fits ∧
      "t".toList ≠ [] ∧ Ascii "t".toList ∧
      (∃ search, (wordSearch "t".toList "select é from t where cité >= 'é'".toList 0 :
          Sliced Rejection WordSearch).Gives (.ok search) ∧ search.found? = some 15) ∧
      0 + byteSize "SELECT".toList ≤ 10 := by
  have nonempty : "t".toList ≠ [] := by decide
  have ascii : Ascii "t".toList := by decide
  obtain ⟨gives, -, -, -, -, word, source⟩ :=
    slices_fit "select é from t where cité >= 'é'".toList "t".toList
  have first : (recognizeSliced "select é from t where cité >= 'é'".toList).slices.head? =
      some ⟨"select é from t where cité >= 'é'".toList, 6, 10⟩ := by decide +kernel
  obtain ⟨search, searches, found, -⟩ := word nonempty ascii
  refine ⟨gives.fits _ (List.mem_of_mem_head? first), nonempty, ascii,
    ⟨search, searches, found.trans (by decide +kernel)⟩, ?_⟩
  exact source 0 10 (by decide +kernel) (by decide +kernel) (by decide +kernel)

end Query

end TableQuery
