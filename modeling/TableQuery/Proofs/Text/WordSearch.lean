import Mathlib.Data.List.Perm.Subperm
import TableQuery.Proofs.Text.ByteSearch

/-! # The search for a whole word

The search goes round by round. A round starts at the boundary of a character and finds the first
occurrence from there on; if that is part of a longer word, no whole word starts before the next
round. So the first whole word is never passed over, and the offsets that are visited go up.
-/

namespace TableQuery.Text

/-- The keyword occurs after as many bytes of the text, with no character of a word beside it. -/
def OccursAsWordAt (keyword text : List Char) (offset : Nat) : Prop :=
  ∃ before after, OccursBetween keyword before after text ∧ WordBreak before after ∧
    byteSize before = offset

/-- What is known when a round from an offset has ended. -/
inductive WordRound.Ends (keyword text : List Char) (offset : Nat) : WordRound → Prop where
  | found {start : Nat} (onward : offset ≤ start) (here : OccursAsWordAt keyword text start)
      (first : ∀ place, offset ≤ place → OccursAsWordAt keyword text place → start ≤ place) :
      Ends keyword text offset (.found start)
  | absent (none : ∀ place, offset ≤ place → ¬OccursAsWordAt keyword text place) :
      Ends keyword text offset .absent
  | passed {next : Nat} (onward : offset < next) (boundary : IsBoundary text next)
      (none : ∀ place, offset ≤ place → OccursAsWordAt keyword text place → next ≤ place) :
      Ends keyword text offset (.passed next)

/-- What is known of a search from an offset. -/
structure WordSearch.Right (keyword text : List Char) (offset : Nat) (search : WordSearch) :
    Prop where
  least : ∀ place, search.found? = some place ↔
    IsLeast {place | offset ≤ place ∧ OccursAsWordAt keyword text place} place
  onward : ∀ place ∈ search.visited, offset ≤ place
  increasing : search.visited.Pairwise (· < ·)
  boundaries : ∀ place ∈ search.visited, IsBoundary text place

section Offsets

variable {keyword left right text : List Char} {place : Nat}

theorem OccursAsWordAt.occursAt (h : OccursAsWordAt keyword text place) :
    OccursAt keyword text place := by
  obtain ⟨before, after, between, -, size⟩ := h
  exact ⟨before, after, between, size⟩

theorem OccursAt.of_append (h : OccursAt keyword (left ++ right) place)
    (onward : byteSize left ≤ place) : OccursAt keyword right (place - byteSize left) := by
  obtain ⟨before, after, ⟨spelling, eq, spells⟩, rfl⟩ := h
  rw [List.append_assoc] at eq
  obtain ⟨between, rfl, rfl⟩ := exists_eq_append_of_byteSize_le eq onward
  refine ⟨between, after, ⟨spelling, by simp, spells⟩, ?_⟩
  rw [byteSize_append, Nat.add_sub_cancel_left]

theorem OccursAt.append_left (h : OccursAt keyword right place) (left : List Char) :
    OccursAt keyword (left ++ right) (byteSize left + place) := by
  obtain ⟨before, after, between, rfl⟩ := h
  have wider := between.extend left []
  rw [List.append_nil, List.append_nil] at wider
  exact ⟨left ++ before, after, wider, byteSize_append left before⟩

theorem OccursAsWordAt.wordBreak {before after : List Char} (h : OccursAsWordAt keyword text place)
    (between : OccursBetween keyword before after text) (here : byteSize before = place) :
    WordBreak before after := by
  obtain ⟨before', after', ⟨other, eq, otherSpells⟩, breaks, size⟩ := h
  obtain ⟨spelling, rfl, spells⟩ := between
  rw [List.append_assoc, List.append_assoc] at eq
  obtain ⟨rfl, rest⟩ := append_inj_of_byteSize_eq eq (here.trans size.symm)
  obtain ⟨-, rfl⟩ := append_inj_of_byteSize_eq rest
    (spells.byteSize_eq.trans otherSpells.byteSize_eq.symm)
  exact breaks

theorem Spells.ascii {spelling : List Char} (spells : Spells keyword spelling)
    (ascii : Ascii keyword) : Ascii spelling := by
  intro c member
  have lower : c.toLower ∈ keyword.map Char.toLower := spells ▸ List.mem_map_of_mem member
  obtain ⟨k, inKeyword, eq⟩ := List.mem_map.mp lower
  have low := ascii k inKeyword
  have sizes := congrArg Char.toNat eq
  rw [toNat_toLower, toNat_toLower] at sizes
  split at sizes <;> split at sizes <;> omega

theorem OccursAt.isBoundary_succ (h : OccursAt keyword text place) (nonempty : keyword ≠ [])
    (ascii : Ascii keyword) : IsBoundary text (place + 1) := by
  obtain ⟨before, after, ⟨spelling, rfl, spells⟩, rfl⟩ := h
  cases spelling with
  | nil => exact absurd (List.map_eq_nil_iff.mp spells.symm) nonempty
  | cons c spelling =>
      have single := utf8EncodeChar_of_ascii (spells.ascii ascii c List.mem_cons_self)
      have size : c.utf8Size = 1 := by rw [← String.length_utf8EncodeChar, single]; rfl
      refine isBoundary_iff.mpr ⟨before ++ [c], spelling ++ after, by simp, ?_⟩
      simp [size]

end Offsets

section Search

variable {ε : Type} {keyword text : List Char} {offset : Nat}

theorem wordBreak_iff_any {before after : List Char} :
    WordBreak before after ↔
      ¬(before.getLast?.any isWordChar || after.head?.any isWordChar) = true := by
  simp [WordBreak, Option.any_eq_false]

theorem gives_wordRound {passed rest before after : List Char} {found : Nat}
    (occurs : byteOffset? keyword rest = some found)
    (between : OccursBetween keyword before after (passed ++ rest))
    (size : byteSize before = byteSize passed + found) :
    (wordRound keyword (passed ++ rest) (byteSize passed) : Sliced ε WordRound).Gives
      (.ok (if before.getLast?.any isWordChar || after.head?.any isWordChar then
        .passed (byteSize before + 1) else .found (byteSize before))) := by
  obtain ⟨spelling, cut, spells⟩ := between
  refine (Sliced.gives_take_end rfl rfl).bind_ok ?_
  simp only [occurs, ← size]
  refine (Sliced.gives_take_start (cut.trans (List.append_assoc _ _ _)) rfl).bind_ok ?_
  refine (Sliced.gives_take_end cut (by rw [byteSize_append, spells.byteSize_eq])).bind_ok ?_
  split
  · exact Sliced.gives_pure _
  · exact Sliced.gives_pure _

/-- What one round does: it finds the first whole word from its start on, or says that there is
    none, or says where the next round may start. -/
theorem exists_wordRound_gives (ε : Type) (nonempty : keyword ≠ []) (ascii : Ascii keyword)
    (boundary : IsBoundary text offset) :
    ∃ round, (wordRound keyword text offset : Sliced ε WordRound).Gives (.ok round) ∧
      round.Ends keyword text offset := by
  obtain ⟨passed, rest, rfl, rfl⟩ := isBoundary_iff.mp boundary
  cases occurs : byteOffset? keyword rest with
  | none =>
      refine ⟨.absent, (Sliced.gives_take_end rfl rfl).bind_ok ?_, .absent ?_⟩
      · simp only [occurs]
        exact Sliced.gives_pure _
      · intro place onward word
        exact (byteOffset?_eq_none_iff nonempty ascii).mp occurs _ (word.occursAt.of_append onward)
  | some found =>
      obtain ⟨inRest, first⟩ := (byteOffset?_eq_some_iff nonempty ascii).mp occurs
      have earliest : ∀ place, byteSize passed ≤ place →
          OccursAsWordAt keyword (passed ++ rest) place → byteSize passed + found ≤ place := by
        intro place onward word
        have later := first (word.occursAt.of_append onward)
        omega
      have here := OccursAt.append_left inRest passed
      have next := here.isBoundary_succ nonempty ascii
      obtain ⟨before, after, between, size⟩ := here
      refine ⟨_, gives_wordRound occurs between size, ?_⟩
      rw [← size] at earliest next
      by_cases breaks : WordBreak before after
      · rw [if_neg (wordBreak_iff_any.mp breaks)]
        exact .found (by omega) ⟨before, after, between, breaks, rfl⟩ earliest
      · rw [if_pos (not_not.mp (mt wordBreak_iff_any.mpr breaks))]
        refine .passed (by omega) next fun place onward word => ?_
        refine Nat.lt_of_le_of_ne (earliest place onward word) fun same => ?_
        exact breaks (word.wordBreak between same)

namespace WordSearch

theorem right_of_found {start : Nat} (boundary : IsBoundary text offset) (onward : offset ≤ start)
    (here : OccursAsWordAt keyword text start)
    (first : ∀ place, offset ≤ place → OccursAsWordAt keyword text place → start ≤ place) :
    Right keyword text offset ⟨[offset], some start⟩ where
  least place := by
    have least : IsLeast {place | offset ≤ place ∧ OccursAsWordAt keyword text place} start :=
      ⟨⟨onward, here⟩, fun place word => first place word.1 word.2⟩
    rw [Option.some.injEq]
    exact ⟨fun same => same ▸ least, least.unique⟩
  onward := by simp
  increasing := List.pairwise_singleton _ _
  boundaries := by simpa using boundary

theorem right_of_absent (boundary : IsBoundary text offset)
    (none : ∀ place, offset ≤ place → ¬OccursAsWordAt keyword text place) :
    Right keyword text offset ⟨[offset], .none⟩ where
  least place := ⟨nofun, fun least => absurd least.1.2 (none place least.1.1)⟩
  onward := by simp
  increasing := List.pairwise_singleton _ _
  boundaries := by simpa using boundary

theorem Right.cons {next : Nat} {search : WordSearch} (h : search.Right keyword text next)
    (boundary : IsBoundary text offset) (onward : offset < next)
    (none : ∀ place, offset ≤ place → OccursAsWordAt keyword text place → next ≤ place) :
    Right keyword text offset ⟨offset :: search.visited, search.found?⟩ where
  least place := by
    have same : {place | offset ≤ place ∧ OccursAsWordAt keyword text place} =
        {place | next ≤ place ∧ OccursAsWordAt keyword text place} := by
      ext place
      exact ⟨fun word => ⟨none place word.1 word.2, word.2⟩,
        fun word => ⟨onward.le.trans word.1, word.2⟩⟩
    rw [same]
    exact h.least place
  onward := by
    intro place visited
    rcases List.mem_cons.mp visited with rfl | later
    · exact Nat.le_refl _
    · exact onward.le.trans (h.onward place later)
  increasing := List.pairwise_cons.mpr
    ⟨fun place later => onward.trans_le (h.onward place later), h.increasing⟩
  boundaries := by
    intro place visited
    rcases List.mem_cons.mp visited with rfl | later
    · exact boundary
    · exact h.boundaries place later

end WordSearch

/-- The rounds from the boundary of a character on, by induction on the bytes that are left. -/
theorem exists_wordSearch_gives (ε : Type) (nonempty : keyword ≠ []) (ascii : Ascii keyword)
    (boundary : IsBoundary text offset) :
    ∃ search, (wordSearch keyword text offset : Sliced ε WordSearch).Gives (.ok search) ∧
      search.Right keyword text offset := by
  induction ahead : byteSize text - offset using Nat.strong_induction_on generalizing offset with
  | _ ahead ih =>
    obtain ⟨round, gives, ends⟩ := exists_wordRound_gives ε nonempty ascii boundary
    rw [wordSearch]
    cases ends with
    | found onward here first =>
        exact ⟨_, gives.attach.bind_ok (Sliced.gives_pure _),
          WordSearch.right_of_found boundary onward here first⟩
    | absent none =>
        exact ⟨_, gives.attach.bind_ok (Sliced.gives_pure _),
          WordSearch.right_of_absent boundary none⟩
    | passed onward next none =>
        have inside := next.le
        obtain ⟨later, laterGives, right⟩ := ih _ (by omega) next rfl
        exact ⟨_, gives.attach.bind_ok (laterGives.bind_ok (Sliced.gives_pure _)),
          right.cons boundary onward none⟩

theorem wordOffset?_eq_some_iff (nonempty : keyword ≠ []) :
    wordOffset? keyword text = some offset ↔
      IsLeast {place | OccursAsWordAt keyword text place} offset := by
  simp only [OccursAsWordAt, ← and_assoc]
  exact map_byteSize_eq_some_iff (fun _ _ word => word.1.isPrefix_before) fun left right => by
    simpa only [and_imp] using cutAtWord?_eq_some_iff_of_ne_nil nonempty

theorem WordSearch.Right.isLeast_iff {search : WordSearch} (h : search.Right keyword text 0) :
    search.found? = some offset ↔ IsLeast {place | OccursAsWordAt keyword text place} offset := by
  simpa using h.least offset

theorem WordSearch.Right.found?_eq {search : WordSearch} (h : search.Right keyword text 0)
    (nonempty : keyword ≠ []) : search.found? = wordOffset? keyword text := by
  ext offset
  rw [h.isLeast_iff, wordOffset?_eq_some_iff nonempty]

theorem WordSearch.Right.length_visited_le {search : WordSearch}
    (h : search.Right keyword text offset) : search.visited.length ≤ byteSize text + 1 := by
  have inside : search.visited ⊆ List.range (byteSize text + 1) := fun place visited =>
    List.mem_range.mpr (Nat.lt_succ_of_le (h.boundaries place visited).le)
  have distinct : search.visited.Nodup := h.increasing.imp Nat.ne_of_lt
  simpa using (List.subperm_of_subset distinct inside).length_le

end Search

/-- The search for an ASCII keyword as a whole word never asks for a slice that is refused. It finds
    the least offset at which the keyword stands, in whatever case, with no character of a word
    beside it in the whole text, and it finds nothing only where there is no such offset. The
    offsets it visits go up and stay in the text, so it ends. -/
theorem wordSearch_first {ε : Type} (keyword text : List Char) (nonempty : keyword ≠ [])
    (ascii : Ascii keyword) :
    ∃ search, (wordSearch keyword text 0 : Sliced ε WordSearch).Gives (.ok search) ∧
      search.found? = wordOffset? keyword text ∧
      (∀ offset, search.found? = some offset ↔
        IsLeast {place | OccursAsWordAt keyword text place} offset) ∧
      (search.found? = none ↔ ∀ place, ¬OccursAsWordAt keyword text place) ∧
      (∀ place, StandsAt keyword text place ↔ OccursAt keyword text place) ∧
      search.visited.Pairwise (· < ·) ∧ (∀ place ∈ search.visited, place ≤ byteSize text) ∧
      search.visited.length ≤ byteSize text + 1 := by
  obtain ⟨search, gives, right⟩ :=
    exists_wordSearch_gives ε nonempty ascii (isBoundary_zero text)
  exact ⟨search, gives, right.found?_eq nonempty, fun offset => right.isLeast_iff,
    eq_none_iff_of_isLeast fun offset => right.isLeast_iff,
    fun place => standsAt_iff nonempty ascii, right.increasing,
    fun place visited => (right.boundaries place visited).le, right.length_visited_le⟩

/-- Both occurrences in the first word are part of it, the second one starting inside the first. -/
theorem wordSearch_first_overlapping :
    "aa".toList ≠ [] ∧ Ascii "aa".toList ∧
      ∃ search, (wordSearch "aa".toList "aaaé AA".toList 0 : Sliced Empty WordSearch).Gives
          (.ok search) ∧
        search.found? = some 6 ∧ search.visited.Pairwise (· < ·) := by
  have nonempty : "aa".toList ≠ [] := by decide
  have ascii : Ascii "aa".toList := by decide
  obtain ⟨search, gives, same, -, -, -, increasing, -⟩ :=
    wordSearch_first "aa".toList "aaaé AA".toList nonempty ascii
  exact ⟨nonempty, ascii, search, gives, same.trans (by decide +kernel), increasing⟩

end TableQuery.Text
