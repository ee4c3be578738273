import TableQuery.Text.Search
import TableQuery.Proofs.Text.Trimming

/-! # Occurrences of keywords

A keyword occurs wherever its letters follow one another, each in either case. The two searches
for a keyword find exactly its first occurrence, anywhere or with no word character beside it.

An occurrence holds letters only. So where a text has a gap of other characters, each occurrence
lies on one side of the gap; that is what keeps the parts of a query apart.
-/

namespace TableQuery.Text

/-- The keyword with each of its letters in either case. -/
def Spells (keyword spelling : List Char) : Prop :=
  spelling.map Char.toLower = keyword.map Char.toLower

/-- The keyword stands in the text between `before` and `after`. -/
def OccursBetween (keyword before after text : List Char) : Prop :=
  ∃ spelling, text = before ++ spelling ++ after ∧ Spells keyword spelling

/-- No word goes on across the ends of what stands between the two texts. -/
def WordBreak (before after : List Char) : Prop :=
  (∀ c ∈ before.getLast?, isWordChar c = false) ∧ ∀ c ∈ after.head?, isWordChar c = false

def Occurs (keyword text : List Char) : Prop :=
  ∃ before after, OccursBetween keyword before after text

def OccursAsWord (keyword text : List Char) : Prop :=
  ∃ before after, OccursBetween keyword before after text ∧ WordBreak before after

def Letters (keyword : List Char) : Prop := keyword ≠ [] ∧ ∀ c ∈ keyword, c.isAlpha

instance (keyword spelling : List Char) : Decidable (Spells keyword spelling) :=
  inferInstanceAs (Decidable (spelling.map Char.toLower = keyword.map Char.toLower))

instance (keyword : List Char) : Decidable (Letters keyword) :=
  decidable_of_iff ((!keyword.isEmpty && keyword.all Char.isAlpha) = true) (by simp [Letters])

theorem isAlpha_iff {c : Char} :
    c.isAlpha ↔ (65 ≤ c.toNat ∧ c.toNat ≤ 90) ∨ (97 ≤ c.toNat ∧ c.toNat ≤ 122) := by
  have either : c.isAlpha = (c.isUpper || c.isLower) := rfl
  have upper : c.isUpper = decide (c.val ≥ 'A'.val ∧ c.val ≤ 'Z'.val) := rfl
  have lower : c.isLower = (decide (c.val ≥ 'a'.val) && decide (c.val ≤ 'z'.val)) := rfl
  simp only [either, upper, lower, Bool.or_eq_true, Bool.and_eq_true, decide_eq_true_eq,
    ge_iff_le, UInt32.le_iff_toNat_le]
  exact Iff.rfl

theorem toNat_toLower (c : Char) :
    c.toLower.toNat = if 65 ≤ c.toNat ∧ c.toNat ≤ 90 then c.toNat + 32 else c.toNat := by
  by_cases upper : c.val ≥ 'A'.val ∧ c.val ≤ 'Z'.val
  · have range : 65 ≤ c.toNat ∧ c.toNat ≤ 90 := by
      simp only [ge_iff_le, UInt32.le_iff_toNat_le] at upper
      exact upper
    have lower : c.toLower.toNat = (c.val + 32).toNat :=
      congrArg Char.toNat (dif_pos upper)
    rw [lower, if_pos range, UInt32.toNat_add]
    change (c.toNat + 32) % 4294967296 = c.toNat + 32
    omega
  · have range : ¬(65 ≤ c.toNat ∧ c.toNat ≤ 90) := by
      simp only [ge_iff_le, UInt32.le_iff_toNat_le] at upper
      exact upper
    have same : c.toLower = c := dif_neg upper
    rw [same, if_neg range]

theorem isAlpha_toLower_iff {c : Char} : c.toLower.isAlpha ↔ c.isAlpha := by
  rw [isAlpha_iff, isAlpha_iff, toNat_toLower]
  split <;> omega

theorem isBlank_eq_false_of_isAlpha {c : Char} (h : c.isAlpha) : isBlank c = false := by
  have range := isAlpha_iff.mp h
  exact isBlank_eq_false (by omega) (by omega)

theorem isAlpha_eq_false_of_isBlank {c : Char} (h : isBlank c) : c.isAlpha = false := by
  cases alpha : c.isAlpha with
  | false => rfl
  | true => simp [isBlank_eq_false_of_isAlpha alpha] at h

theorem isWordChar_of_isAlpha {c : Char} (h : c.isAlpha) : isWordChar c :=
  isWordChar_of_isAlphanum (by simp [Char.isAlphanum, h])

theorem isWordChar_eq_false_of_isBlank {c : Char} (h : isBlank c) : isWordChar c = false := by
  obtain ⟨range, member, low, high⟩ := inRanges_iff.mp h
  -- No range of blanks and none of word characters overlap, so the blanks are tried one by one.
  have all : ∀ range ∈ blankRanges, ∀ n ∈ List.range' range.1 (range.2 + 1 - range.1),
      isWordChar (Char.ofNat n) = false := by decide +kernel
  rw [← Char.ofNat_toNat c]
  exact all range member c.toNat (List.mem_range'_1.mpr (by omega))

theorem spells_self (keyword : List Char) : Spells keyword keyword := rfl

theorem Spells.ne_nil {keyword spelling : List Char} (h : Spells keyword spelling)
    (letters : Letters keyword) : spelling ≠ [] := by
  rintro rfl
  exact letters.1 (List.map_eq_nil_iff.mp h.symm)

theorem Spells.isAlpha {keyword spelling : List Char} (h : Spells keyword spelling)
    (letters : Letters keyword) : ∀ c ∈ spelling, c.isAlpha := by
  intro c hc
  have lower : c.toLower ∈ keyword.map Char.toLower := h ▸ List.mem_map_of_mem hc
  obtain ⟨k, hk, eq⟩ := List.mem_map.mp lower
  exact isAlpha_toLower_iff.mp (eq ▸ isAlpha_toLower_iff.mpr (letters.2 k hk))

theorem Spells.isBlank_head? {keyword spelling : List Char} (h : Spells keyword spelling)
    (letters : Letters keyword) (rest : List Char) :
    ∀ c ∈ (spelling ++ rest).head?, isBlank c = false := by
  intro c hc
  cases spelling with
  | nil => exact absurd rfl (h.ne_nil letters)
  | cons d spelling =>
      obtain rfl : d = c := by simpa using hc
      exact isBlank_eq_false_of_isAlpha (h.isAlpha letters d List.mem_cons_self)

section Beside

variable {before spelling after left gap right : List Char}

theorem getLast_eq_of_append_eq {α : Type} {a b c d : List α} (eq : a ++ b = c ++ d)
    (hb : b ≠ []) (hd : d ≠ []) : b.getLast hb = d.getLast hd := by
  have last := congrArg List.getLast? eq
  rw [List.getLast?_append, List.getLast?_append, List.getLast?_eq_some_getLast hb,
    List.getLast?_eq_some_getLast hd, Option.some_or, Option.some_or] at last
  exact Option.some.inj last

/-- A part of a text that shares no character with a gap lies before the gap or after it. -/
theorem beside_gap (eq : before ++ spelling ++ after = left ++ gap ++ right)
    (hs : spelling ≠ []) (hg : gap ≠ []) (disjoint : ∀ c ∈ gap, c ∉ spelling) :
    (∃ rest, left = before ++ spelling ++ rest ∧ after = rest ++ gap ++ right) ∨
      ∃ rest, before = left ++ gap ++ rest ∧ right = rest ++ spelling ++ after := by
  rw [List.append_assoc left] at eq
  rcases List.append_eq_append_iff.mp eq with ⟨rest, hl, ha⟩ | ⟨excess, hl, hr⟩
  · exact .inl ⟨rest, hl, by rw [ha, List.append_assoc]⟩
  · rcases List.append_eq_append_iff.mp hr with ⟨past, hover, hright⟩ | ⟨past, hgap, hafter⟩
    · -- The part ends after the gap, so it starts there too.
      rw [hover, ← List.append_assoc] at hl
      rcases List.append_eq_append_iff.mp hl with ⟨shared, hb, hsp⟩ | ⟨rest, hb, hpast⟩
      · cases shared with
        | nil => exact .inr ⟨[], by simpa using hb.symm, by simpa [hsp] using hright⟩
        | cons c shared =>
            have last := getLast_eq_of_append_eq hb hg (List.cons_ne_nil c shared)
            refine absurd ?_ (disjoint _ (List.getLast_mem hg))
            rw [hsp, last]
            exact List.mem_append_left past (List.getLast_mem _)
      · exact .inr ⟨rest, hb, by rw [hright, hpast]⟩
    · cases excess with
      | nil => exact .inl ⟨[], by simpa using hl.symm, by simp [hafter, hgap]⟩
      | cons c excess =>
          have last := getLast_eq_of_append_eq hl hs (List.cons_ne_nil c excess)
          refine absurd (List.getLast_mem hs) ?_
          rw [last]
          refine disjoint _ ?_
          rw [hgap]
          exact List.mem_append_left past (List.getLast_mem _)

end Beside

theorem firstPlace?_eq_none_iff {α : Type} {here : List Char → List Char → Option α}
    {before text : List Char} :
    firstPlace? here before text = none ↔
      ∀ passed ahead, text = passed ++ ahead → here (passed.reverse ++ before) ahead = none := by
  induction text generalizing before with
  | nil =>
      rw [firstPlace?, Option.map_eq_none_iff]
      constructor
      · intro miss passed ahead eq
        obtain ⟨rfl, rfl⟩ := List.append_eq_nil_iff.mp eq.symm
        exact miss
      · intro miss
        exact miss [] [] rfl
  | cons c text ih =>
      rw [firstPlace?]
      split
      next found hit =>
          simp only [reduceCtorEq, false_iff]
          intro miss
          simp [show here before (c :: text) = none from miss [] _ rfl] at hit
      next miss =>
          rw [ih]
          constructor
          · intro later passed ahead eq
            cases passed with
            | nil =>
                obtain rfl : c :: text = ahead := eq
                exact miss
            | cons d passed =>
                obtain ⟨rfl, rest⟩ := List.cons.inj eq
                simpa using later passed ahead rest
          · intro later passed ahead eq
            simpa using later (c :: passed) ahead (congrArg (List.cons c) eq)

section Searches

variable {keyword text left right : List Char} {fits : List Char → List Char → Bool}

theorem afterKeyword?_spelling {spelling : List Char} (h : Spells keyword spelling)
    (rest : List Char) : afterKeyword? keyword (spelling ++ rest) = some rest :=
  afterKeyword?_eq_some_iff.mpr ⟨spelling, rfl, h⟩

theorem firstPlace?_fitting_eq_some_iff :
    firstPlace? (fun before rest => (afterKeyword? keyword rest).filter (fits before)) [] text =
        some (left, right) ↔
      (OccursBetween keyword left right text ∧ fits left.reverse right) ∧
        ∀ before after, OccursBetween keyword before after text → fits before.reverse after →
          left.length ≤ before.length := by
  rw [firstPlace?_eq_some_iff]
  constructor
  · intro found
    obtain ⟨skipped, rest, rfl, rfl, hit, earliest⟩ := found
    simp only [List.append_nil, Option.filter_eq_some_iff] at hit
    obtain ⟨after, fit⟩ := hit
    obtain ⟨spelling, rfl, spells⟩ := afterKeyword?_eq_some_iff.mp after
    refine ⟨⟨⟨spelling, by simp, spells⟩, by simpa using fit⟩, ?_⟩
    intro before after between otherFits
    obtain ⟨other, eq, otherSpells⟩ := between
    apply Nat.le_of_not_lt
    intro shorter
    have miss := earliest before (other ++ after) (by simpa using eq) (by simpa using shorter)
    simp [afterKeyword?_spelling otherSpells, otherFits] at miss
  · intro first
    obtain ⟨⟨⟨spelling, rfl, spells⟩, fit⟩, earliest⟩ := first
    refine ⟨left, spelling ++ right, by simp, by simp, ?_, ?_⟩
    · simp [afterKeyword?_spelling spells, fit]
    · intro passed ahead eq shorter
      rw [Option.filter_eq_none_iff]
      intro after hit otherFits
      obtain ⟨other, rfl, otherSpells⟩ := afterKeyword?_eq_some_iff.mp hit
      have later := earliest passed after ⟨other, by simpa using eq, otherSpells⟩
        (by simpa using otherFits)
      omega

theorem firstPlace?_fitting_eq_none_iff :
    firstPlace? (fun before rest => (afterKeyword? keyword rest).filter (fits before)) [] text =
        none ↔
      ∀ before after, OccursBetween keyword before after text →
        fits before.reverse after = false := by
  rw [firstPlace?_eq_none_iff]
  constructor
  · intro miss before after between
    obtain ⟨spelling, eq, spells⟩ := between
    have none := miss before (spelling ++ after) (by simpa using eq)
    simpa [afterKeyword?_spelling spells] using none
  · intro unfit passed ahead eq
    rw [Option.filter_eq_none_iff]
    intro after hit fit
    obtain ⟨spelling, rfl, spells⟩ := afterKeyword?_eq_some_iff.mp hit
    have misfit := unfit passed after ⟨spelling, by simpa using eq, spells⟩
    simp [List.append_nil] at fit
    simp [misfit] at fit

theorem cutAtKeyword?_eq_firstPlace? (letters : Letters keyword) :
    cutAtKeyword? keyword text =
      firstPlace? (fun before rest =>
        (afterKeyword? keyword rest).filter ((fun _ _ => true) before)) [] text := by
  have nonempty : keyword.isEmpty = false := by simpa using letters.1
  have all : ∀ found : Option (List Char), found.filter (fun _ => true) = found := by
    intro found
    cases found <;> rfl
  simp [cutAtKeyword?, nonempty, all]

theorem cutAtKeyword?_eq_some_iff (letters : Letters keyword) :
    cutAtKeyword? keyword text = some (left, right) ↔
      OccursBetween keyword left right text ∧
        ∀ before after, OccursBetween keyword before after text →
          left.length ≤ before.length := by
  rw [cutAtKeyword?_eq_firstPlace? letters, firstPlace?_fitting_eq_some_iff]
  simp

theorem cutAtKeyword?_eq_none_iff (letters : Letters keyword) :
    cutAtKeyword? keyword text = none ↔ ¬Occurs keyword text := by
  rw [cutAtKeyword?_eq_firstPlace? letters, firstPlace?_fitting_eq_none_iff]
  simp [Occurs]

theorem wordBreak_iff {before after : List Char} :
    WordBreak before after ↔ (!startsInWord before.reverse && !startsInWord after) = true := by
  simp [WordBreak, startsInWord, Option.any_eq_false]

theorem cutAtWord?_eq_some_iff_of_ne_nil (nonempty : keyword ≠ []) :
    cutAtWord? keyword text = some (left, right) ↔
      (OccursBetween keyword left right text ∧ WordBreak left right) ∧
        ∀ before after, OccursBetween keyword before after text → WordBreak before after →
          left.length ≤ before.length := by
  have filled : keyword.isEmpty = false := by simpa using nonempty
  simp only [cutAtWord?, filled, Bool.false_eq_true, if_false, wordBreak_iff]
  exact firstPlace?_fitting_eq_some_iff

theorem cutAtWord?_eq_some_iff (letters : Letters keyword) :
    cutAtWord? keyword text = some (left, right) ↔
      (OccursBetween keyword left right text ∧ WordBreak left right) ∧
        ∀ before after, OccursBetween keyword before after text → WordBreak before after →
          left.length ≤ before.length :=
  cutAtWord?_eq_some_iff_of_ne_nil letters.1

theorem cutAtWord?_eq_none_iff (letters : Letters keyword) :
    cutAtWord? keyword text = none ↔ ¬OccursAsWord keyword text := by
  have nonempty : keyword.isEmpty = false := by simpa using letters.1
  simp only [cutAtWord?, nonempty, Bool.false_eq_true, if_false, OccursAsWord, wordBreak_iff,
    not_exists, not_and, Bool.not_eq_true]
  exact firstPlace?_fitting_eq_none_iff

end Searches

section Parts

variable {keyword text before after left gap right : List Char}

theorem OccursBetween.extend (h : OccursBetween keyword before after text)
    (left right : List Char) :
    OccursBetween keyword (left ++ before) (after ++ right) (left ++ text ++ right) := by
  obtain ⟨spelling, rfl, spells⟩ := h
  exact ⟨spelling, by simp, spells⟩

theorem OccursBetween.before_lt (h : OccursBetween keyword before after text)
    (letters : Letters keyword) : before.length < text.length := by
  obtain ⟨spelling, rfl, spells⟩ := h
  have := List.length_pos_iff.mpr (spells.ne_nil letters)
  simp only [List.length_append]
  omega

theorem Occurs.extend (h : Occurs keyword text) (left right : List Char) :
    Occurs keyword (left ++ text ++ right) := by
  obtain ⟨before, after, between⟩ := h
  exact ⟨_, _, between.extend left right⟩

theorem not_occurs_nil (letters : Letters keyword) : ¬Occurs keyword [] := by
  intro occurs
  obtain ⟨before, after, between⟩ := occurs
  exact Nat.not_lt_zero _ (between.before_lt letters)

theorem OccursBetween.beside_gap (letters : Letters keyword)
    (h : OccursBetween keyword before after (left ++ gap ++ right)) (nonempty : gap ≠ [])
    (foreign : ∀ c ∈ gap, c.isAlpha = false) :
    (∃ rest, OccursBetween keyword before rest left ∧ after = rest ++ gap ++ right) ∨
      ∃ rest, OccursBetween keyword rest after right ∧ before = left ++ gap ++ rest := by
  obtain ⟨spelling, eq, spells⟩ := h
  have disjoint : ∀ c ∈ gap, c ∉ spelling := by
    intro c inGap inSpelling
    simpa [foreign c inGap] using spells.isAlpha letters c inSpelling
  rcases Text.beside_gap eq.symm (spells.ne_nil letters) nonempty disjoint with
    ⟨rest, hl, ha⟩ | ⟨rest, hb, hr⟩
  · exact .inl ⟨rest, ⟨spelling, hl, spells⟩, ha⟩
  · exact .inr ⟨rest, ⟨spelling, hr, spells⟩, hb⟩

theorem occurs_append_gap (letters : Letters keyword) (foreign : ∀ c ∈ gap, c.isAlpha = false)
    (h : Occurs keyword (left ++ gap ++ right)) (nonempty : gap ≠ []) :
    Occurs keyword left ∨ Occurs keyword right := by
  obtain ⟨before, after, between⟩ := h
  rcases between.beside_gap letters nonempty foreign with ⟨rest, inLeft, -⟩ | ⟨rest, inRight, -⟩
  · exact .inl ⟨before, rest, inLeft⟩
  · exact .inr ⟨rest, after, inRight⟩

theorem occurs_of_occurs_padded (letters : Letters keyword)
    (hl : ∀ c ∈ left, c.isAlpha = false) (hr : ∀ c ∈ right, c.isAlpha = false)
    (h : Occurs keyword (left ++ text ++ right)) : Occurs keyword text := by
  have inner : Occurs keyword (left ++ text) := by
    cases right with
    | nil => simpa using h
    | cons c right =>
        rw [← List.append_nil (left ++ text ++ c :: right)] at h
        exact (occurs_append_gap letters hr h (List.cons_ne_nil c right)).resolve_right
          (not_occurs_nil letters)
  cases left with
  | nil => exact inner
  | cons c left =>
      rw [← List.nil_append (c :: left)] at inner
      exact (occurs_append_gap letters hl inner (List.cons_ne_nil c left)).resolve_left
        (not_occurs_nil letters)

theorem WordBreak.of_append {more : List Char} (h : WordBreak before (after ++ more)) :
    WordBreak before after := by
  refine ⟨h.1, ?_⟩
  intro c hc
  apply h.2
  rw [List.head?_append, Option.mem_def.mp hc]
  rfl

theorem OccursAsWord.extend (h : OccursAsWord keyword text)
    (hl : ∀ c ∈ left.getLast?, isWordChar c = false)
    (hr : ∀ c ∈ right.head?, isWordChar c = false) :
    OccursAsWord keyword (left ++ text ++ right) := by
  obtain ⟨before, after, between, breaks⟩ := h
  refine ⟨_, _, between.extend left right, ?_, ?_⟩
  · intro c hc
    cases before with
    | nil => exact hl c (by simpa using hc)
    | cons b before => exact breaks.1 c (by simpa [List.getLast?_append] using hc)
  · intro c hc
    cases after with
    | nil => exact hr c (by simpa using hc)
    | cons a after => exact breaks.2 c (by simpa using hc)

theorem not_occurs_of_cutAtKeyword? (letters : Letters keyword)
    (cut : cutAtKeyword? keyword text = some (left, right)) : ¬Occurs keyword left := by
  obtain ⟨⟨spelling, rfl, -⟩, earliest⟩ := (cutAtKeyword?_eq_some_iff letters).mp cut
  intro occurs
  obtain ⟨before, after, between⟩ := occurs
  have later := earliest before _ (by simpa using between.extend [] (spelling ++ right))
  have inside := between.before_lt letters
  omega

/-- What stands before the first whole word holds no whole word: its last one would have to run
    into the one that was found. -/
theorem not_occursAsWord_of_cutAtWord? (letters : Letters keyword)
    (cut : cutAtWord? keyword text = some (left, right)) : ¬OccursAsWord keyword left := by
  obtain ⟨⟨⟨spelling, rfl, -⟩, leftBreak, -⟩, earliest⟩ := (cutAtWord?_eq_some_iff letters).mp cut
  intro occurs
  obtain ⟨before, after, between, breaks⟩ := occurs
  have inside := between.before_lt letters
  obtain ⟨other, rfl, spells⟩ := between
  cases after with
  | nil =>
      have last := List.getLast_mem (spells.ne_nil letters)
      have word := isWordChar_of_isAlpha (spells.isAlpha letters _ last)
      have none := leftBreak (other.getLast (spells.ne_nil letters))
        (by simp [List.getLast?_append, List.getLast?_eq_some_getLast (spells.ne_nil letters)])
      simp [none] at word
  | cons a after =>
      have later := earliest before (a :: after ++ (spelling ++ right)) ⟨other, by simp, spells⟩
        ⟨breaks.1, by simpa using breaks.2⟩
      omega

theorem cutAtKeyword?_gap {spelling : List Char} (letters : Letters keyword) (gapped : Gap gap)
    (absent : ¬Occurs keyword left) (spells : Spells keyword spelling) :
    cutAtKeyword? keyword (left ++ gap ++ spelling ++ right) = some (left ++ gap, right) := by
  rw [cutAtKeyword?_eq_some_iff letters]
  refine ⟨⟨spelling, rfl, spells⟩, ?_⟩
  intro before after between
  rw [List.append_assoc] at between
  have foreign : ∀ c ∈ gap, c.isAlpha = false :=
    fun c hc => isAlpha_eq_false_of_isBlank (gapped.2 c hc)
  rcases between.beside_gap letters gapped.1 foreign with ⟨rest, inLeft, -⟩ | ⟨rest, -, rfl⟩
  · exact absurd ⟨before, rest, inLeft⟩ absent
  · simp

theorem cutAtWord?_blanks {spelling : List Char} (letters : Letters keyword) (blank : Blanks gap)
    (start : gap = [] → left = []) (absent : ¬OccursAsWord keyword left)
    (spells : Spells keyword spelling) (stop : ∀ c ∈ right.head?, isWordChar c = false) :
    cutAtWord? keyword (left ++ gap ++ spelling ++ right) = some (left ++ gap, right) := by
  rw [cutAtWord?_eq_some_iff letters]
  refine ⟨⟨⟨spelling, rfl, spells⟩, ?_, stop⟩, ?_⟩
  · intro c hc
    rcases List.eq_nil_or_concat gap with rfl | ⟨rest, last, rfl⟩
    · simp [start rfl] at hc
    · have member : c ∈ rest.concat last := by
        rw [List.getLast?_append] at hc
        simp at hc
        simp [hc]
      exact isWordChar_eq_false_of_isBlank (blank c member)
  · intro before after between breaks
    rw [List.append_assoc] at between
    by_cases none : gap = []
    · simp [none, start none]
    · have foreign : ∀ c ∈ gap, c.isAlpha = false :=
        fun c hc => isAlpha_eq_false_of_isBlank (blank c hc)
      rcases between.beside_gap letters none foreign with ⟨rest, inLeft, rfl⟩ | ⟨rest, -, rfl⟩
      · rw [List.append_assoc] at breaks
        exact absurd ⟨before, rest, inLeft, breaks.of_append⟩ absent
      · simp

end Parts

end TableQuery.Text
