import TableQuery.Text.WordChar

/-! # Searching a text

A search cuts a text at the leftmost place where something is found. Keywords are found in
either case of their ASCII letters, anywhere (`cutAtKeyword?`) or only as whole words
(`cutAtWord?`). Offsets count the bytes of the UTF-8 form of what stands before a place.
-/

namespace TableQuery.Text

/-- The same character, or the two cases of one ASCII letter. -/
def sameLetter (a b : Char) : Bool := a.toLower == b.toLower

/-- What follows `keyword` in a text that starts with it. -/
def afterKeyword? : (keyword text : List Char) → Option (List Char)
  | [], text => some text
  | _ :: _, [] => none
  | k :: keyword, c :: text => if sameLetter k c then afterKeyword? keyword text else none

/-- The leftmost place where `here` finds something, searching onwards from the end of `before`.
    `here` is given what stands before the place, last character first, and what stands after
    it. The answer is the text before the place and what was found. -/
def firstPlace? (here : List Char → List Char → Option α) (before : List Char) :
    List Char → Option (List Char × α)
  | [] => (here before []).map (before.reverse, ·)
  | c :: rest =>
      match here before (c :: rest) with
      | some found => some (before.reverse, found)
      | none => firstPlace? here (c :: before) rest

/-- The text before the first occurrence of a keyword and the text after it. The empty keyword
    occurs nowhere. -/
def cutAtKeyword? (keyword text : List Char) : Option (List Char × List Char) :=
  if keyword.isEmpty then none
  else firstPlace? (fun _ rest => afterKeyword? keyword rest) [] text

/-- Whether a text starts in the middle of a word or at the start of one. -/
def startsInWord (text : List Char) : Bool := text.head?.any isWordChar

/-- The text before the first occurrence of a keyword with no word character on either side,
    and the text after it. -/
def cutAtWord? (keyword text : List Char) : Option (List Char × List Char) :=
  if keyword.isEmpty then none
  else
    firstPlace?
      (fun before rest => (afterKeyword? keyword rest).filter fun after =>
        !startsInWord before && !startsInWord after)
      [] text

/-- Length of the UTF-8 form in bytes. -/
def byteSize (text : List Char) : Nat := text.foldr (fun c size => c.utf8Size + size) 0

/-- Byte offset of the first occurrence of a keyword. -/
def keywordOffset? (keyword text : List Char) : Option Nat :=
  (cutAtKeyword? keyword text).map fun (before, _) => byteSize before

/-- Byte offset of the first occurrence of a keyword as a whole word. -/
def wordOffset? (keyword text : List Char) : Option Nat :=
  (cutAtWord? keyword text).map fun (before, _) => byteSize before

@[simp] theorem byteSize_nil : byteSize [] = 0 := rfl

@[simp] theorem byteSize_cons (c : Char) (text : List Char) :
    byteSize (c :: text) = c.utf8Size + byteSize text := rfl

@[simp] theorem byteSize_append (left right : List Char) :
    byteSize (left ++ right) = byteSize left + byteSize right := by
  induction left with
  | nil => simp
  | cons c left ih => simp [ih, Nat.add_assoc]

/-- A text that starts with a keyword is a spelling of it, in whatever case, and the rest. -/
theorem afterKeyword?_eq_some_iff {keyword text rest : List Char} :
    afterKeyword? keyword text = some rest ↔
      ∃ spelling, text = spelling ++ rest ∧
        spelling.map Char.toLower = keyword.map Char.toLower := by
  fun_induction afterKeyword? keyword text with
  | case1 text =>
      simp only [Option.some.injEq, List.map_nil, List.map_eq_nil_iff]
      constructor
      · rintro rfl
        exact ⟨[], rfl, rfl⟩
      · rintro ⟨_, rfl, rfl⟩
        rfl
  | case2 => simp
  | case3 k keyword c text same ih =>
      rw [ih]
      have same : k.toLower = c.toLower := by simpa [sameLetter] using same
      constructor
      · rintro ⟨spelling, rfl, eq⟩
        exact ⟨c :: spelling, rfl, by simp [same, eq]⟩
      · rintro ⟨spelling, h, eq⟩
        cases spelling with
        | nil => simp at eq
        | cons d spelling =>
            obtain ⟨rfl, rfl⟩ := List.cons.inj h
            exact ⟨spelling, rfl, (List.cons.inj eq).2⟩
  | case4 k keyword c text differ =>
      simp only [reduceCtorEq, false_iff, not_exists, not_and]
      rintro (_ | ⟨d, spelling⟩) h eq
      · simp at eq
      · obtain ⟨rfl, rfl⟩ := List.cons.inj h
        exact differ (by simp [sameLetter, (List.cons.inj eq).1])

/-- The place found is the leftmost: nothing is found at a place before it. -/
theorem firstPlace?_eq_some_iff {here : List Char → List Char → Option α}
    {before text left : List Char} {found : α} :
    firstPlace? here before text = some (left, found) ↔
      ∃ skipped rest, text = skipped ++ rest ∧ left = before.reverse ++ skipped ∧
        here (skipped.reverse ++ before) rest = some found ∧
        ∀ passed ahead, text = passed ++ ahead → passed.length < skipped.length →
          here (passed.reverse ++ before) ahead = none := by
  induction text generalizing before with
  | nil =>
      simp only [firstPlace?, Option.map_eq_some_iff, Prod.mk.injEq]
      constructor
      · rintro ⟨_, h, rfl, rfl⟩
        exact ⟨[], [], rfl, by simp, by simpa using h, by simp⟩
      · rintro ⟨skipped, rest, h, rfl, hit, _⟩
        obtain ⟨rfl, rfl⟩ := List.append_eq_nil_iff.mp h.symm
        exact ⟨found, by simpa using hit, by simp, rfl⟩
  | cons c text ih =>
      rw [firstPlace?]
      split
      next value hit =>
          simp only [Option.some.injEq, Prod.mk.injEq]
          constructor
          · rintro ⟨rfl, rfl⟩
            exact ⟨[], c :: text, rfl, by simp, by simpa using hit, by simp⟩
          · rintro ⟨skipped, rest, h, rfl, hit', earliest⟩
            cases skipped with
            | nil =>
                obtain rfl : c :: text = rest := h
                simp_all
            | cons d skipped =>
                have := earliest [] (c :: text) rfl (by simp)
                simp_all
      next miss =>
          rw [ih]
          constructor
          · rintro ⟨skipped, rest, rfl, rfl, hit, earliest⟩
            refine ⟨c :: skipped, rest, rfl, by simp, by simpa using hit, ?_⟩
            intro passed ahead h shorter
            cases passed with
            | nil =>
                obtain rfl : c :: (skipped ++ rest) = ahead := h
                simpa using miss
            | cons d passed =>
                obtain ⟨rfl, tail⟩ := List.cons.inj h
                simpa using earliest passed ahead tail (Nat.lt_of_succ_lt_succ shorter)
          · rintro ⟨skipped, rest, h, rfl, hit, earliest⟩
            cases skipped with
            | nil =>
                obtain rfl : c :: text = rest := h
                simp_all
            | cons d skipped =>
                obtain ⟨rfl, tail⟩ := List.cons.inj h
                refine ⟨skipped, rest, tail, by simp, by simpa using hit, ?_⟩
                intro passed ahead h shorter
                simpa using earliest (c :: passed) ahead (by rw [h]; rfl) (Nat.succ_lt_succ shorter)

end TableQuery.Text
