import Mathlib.Data.Nat.Find
import Mathlib.Order.Bounds.Basic
import TableQuery.Text.ByteSearch
import TableQuery.Proofs.Text.ByteOrder
import TableQuery.Proofs.Text.Occurrence
import TableQuery.Proofs.Text.Slice

/-! # Keywords among bytes

The bytes of an ASCII keyword never match inside a character of several bytes, since all bytes of
such a character are beyond ASCII. So the occurrences among the bytes of a text are those among its
characters, and the first one is found at the same place either way.
-/

namespace TableQuery.Text

def Ascii (text : List Char) : Prop := ∀ c ∈ text, c.toNat < 0x80

instance (text : List Char) : Decidable (Ascii text) :=
  decidable_of_iff (text.all (·.toNat < 0x80) = true) (by simp [Ascii])

/-- The bytes of the keyword stand in the text from the byte offset on, each ASCII letter in
    either case. -/
def StandsAt (keyword text : List Char) (offset : Nat) : Prop :=
  sameBytes (((utf8 text).drop offset).take (utf8 keyword).length) (utf8 keyword)

def OccursAt (keyword text : List Char) (offset : Nat) : Prop :=
  ∃ before after, OccursBetween keyword before after text ∧ byteSize before = offset

theorem eq_none_iff_of_isLeast {found? : Option Nat} {places : Set Nat}
    (least : ∀ offset, found? = some offset ↔ IsLeast places offset) :
    found? = none ↔ ∀ place, place ∉ places := by
  constructor
  · intro none place member
    classical
    have first : found? = some (Nat.find ⟨place, member⟩) := (least _).mpr
      ⟨Nat.find_spec ⟨place, member⟩, fun other => Nat.find_min' ⟨place, member⟩⟩
    rw [none] at first
    cases first
  · intro empty
    rw [Option.eq_none_iff_forall_ne_some]
    exact fun offset found => empty offset ((least offset).mp found).1

section Bytes

variable {c : Char} {byte : UInt8} {keyword spelling text : List Char}

theorem utf8_append (left right : List Char) : utf8 (left ++ right) = utf8 left ++ utf8 right :=
  List.flatMap_append

theorem utf8_cons (c : Char) (text : List Char) :
    utf8 (c :: text) = String.utf8EncodeChar c ++ utf8 text :=
  List.flatMap_cons

theorem utf8_inj {left right : List Char} : utf8 left = utf8 right ↔ left = right := by
  have eq_bytes : ∀ text, utf8 text = bytes (String.ofList text) := fun text => by
    rw [bytes_eq_flatMap, String.toList_ofList, utf8]
  rw [eq_bytes, eq_bytes, bytes_inj, String.ofList_inj]

theorem utf8EncodeChar_of_ascii (ascii : c.toNat < 0x80) :
    String.utf8EncodeChar c = [UInt8.ofNat c.toNat] := by
  have low : c.val.toNat ≤ 127 := Nat.le_of_lt_succ ascii
  rw [String.utf8EncodeChar]
  simp only [low, if_true]
  rfl

theorem le_toNat_of_mem_utf8EncodeChar (wide : 0x80 ≤ c.toNat)
    (member : byte ∈ String.utf8EncodeChar c) : 0x80 ≤ byte.toNat := by
  have high : ¬c.val.toNat ≤ 127 := Nat.not_le_of_lt wide
  rw [String.utf8EncodeChar] at member
  simp only [high, if_false] at member
  split at member
  · simp only [List.mem_cons, List.not_mem_nil, or_false] at member
    rcases member with rfl | rfl <;> rw [UInt8.toNat_ofNat'] <;> omega
  · split at member
    · simp only [List.mem_cons, List.not_mem_nil, or_false] at member
      rcases member with rfl | rfl | rfl <;> rw [UInt8.toNat_ofNat'] <;> omega
    · simp only [List.mem_cons, List.not_mem_nil, or_false] at member
      rcases member with rfl | rfl | rfl | rfl <;> rw [UInt8.toNat_ofNat'] <;> omega

theorem toNat_lowerByte (byte : UInt8) :
    (lowerByte byte).toNat =
      if 65 ≤ byte.toNat ∧ byte.toNat ≤ 90 then byte.toNat + 32 else byte.toNat := by
  have bound := byte.toNat_lt
  simp only [lowerByte, Bool.and_eq_true, decide_eq_true_eq, UInt8.le_iff_toNat_le]
  change (if 65 ≤ byte.toNat ∧ byte.toNat ≤ 90 then byte + 32 else byte).toNat = _
  split
  · rw [UInt8.toNat_add]
    change (byte.toNat + 32) % 256 = _
    omega
  · rfl

theorem lowerByte_eq_self (wide : 0x80 ≤ byte.toNat) : lowerByte byte = byte := by
  rw [← UInt8.toNat_inj, toNat_lowerByte, if_neg (by omega)]

theorem map_lowerByte_utf8EncodeChar (c : Char) :
    (String.utf8EncodeChar c).map lowerByte = String.utf8EncodeChar c.toLower := by
  have lower := toNat_toLower c
  by_cases ascii : c.toNat < 0x80
  · have lowerAscii : c.toLower.toNat < 0x80 := by
      rw [lower]
      split <;> omega
    rw [utf8EncodeChar_of_ascii ascii, utf8EncodeChar_of_ascii lowerAscii, List.map_singleton,
      List.singleton_inj, ← UInt8.toNat_inj, toNat_lowerByte, UInt8.toNat_ofNat',
      UInt8.toNat_ofNat', lower]
    split <;> split <;> omega
  · have wide := Nat.le_of_not_lt ascii
    have same : c.toLower = c := by
      rw [← Char.toNat_inj, lower, if_neg (by omega)]
    have fixed : ∀ byte ∈ String.utf8EncodeChar c, lowerByte byte = id byte :=
      fun byte member => lowerByte_eq_self (le_toNat_of_mem_utf8EncodeChar wide member)
    rw [same, List.map_congr_left fixed, List.map_id]

theorem map_lowerByte_utf8 (text : List Char) :
    (utf8 text).map lowerByte = utf8 (text.map Char.toLower) := by
  simp only [utf8, List.map_flatMap, List.flatMap_map, map_lowerByte_utf8EncodeChar]

theorem sameBytes_utf8_iff :
    sameBytes (utf8 spelling) (utf8 keyword) ↔ Spells keyword spelling := by
  rw [sameBytes, beq_iff_eq, map_lowerByte_utf8, map_lowerByte_utf8, utf8_inj, Spells]

theorem length_eq_of_sameBytes {left right : List UInt8} (same : sameBytes left right) :
    left.length = right.length := by
  rw [sameBytes, beq_iff_eq] at same
  simpa using congrArg List.length same

theorem Spells.byteSize_eq (spells : Spells keyword spelling) :
    byteSize spelling = byteSize keyword := by
  rw [← length_utf8, ← length_utf8]
  exact length_eq_of_sameBytes (sameBytes_utf8_iff.mpr spells)

end Bytes

section Places

variable {keyword text : List Char} {offset : Nat}

theorem OccursAt.standsAt (h : OccursAt keyword text offset) : StandsAt keyword text offset := by
  obtain ⟨before, after, ⟨spelling, rfl, spells⟩, rfl⟩ := h
  rw [StandsAt, utf8_append, utf8_append, List.append_assoc, ← length_utf8 before,
    List.drop_left, length_utf8 keyword, ← spells.byteSize_eq, ← length_utf8 spelling,
    List.take_left]
  exact sameBytes_utf8_iff.mpr spells

theorem exists_utf8_eq_take {size : Nat}
    (ascii : ∀ byte ∈ (utf8 text).take size, byte.toNat < 0x80) :
    ∃ start rest, text = start ++ rest ∧ utf8 start = (utf8 text).take size := by
  induction text generalizing size with
  | nil => exact ⟨[], [], rfl, by simp [utf8]⟩
  | cons c text ih =>
      cases size with
      | zero => exact ⟨[], c :: text, rfl, by simp [utf8]⟩
      | succ size =>
          have single : String.utf8EncodeChar c = [UInt8.ofNat c.toNat] := by
            refine utf8EncodeChar_of_ascii (Nat.lt_of_not_le fun wide => ?_)
            obtain ⟨byte, more, eq⟩ := List.exists_cons_of_ne_nil String.utf8EncodeChar_ne_nil
            have high := le_toNat_of_mem_utf8EncodeChar wide (eq ▸ List.mem_cons_self)
            have low := ascii byte (by rw [utf8_cons, eq]; simp)
            omega
          rw [utf8_cons, single, List.singleton_append, List.take_succ_cons] at ascii ⊢
          obtain ⟨start, rest, rfl, eq⟩ :=
            ih fun byte member => ascii byte (List.mem_cons_of_mem _ member)
          exact ⟨c :: start, rest, rfl, by rw [utf8_cons, single, List.singleton_append, eq]⟩

/-- No character goes on across an offset that an ASCII byte stands at. -/
theorem exists_byteSize_eq {byte : UInt8} (here : (utf8 text)[offset]? = some byte)
    (ascii : byte.toNat < 0x80) :
    ∃ before rest, text = before ++ rest ∧ byteSize before = offset := by
  induction text generalizing offset with
  | nil => simp [utf8] at here
  | cons c text ih =>
      by_cases start : offset = 0
      · exact ⟨[], c :: text, rfl, start.symm⟩
      have size := String.length_utf8EncodeChar c
      by_cases inside : offset < c.utf8Size
      · -- The byte would belong to a character of several bytes.
        rw [utf8_cons, List.getElem?_append_left (by omega)] at here
        have wide : 0x80 ≤ c.toNat := by
          refine Nat.le_of_not_lt fun narrow => ?_
          rw [utf8EncodeChar_of_ascii narrow, List.length_singleton] at size
          omega
        have high := le_toNat_of_mem_utf8EncodeChar wide (List.mem_of_getElem? here)
        omega
      · rw [utf8_cons, List.getElem?_append_right (by omega), size] at here
        obtain ⟨before, rest, rfl, eq⟩ := ih here
        exact ⟨c :: before, rest, rfl, by rw [byteSize_cons, eq]; omega⟩

theorem toNat_lt_of_mem_utf8 (ascii : Ascii text) : ∀ byte ∈ utf8 text, byte.toNat < 0x80 := by
  intro byte member
  obtain ⟨c, inText, inChar⟩ := List.mem_flatMap.mp member
  rw [utf8EncodeChar_of_ascii (ascii c inText), List.mem_singleton] at inChar
  have low := ascii c inText
  rw [inChar, UInt8.toNat_ofNat']
  omega

theorem toNat_lt_of_sameBytes {left right : List UInt8} (same : sameBytes left right)
    (ascii : ∀ byte ∈ right, byte.toNat < 0x80) : ∀ byte ∈ left, byte.toNat < 0x80 := by
  intro byte member
  rw [sameBytes, beq_iff_eq] at same
  have lower : lowerByte byte ∈ right.map lowerByte := same ▸ List.mem_map_of_mem member
  obtain ⟨other, inRight, eq⟩ := List.mem_map.mp lower
  have low := ascii other inRight
  have sizes := congrArg UInt8.toNat eq
  rw [toNat_lowerByte, toNat_lowerByte] at sizes
  split at sizes <;> split at sizes <;> omega

theorem StandsAt.occursAt (h : StandsAt keyword text offset) (nonempty : keyword ≠ [])
    (ascii : Ascii keyword) : OccursAt keyword text offset := by
  have narrow := toNat_lt_of_sameBytes h (toNat_lt_of_mem_utf8 ascii)
  have size := length_eq_of_sameBytes h
  have filled : 0 < byteSize keyword :=
    Nat.pos_of_ne_zero fun none => nonempty (byteSize_eq_zero_iff.mp none)
  obtain ⟨byte, more, window⟩ :=
    List.exists_cons_of_length_pos (by rwa [size, length_utf8])
  have here : (utf8 text)[offset]? = some byte := by
    have first := congrArg List.head? window
    rwa [List.head?_take, if_neg (by rw [length_utf8]; omega), List.head?_drop] at first
  have inWindow : byte ∈ ((utf8 text).drop offset).take (utf8 keyword).length :=
    window ▸ List.mem_cons_self
  obtain ⟨before, rest, rfl, start⟩ := exists_byteSize_eq here (narrow byte inWindow)
  have drops : (utf8 (before ++ rest)).drop offset = utf8 rest := by
    rw [utf8_append, ← start, ← length_utf8, List.drop_left]
  rw [drops] at narrow
  obtain ⟨spelling, after, rfl, eq⟩ := exists_utf8_eq_take narrow
  refine ⟨before, after, ⟨spelling, by simp, sameBytes_utf8_iff.mp ?_⟩, start⟩
  rw [eq, ← drops]
  exact h

theorem standsAt_iff (nonempty : keyword ≠ []) (ascii : Ascii keyword) :
    StandsAt keyword text offset ↔ OccursAt keyword text offset :=
  ⟨fun h => h.occursAt nonempty ascii, OccursAt.standsAt⟩

theorem length_utf8_pos (nonempty : keyword ≠ []) : 0 < (utf8 keyword).length := by
  rw [length_utf8]
  exact Nat.pos_of_ne_zero fun none => nonempty (byteSize_eq_zero_iff.mp none)

theorem standsAt_iff_windows (nonempty : keyword ≠ []) :
    StandsAt keyword text offset ↔
      ∃ inside : offset < (windows (utf8 keyword).length (utf8 text)).length,
        sameBytes (windows (utf8 keyword).length (utf8 text))[offset] (utf8 keyword) := by
  have filled := length_utf8_pos nonempty
  simp only [windows, List.getElem_map, List.getElem_range, List.length_map, List.length_range,
    StandsAt, exists_prop, iff_and_self]
  intro same
  have size := length_eq_of_sameBytes same
  rw [List.length_take, List.length_drop] at size
  omega

theorem byteOffset?_eq_findIdx? (nonempty : keyword ≠ []) :
    byteOffset? keyword text =
      (windows (utf8 keyword).length (utf8 text)).findIdx? (sameBytes · (utf8 keyword)) := by
  have filled := length_utf8_pos nonempty
  have needle : (utf8 keyword).isEmpty = false :=
    List.isEmpty_eq_false_iff.mpr (List.ne_nil_of_length_pos filled)
  simp only [byteOffset?, needle, Bool.false_or, decide_eq_true_eq]
  split
  next short =>
    have none : (utf8 text).length + 1 - (utf8 keyword).length = 0 := by omega
    rw [windows, none]
    rfl
  next => rfl

theorem byteOffset?_eq_some_iff (nonempty : keyword ≠ []) (ascii : Ascii keyword) :
    byteOffset? keyword text = some offset ↔
      IsLeast {place | OccursAt keyword text place} offset := by
  have windowed : ∀ place, OccursAt keyword text place ↔
      ∃ inside : place < (windows (utf8 keyword).length (utf8 text)).length,
        sameBytes (windows (utf8 keyword).length (utf8 text))[place] (utf8 keyword) := fun place =>
    (standsAt_iff nonempty ascii).symm.trans (standsAt_iff_windows nonempty)
  rw [byteOffset?_eq_findIdx? nonempty, List.findIdx?_eq_some_iff_getElem]
  constructor
  · rintro ⟨inside, here, earliest⟩
    refine ⟨(windowed offset).mpr ⟨inside, here⟩, fun place occurs => ?_⟩
    obtain ⟨_, there⟩ := (windowed place).mp occurs
    exact Nat.le_of_not_lt fun before => earliest place before there
  · rintro ⟨occurs, earliest⟩
    obtain ⟨inside, here⟩ := (windowed offset).mp occurs
    refine ⟨inside, here, fun place before there => ?_⟩
    have occursThere := (windowed place).mpr ⟨before.trans inside, there⟩
    exact absurd (earliest occursThere) (Nat.not_le_of_lt before)

theorem byteOffset?_eq_none_iff (nonempty : keyword ≠ []) (ascii : Ascii keyword) :
    byteOffset? keyword text = none ↔ ∀ place, ¬OccursAt keyword text place :=
  eq_none_iff_of_isLeast fun _ => byteOffset?_eq_some_iff nonempty ascii

/-- A place is the first by the bytes before it where it is the first by the characters. -/
theorem isLeast_byteSize_iff {Stands : List Char → List Char → Prop} {left right : List Char}
    (within : ∀ before after, Stands before after → before <+: text) (here : Stands left right) :
    IsLeast {place | ∃ before after, Stands before after ∧ byteSize before = place}
        (byteSize left) ↔
      ∀ before after, Stands before after → left.length ≤ before.length := by
  have sizes : ∀ before after, Stands before after →
      (left.length ≤ before.length ↔ byteSize left ≤ byteSize before) := by
    intro before after there
    obtain ⟨rest, eq⟩ := within left right here
    obtain ⟨other, otherEq⟩ := within before after there
    exact length_le_iff_byteSize_le (eq.trans otherEq.symm)
  constructor
  · intro least before after there
    exact (sizes before after there).mpr (least.2 ⟨before, after, there, rfl⟩)
  · intro earliest
    refine ⟨⟨left, right, here, rfl⟩, ?_⟩
    rintro _ ⟨before, after, there, rfl⟩
    exact (sizes before after there).mp (earliest before after there)

theorem map_byteSize_eq_some_iff {Stands : List Char → List Char → Prop}
    {cut? : Option (List Char × List Char)}
    (within : ∀ before after, Stands before after → before <+: text)
    (first : ∀ left right, cut? = some (left, right) ↔
      Stands left right ∧ ∀ before after, Stands before after → left.length ≤ before.length) :
    (cut?.map fun (before, _) => byteSize before) = some offset ↔
      IsLeast {place | ∃ before after, Stands before after ∧ byteSize before = place} offset := by
  rw [Option.map_eq_some_iff]
  constructor
  · rintro ⟨⟨left, right⟩, found, rfl⟩
    obtain ⟨here, earliest⟩ := (first left right).mp found
    exact (isLeast_byteSize_iff within here).mpr earliest
  · intro least
    obtain ⟨left, right, here, rfl⟩ := least.1
    exact ⟨(left, right),
      (first left right).mpr ⟨here, (isLeast_byteSize_iff within here).mp least⟩, rfl⟩

theorem OccursBetween.isPrefix_before {before after : List Char}
    (h : OccursBetween keyword before after text) : before <+: text := by
  obtain ⟨spelling, rfl, -⟩ := h
  exact ⟨spelling ++ after, by rw [List.append_assoc]⟩

theorem Letters.ascii (letters : Letters keyword) : Ascii keyword := by
  intro c member
  have range := isAlpha_iff.mp (letters.2 c member)
  omega

theorem keywordOffset?_eq_some_iff (letters : Letters keyword) :
    keywordOffset? keyword text = some offset ↔
      IsLeast {place | OccursAt keyword text place} offset :=
  map_byteSize_eq_some_iff (fun _ _ => OccursBetween.isPrefix_before)
    fun _ _ => cutAtKeyword?_eq_some_iff letters

theorem byteOffset?_eq_keywordOffset? (letters : Letters keyword) (text : List Char) :
    byteOffset? keyword text = keywordOffset? keyword text := by
  ext offset
  rw [byteOffset?_eq_some_iff letters.1 letters.ascii, keywordOffset?_eq_some_iff letters]

theorem opensWith_iff :
    opensWith keyword text ↔
      ∃ spelling rest, text = spelling ++ rest ∧ Spells keyword spelling := by
  rw [opensWith, Option.any_eq_true]
  constructor
  · rintro ⟨head, taken, same⟩
    obtain ⟨left, right, rfl, start, -⟩ := Slice.content?_eq_some_iff.mp taken
    obtain rfl := byteSize_eq_zero_iff.mp start
    exact ⟨head, right, rfl, sameBytes_utf8_iff.mp same⟩
  · rintro ⟨spelling, rest, rfl, spells⟩
    refine ⟨spelling, Slice.content?_eq_some_iff.mpr ⟨[], rest, rfl, rfl, ?_⟩,
      sameBytes_utf8_iff.mpr spells⟩
    rw [Nat.zero_add, spells.byteSize_eq]

theorem opensWith_eq_isSome (keyword text : List Char) :
    opensWith keyword text = (afterKeyword? keyword text).isSome := by
  rw [Bool.eq_iff_iff, opensWith_iff, Option.isSome_iff_exists]
  simp only [afterKeyword?_eq_some_iff]
  exact exists_comm

end Places

end TableQuery.Text
