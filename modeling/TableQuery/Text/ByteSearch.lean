import TableQuery.Text.Slice

/-! # Searching the bytes of a text

Keywords are looked for among the bytes of a text, window by window, the two cases of an ASCII
letter being the same. A search for a whole word takes the occurrences one by one. One that is
part of a longer word is passed over, and the search starts again one byte after its start.
-/

namespace TableQuery.Text

/-- The bytes of the UTF-8 form. -/
def utf8 (text : List Char) : List UInt8 := text.flatMap String.utf8EncodeChar

/-- The byte with an ASCII capital made small. -/
def lowerByte (byte : UInt8) : UInt8 := if 65 ≤ byte && byte ≤ 90 then byte + 32 else byte

/-- The same bytes up to the case of ASCII letters. -/
def sameBytes (left right : List UInt8) : Bool := left.map lowerByte == right.map lowerByte

/-- All runs of as many bytes as given, from left to right. -/
def windows (size : Nat) (bytes : List UInt8) : List (List UInt8) :=
  (List.range (bytes.length + 1 - size)).map fun start => (bytes.drop start).take size

/-- Where the first window with the bytes of the keyword starts. The empty keyword stands
    nowhere. -/
def byteOffset? (keyword text : List Char) : Option Nat :=
  let needle := utf8 keyword
  if needle.isEmpty || (utf8 text).length < needle.length then none
  else (windows needle.length (utf8 text)).findIdx? (sameBytes · needle)

/-- Whether a text starts with the bytes of a keyword. A text that is too short, or has a
    character across the end of the keyword, does not. -/
def opensWith (keyword text : List Char) : Bool :=
  (Slice.mk text 0 (byteSize keyword)).content?.any fun head => sameBytes (utf8 head) (utf8 keyword)

variable {ε : Type}

/-- How a round of the search for a word ends. -/
inductive WordRound where
  /-- The word stands at the offset. -/
  | found (offset : Nat)
  /-- The keyword stands nowhere any more. -/
  | absent
  /-- The keyword found is part of a longer word. The next round starts at the offset. -/
  | passed (next : Nat)
  deriving DecidableEq, Repr

/-- Looks for the keyword from an offset on, and at the characters beside it in the whole text. -/
def wordRound (keyword text : List Char) (offset : Nat) : Sliced ε WordRound := do
  let rest ← .take ⟨text, offset, byteSize text⟩
  match byteOffset? keyword rest with
  | none => return .absent
  | some found => do
      let start := offset + found
      let stop := start + byteSize keyword
      let before ← .take ⟨text, 0, start⟩
      let after ← .take ⟨text, stop, byteSize text⟩
      if before.getLast?.any isWordChar || after.head?.any isWordChar then
        return .passed (start + 1)
      else return .found start

section Bounds

variable {keyword text : List Char} {offset next : Nat}

theorem length_utf8 (text : List Char) : (utf8 text).length = byteSize text := by
  induction text with
  | nil => rfl
  | cons c text ih =>
      rw [utf8, List.flatMap_cons, List.length_append, String.length_utf8EncodeChar]
      exact congrArg _ ih

theorem add_byteSize_le_of_byteOffset? (found : byteOffset? keyword text = some offset) :
    offset + byteSize keyword ≤ byteSize text ∧ 0 < byteSize keyword := by
  rw [byteOffset?, Option.ite_none_left_eq_some] at found
  obtain ⟨long, found⟩ := found
  obtain ⟨inside, -, -⟩ := List.findIdx?_eq_some_iff_getElem.mp found
  simp only [windows, List.length_map, List.length_range, length_utf8, Bool.or_eq_true,
    List.isEmpty_iff_length_eq_zero, decide_eq_true_eq] at long inside
  omega

/-- A round that passes over an occurrence moves on, and not past the end. -/
theorem lt_of_wordRound_passed
    (round : (wordRound keyword text offset : Sliced ε WordRound).result? =
      some (.ok (.passed next))) : offset < next ∧ next ≤ byteSize text := by
  obtain ⟨rest, taken, round⟩ := Sliced.result?_bind_eq_ok_iff.mp round
  obtain ⟨left, right, cut, start, stop⟩ :=
    Slice.content?_eq_some_iff.mp (Sliced.result?_take_eq_ok_iff.mp taken)
  cases occurs : byteOffset? keyword rest with
  | none => simp [occurs, Sliced.pure_eq, Sliced.ofExcept] at round
  | some found =>
      have inside := add_byteSize_le_of_byteOffset? occurs
      simp only [occurs] at round
      obtain ⟨before, -, round⟩ := Sliced.result?_bind_eq_ok_iff.mp round
      obtain ⟨after, -, round⟩ := Sliced.result?_bind_eq_ok_iff.mp round
      split at round
      · cases round
        dsimp only at stop
        omega
      · cases round

end Bounds

/-- A search for a word: the offsets at which its rounds started, and what the last one found. -/
structure WordSearch where
  visited : List Nat
  found? : Option Nat
  deriving DecidableEq, Repr

/-- The rounds of a search from an offset on. -/
def wordSearch (keyword text : List Char) (offset : Nat) : Sliced ε WordSearch := do
  let ⟨round, ends⟩ ← (wordRound keyword text offset : Sliced ε WordRound).attach
  match round, ends with
  | .found start, _ => return ⟨[offset], some start⟩
  | .absent, _ => return ⟨[offset], none⟩
  | .passed next, _ => do
      let later ← wordSearch keyword text next
      return { later with visited := offset :: later.visited }
termination_by byteSize text - offset
decreasing_by
  have moves := lt_of_wordRound_passed ‹_›
  omega

end TableQuery.Text
