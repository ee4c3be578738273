import TableQuery.Text.Search

/-! # Slices by byte offsets

A text kept in its UTF-8 form is cut by byte offsets. A slice from one offset up to another is
refused if it runs backwards, passes the end of the text, or starts or stops inside a character.

`Sliced` is a computation that cuts texts in this way. It records the slices that are asked for,
and the first one that is refused breaks it off for good.
-/

namespace TableQuery.Text

/-- A part of a text, from one byte offset up to another. -/
structure Slice where
  text : List Char
  start : Nat
  stop : Nat
  deriving DecidableEq, Repr

/-- The two parts of a text at a byte offset, if no character goes on across it. -/
def cutAtByte? : (offset : Nat) → (text : List Char) → Option (List Char × List Char)
  | 0, text => some ([], text)
  | _ + 1, [] => none
  | offset + 1, c :: rest =>
      if c.utf8Size ≤ offset + 1 then
        (cutAtByte? (offset + 1 - c.utf8Size) rest).map fun (left, right) => (c :: left, right)
      else none

/-- What is in a slice, none if it is refused. -/
def Slice.content? (slice : Slice) : Option (List Char) :=
  if slice.stop < slice.start then none
  else
    (cutAtByte? slice.start slice.text).bind fun parts =>
      (cutAtByte? (slice.stop - slice.start) parts.2).map Prod.fst

theorem cutAtByte?_byteSize (left right : List Char) :
    cutAtByte? (byteSize left) (left ++ right) = some (left, right) := by
  induction left with
  | nil => simp [cutAtByte?]
  | cons c left ih =>
      obtain ⟨offset, eq⟩ : ∃ offset, c.utf8Size + byteSize left = offset + 1 :=
        Nat.exists_eq_add_one.mpr (Nat.add_pos_left c.utf8Size_pos _)
      rw [byteSize_cons, eq, List.cons_append, cutAtByte?, ← eq, if_pos (Nat.le_add_right _ _),
        Nat.add_sub_cancel_left, ih]
      rfl

theorem cutAtByte?_eq_some_iff {offset : Nat} {text left right : List Char} :
    cutAtByte? offset text = some (left, right) ↔
      text = left ++ right ∧ byteSize left = offset := by
  constructor
  · fun_induction cutAtByte? offset text generalizing left with
    | case1 text =>
        rintro h
        cases h
        exact ⟨rfl, rfl⟩
    | case2 => exact nofun
    | case3 offset c rest fits ih =>
        intro found
        obtain ⟨⟨inner, _⟩, cut, parts⟩ := Option.map_eq_some_iff.mp found
        cases parts
        obtain ⟨rfl, size⟩ := ih cut
        refine ⟨rfl, ?_⟩
        rw [byteSize_cons, size]
        omega
    | case4 => exact nofun
  · rintro ⟨rfl, rfl⟩
    exact cutAtByte?_byteSize left right

theorem Slice.content?_eq_some_iff {slice : Slice} {content : List Char} :
    slice.content? = some content ↔
      ∃ left right, slice.text = left ++ content ++ right ∧ byteSize left = slice.start ∧
        slice.start + byteSize content = slice.stop := by
  constructor
  · intro taken
    rw [content?, Option.ite_none_left_eq_some] at taken
    obtain ⟨forward, taken⟩ := taken
    obtain ⟨⟨left, rest⟩, first, taken⟩ := Option.bind_eq_some_iff.mp taken
    obtain ⟨⟨inner, right⟩, second, same⟩ := Option.map_eq_some_iff.mp taken
    obtain rfl : inner = content := same
    obtain ⟨text, start⟩ := cutAtByte?_eq_some_iff.mp first
    obtain ⟨rfl, size⟩ := cutAtByte?_eq_some_iff.mp second
    exact ⟨left, right, by rw [text, List.append_assoc], start, by omega⟩
  · rintro ⟨left, right, text, start, stop⟩
    have forward : ¬slice.stop < slice.start := by omega
    have size : slice.stop - slice.start = byteSize content := by omega
    rw [content?, if_neg forward, text, ← start, List.append_assoc, cutAtByte?_byteSize,
      Option.bind_some, start, size, cutAtByte?_byteSize]
    rfl

/-- A computation that cuts texts into slices and may end with an error. -/
structure Sliced (ε α : Type) where
  /-- The slices asked for, in order. -/
  slices : List Slice
  /-- None once a slice was refused. -/
  result? : Option (Except ε α)

namespace Sliced

variable {ε α β : Type}

/-- A result that takes no slice. -/
def ofExcept (result : Except ε α) : Sliced ε α := ⟨[], some result⟩

def fail (error : ε) : Sliced ε α := ofExcept (.error error)

/-- Takes a slice. -/
def take (slice : Slice) : Sliced ε (List Char) := ⟨[slice], slice.content?.map .ok⟩

def bind (first : Sliced ε α) (next : α → Sliced ε β) : Sliced ε β :=
  match first.result? with
  | none => ⟨first.slices, none⟩
  | some (.error error) => ⟨first.slices, some (.error error)⟩
  | some (.ok value) => ⟨first.slices ++ (next value).slices, (next value).result?⟩

instance : Monad (Sliced ε) where
  pure value := ofExcept (.ok value)
  bind := bind

/-- The same computation, its value known to come from it. -/
def attach (sliced : Sliced ε α) : Sliced ε { value // sliced.result? = some (.ok value) } where
  slices := sliced.slices
  result? := sliced.result?.attach.map fun
    | ⟨.error error, _⟩ => .error error
    | ⟨.ok value, h⟩ => .ok ⟨value, h⟩

theorem pure_eq (value : α) : (pure value : Sliced ε α) = ofExcept (.ok value) := rfl

theorem bind_ok {first : Sliced ε α} {value : α} (h : first.result? = some (.ok value))
    (next : α → Sliced ε β) :
    first >>= next = ⟨first.slices ++ (next value).slices, (next value).result?⟩ := by
  change bind first next = _
  rw [bind, h]

theorem result?_bind_eq_ok_iff {first : Sliced ε α} {next : α → Sliced ε β} {final : β} :
    (first >>= next).result? = some (.ok final) ↔
      ∃ value, first.result? = some (.ok value) ∧ (next value).result? = some (.ok final) := by
  change (bind first next).result? = _ ↔ _
  rw [bind]
  cases h : first.result? with
  | none => simp
  | some result => cases result <;> simp

theorem result?_take_eq_ok_iff {slice : Slice} {content : List Char} :
    (take slice : Sliced ε (List Char)).result? = some (.ok content) ↔
      slice.content? = some content := by
  simp [take]

end Sliced

end TableQuery.Text
