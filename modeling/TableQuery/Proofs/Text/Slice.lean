import TableQuery.Text.Slice
import TableQuery.Proofs.Result

/-! # Slices that are never refused

A slice is refused exactly if it does not fit its text: its ends are in order, inside the text, and
each at the boundary of a character. A computation gives a result when every slice it asks for
fits. Then it takes the place of one that takes no slices, step for step.
-/

namespace TableQuery.Text

/-- A byte offset at which a character starts or the text ends. -/
def IsBoundary (text : List Char) (offset : Nat) : Prop :=
  String.Pos.Raw.IsValid (String.ofList text) ⟨offset⟩

/-- A slice that may be taken. -/
structure Slice.Fits (slice : Slice) : Prop where
  forward : slice.start ≤ slice.stop
  inside : slice.stop ≤ byteSize slice.text
  start : IsBoundary slice.text slice.start
  stop : IsBoundary slice.text slice.stop

theorem utf8ByteSize_ofList (text : List Char) :
    (String.ofList text).utf8ByteSize = byteSize text := by
  induction text with
  | nil => rfl
  | cons c text ih =>
      have first : String.ofList [c] = String.singleton c := rfl
      rw [← List.singleton_append, String.ofList_append, String.utf8ByteSize_append, ih, first,
        String.utf8ByteSize_singleton]
      rfl

theorem byteSize_toList (text : String) : byteSize text.toList = text.utf8ByteSize := by
  rw [← utf8ByteSize_ofList, String.ofList_toList]

theorem isBoundary_iff {text : List Char} {offset : Nat} :
    IsBoundary text offset ↔ ∃ left right, text = left ++ right ∧ byteSize left = offset := by
  rw [IsBoundary, String.Pos.Raw.isValid_iff_exists_append]
  constructor
  · rintro ⟨left, right, eq, size⟩
    refine ⟨left.toList, right.toList, ?_, ?_⟩
    · rw [← String.toList_append, ← eq, String.toList_ofList]
    · have same := congrArg String.Pos.Raw.byteIdx size
      exact (byteSize_toList left).trans same.symm
  · rintro ⟨left, right, rfl, rfl⟩
    refine ⟨String.ofList left, String.ofList right, String.ofList_append, ?_⟩
    rw [String.Pos.Raw.ext_iff, String.byteIdx_rawEndPos, utf8ByteSize_ofList]

theorem IsBoundary.le {text : List Char} {offset : Nat} (h : IsBoundary text offset) :
    offset ≤ byteSize text := by
  obtain ⟨left, right, rfl, rfl⟩ := isBoundary_iff.mp h
  rw [byteSize_append]
  exact Nat.le_add_right _ _

theorem isBoundary_zero (text : List Char) : IsBoundary text 0 :=
  isBoundary_iff.mpr ⟨[], text, rfl, rfl⟩

theorem byteSize_eq_zero_iff {text : List Char} : byteSize text = 0 ↔ text = [] := by
  cases text with
  | nil => simp
  | cons c text => simp [Nat.ne_of_gt c.utf8Size_pos]

theorem exists_eq_append_of_byteSize_le {left right left' right' : List Char}
    (same : left ++ right = left' ++ right') (le : byteSize left ≤ byteSize left') :
    ∃ between, left' = left ++ between ∧ right = between ++ right' := by
  rcases List.append_eq_append_iff.mp same with ⟨between, rfl, rfl⟩ | ⟨between, rfl, rfl⟩
  · exact ⟨between, rfl, rfl⟩
  · rw [byteSize_append] at le
    obtain rfl : between = [] := byteSize_eq_zero_iff.mp (by omega)
    exact ⟨[], by simp, by simp⟩

theorem append_inj_of_byteSize_eq {left right left' right' : List Char}
    (same : left ++ right = left' ++ right') (eq : byteSize left = byteSize left') :
    left = left' ∧ right = right' := by
  obtain ⟨between, rfl, rfl⟩ := exists_eq_append_of_byteSize_le same (Nat.le_of_eq eq)
  rw [byteSize_append] at eq
  obtain rfl : between = [] := byteSize_eq_zero_iff.mp (by omega)
  simp

theorem length_le_iff_byteSize_le {left right left' right' : List Char}
    (same : left ++ right = left' ++ right') :
    left.length ≤ left'.length ↔ byteSize left ≤ byteSize left' := by
  rcases List.append_eq_append_iff.mp same with ⟨between, rfl, -⟩ | ⟨between, rfl, -⟩
  · simp
  · have none : between.length = 0 ↔ byteSize between = 0 := by
      rw [List.length_eq_zero_iff, byteSize_eq_zero_iff]
    rw [List.length_append, byteSize_append]
    omega

namespace Slice

theorem fits_iff {slice : Slice} : slice.Fits ↔ ∃ content, slice.content? = some content := by
  constructor
  · rintro ⟨forward, -, start, stop⟩
    obtain ⟨left, rest, cut, start⟩ := isBoundary_iff.mp start
    obtain ⟨left', right, cut', stop⟩ := isBoundary_iff.mp stop
    obtain ⟨content, rfl, rfl⟩ :=
      exists_eq_append_of_byteSize_le (cut.symm.trans cut') (by omega)
    refine ⟨content, content?_eq_some_iff.mpr ⟨left, right, cut', start, ?_⟩⟩
    rw [← start, ← stop, byteSize_append]
  · rintro ⟨content, taken⟩
    obtain ⟨left, right, cut, start, stop⟩ := content?_eq_some_iff.mp taken
    refine ⟨by omega, ?_, ?_, ?_⟩
    · rw [cut, byteSize_append, byteSize_append]
      omega
    · exact isBoundary_iff.mpr ⟨left, content ++ right, by rw [cut, List.append_assoc], start⟩
    · exact isBoundary_iff.mpr ⟨left ++ content, right, cut, by rw [byteSize_append]; omega⟩

end Slice

namespace Sliced

variable {ε α β : Type}

/-- Every slice that is asked for fits, and the computation comes to the result. -/
structure Gives (sliced : Sliced ε α) (result : Except ε α) : Prop where
  fits : ∀ slice ∈ sliced.slices, slice.Fits
  result : sliced.result? = some result

theorem gives_ofExcept (result : Except ε α) : (ofExcept result).Gives result :=
  ⟨nofun, rfl⟩

theorem gives_pure (value : α) : (pure value : Sliced ε α).Gives (.ok value) :=
  gives_ofExcept (.ok value)

theorem gives_fail (error : ε) : (fail error : Sliced ε α).Gives (.error error) :=
  gives_ofExcept (.error error)

theorem gives_take {text left content right : List Char} {start stop : Nat}
    (cut : text = left ++ content ++ right) (starts : byteSize left = start)
    (stops : start + byteSize content = stop) :
    (take ⟨text, start, stop⟩ : Sliced ε (List Char)).Gives (.ok content) := by
  have taken : (Slice.mk text start stop).content? = some content :=
    Slice.content?_eq_some_iff.mpr ⟨left, right, cut, starts, stops⟩
  refine ⟨fun slice member => ?_, by rw [take, taken]; rfl⟩
  obtain rfl := List.mem_singleton.mp member
  exact Slice.fits_iff.mpr ⟨content, taken⟩

theorem gives_take_start {text left right : List Char} {stop : Nat} (cut : text = left ++ right)
    (stops : byteSize left = stop) :
    (take ⟨text, 0, stop⟩ : Sliced ε (List Char)).Gives (.ok left) :=
  gives_take (show text = [] ++ left ++ right from cut) rfl (by rw [Nat.zero_add, stops])

theorem gives_take_end {text left right : List Char} {start : Nat} (cut : text = left ++ right)
    (starts : byteSize left = start) :
    (take ⟨text, start, byteSize text⟩ : Sliced ε (List Char)).Gives (.ok right) :=
  gives_take (show text = left ++ right ++ [] by rw [cut, List.append_nil]) starts
    (by rw [cut, byteSize_append, starts])

theorem Gives.attach {sliced : Sliced ε α} {value : α} (h : sliced.Gives (.ok value)) :
    sliced.attach.Gives (.ok ⟨value, h.result⟩) := by
  refine ⟨h.fits, ?_⟩
  obtain ⟨slices, result?⟩ := sliced
  obtain rfl : result? = some (.ok value) := h.result
  rfl

section Bind

variable {first : Sliced ε α} {next : α → Sliced ε β}

theorem Gives.bind_ok {value : α} {result : Except ε β} (h : first.Gives (.ok value))
    (onward : (next value).Gives result) : (first >>= next).Gives result := by
  rw [Sliced.bind_ok h.result]
  refine ⟨fun slice member => ?_, onward.result⟩
  exact (List.mem_append.mp member).elim (h.fits slice) (onward.fits slice)

theorem Gives.bind_error {error : ε} (h : first.Gives (.error error)) :
    (first >>= next).Gives (.error error) := by
  change (bind first next).Gives _
  rw [bind, h.result]
  exact ⟨h.fits, rfl⟩

theorem Gives.bind {result : Except ε α} {following : α → Except ε β} (h : first.Gives result)
    (onward : ∀ value, (next value).Gives (following value)) :
    (first >>= next).Gives (result >>= following) := by
  cases result with
  | error error => exact h.bind_error
  | ok value => exact h.bind_ok (onward value)

end Bind

end Sliced

end TableQuery.Text
