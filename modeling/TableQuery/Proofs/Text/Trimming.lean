import Mathlib.Data.List.Basic
import TableQuery.Text.Blank

/-! # Trimmed texts

Every text is blanks, then a text without blanks at its ends, then blanks again. Trimming gives
the middle part, so the blanks around a text never change what is read from it.
-/

namespace TableQuery.Text

def Blanks (text : List Char) : Prop := ∀ c ∈ text, isBlank c

/-- Blanks between two parts of a text, at least one. -/
def Gap (text : List Char) : Prop := text ≠ [] ∧ Blanks text

def Trimmed (text : List Char) : Prop :=
  (∀ c ∈ text.head?, isBlank c = false) ∧ ∀ c ∈ text.getLast?, isBlank c = false

instance (text : List Char) : Decidable (Blanks text) :=
  decidable_of_iff (text.all isBlank = true) List.all_eq_true

instance (text : List Char) : Decidable (Gap text) :=
  decidable_of_iff ((!text.isEmpty && text.all isBlank) = true) (by simp [Gap, Blanks])

instance (text : List Char) : Decidable (Trimmed text) :=
  decidable_of_iff
    ((text.head?.all (!isBlank ·) && text.getLast?.all (!isBlank ·)) = true)
    (by simp [Trimmed, Option.all_eq_true])

theorem blanks_nil : Blanks [] := by simp [Blanks]

theorem blanks_append {left right : List Char} (hl : Blanks left) (hr : Blanks right) :
    Blanks (left ++ right) := by
  intro c hc
  exact (List.mem_append.mp hc).elim (hl c) (hr c)

theorem gap_space : Gap [' '] := by decide

theorem Blanks.ne_of_mem {text : List Char} {c d : Char} (h : Blanks text)
    (visible : isBlank d = false) (hc : c ∈ text) : c ≠ d := by
  rintro rfl
  simp [h c hc] at visible

theorem Gap.head?_ne {gap rest : List Char} {d : Char} (h : Gap gap)
    (visible : isBlank d = false) : (gap ++ rest).head? ≠ some d := by
  cases gap with
  | nil => exact absurd rfl h.1
  | cons c gap => simpa using h.2.ne_of_mem visible (List.mem_cons_self)

theorem isBlank_eq_false {c : Char} (low : 0x21 ≤ c.toNat) (high : c.toNat ≤ 0x7E) :
    isBlank c = false := by
  simp only [isBlank, inRanges, blankRanges, List.any_cons, List.any_nil, Bool.or_false,
    Bool.or_eq_false_iff, Bool.and_eq_false_iff, decide_eq_false_iff_not]
  omega

section DropEndWhile

variable {α : Type} {p : α → Bool} {xs ys : List α}

theorem dropEndWhile_append_of_all (h : ∀ y ∈ ys, p y) :
    dropEndWhile p (xs ++ ys) = dropEndWhile p xs := by
  have reversed : ∀ y ∈ ys.reverse, p y := by simpa using h
  simp only [dropEndWhile, List.reverse_append, List.dropWhile_append_of_pos reversed]

theorem dropEndWhile_eq_self (h : ∀ x ∈ xs.getLast?, p x = false) : dropEndWhile p xs = xs := by
  rcases List.eq_nil_or_concat xs with rfl | ⟨rest, x, rfl⟩
  · rfl
  · have last : p x = false := h x (by simp)
    simp [dropEndWhile_concat, last]

theorem exists_eq_dropEndWhile_append (p : α → Bool) (xs : List α) :
    ∃ dropped, (∀ x ∈ dropped, p x) ∧ xs = dropEndWhile p xs ++ dropped := by
  refine ⟨(xs.reverse.takeWhile p).reverse, ?_, ?_⟩
  · intro x hx
    exact List.all_eq_true.mp List.all_takeWhile x (List.mem_reverse.mp hx)
  · rw [dropEndWhile, ← List.reverse_append, List.takeWhile_append_dropWhile,
      List.reverse_reverse]

theorem getLast?_dropEndWhile (p : α → Bool) (xs : List α) :
    ∀ x ∈ (dropEndWhile p xs).getLast?, p x = false := by
  intro x hx
  have stop := List.head?_dropWhile_not p xs.reverse
  rw [dropEndWhile, List.getLast?_reverse] at hx
  rw [Option.mem_def.mp hx] at stop
  simpa using stop

end DropEndWhile

theorem trimStart_blanks_append {blanks : List Char} (hb : Blanks blanks) (text : List Char) :
    trimStart (blanks ++ text) = trimStart text :=
  List.dropWhile_append_of_pos hb

theorem trimStart_eq_self {text : List Char} (h : ∀ c ∈ text.head?, isBlank c = false) :
    trimStart text = text := by
  cases text with
  | nil => rfl
  | cons c text =>
      have first : isBlank c = false := h c rfl
      exact List.dropWhile_cons_of_neg (by simp [first])

theorem trimStart_append_cons (text : List Char) {c : Char} (visible : isBlank c = false)
    (rest : List Char) : trimStart (text ++ c :: rest) = trimStart text ++ c :: rest := by
  induction text with
  | nil => exact trimStart_eq_self (by simp [visible])
  | cons d text ih =>
      cases blank : isBlank d with
      | true =>
          rw [List.cons_append, trimStart, trimStart, List.dropWhile_cons_of_pos blank,
            List.dropWhile_cons_of_pos blank]
          exact ih
      | false => rw [List.cons_append, trimStart_eq_self (by simp [blank]),
          trimStart_eq_self (by simp [blank]), List.cons_append]

theorem trimEnd_append_cons (text : List Char) {c : Char} (visible : isBlank c = false)
    (rest : List Char) : trimEnd (text ++ c :: rest) = text ++ c :: trimEnd rest := by
  have reversed := trimStart_append_cons rest.reverse visible text.reverse
  unfold trimStart at reversed
  simp [trimEnd, dropEndWhile, reversed]

theorem trimEnd_append_blanks {blanks : List Char} (hb : Blanks blanks) (text : List Char) :
    trimEnd (text ++ blanks) = trimEnd text :=
  dropEndWhile_append_of_all hb

theorem head?_trimStart (text : List Char) :
    ∀ c ∈ (trimStart text).head?, isBlank c = false := by
  intro c hc
  have stop := List.head?_dropWhile_not isBlank text
  rw [show (text.dropWhile isBlank).head? = some c from hc] at stop
  simpa using stop

theorem exists_trimStart_eq_trim_append (text : List Char) :
    ∃ right, Blanks right ∧ trimStart text = trim text ++ right :=
  exists_eq_dropEndWhile_append isBlank (trimStart text)

theorem exists_eq_blanks_trim_blanks (text : List Char) :
    ∃ left right, Blanks left ∧ Blanks right ∧ text = left ++ trim text ++ right := by
  obtain ⟨right, blank, eq⟩ := exists_trimStart_eq_trim_append text
  refine ⟨text.takeWhile isBlank, right, List.all_eq_true.mp List.all_takeWhile, blank, ?_⟩
  rw [List.append_assoc, ← eq]
  exact List.takeWhile_append_dropWhile.symm

theorem trimmed_trim (text : List Char) : Trimmed (trim text) := by
  refine ⟨?_, getLast?_dropEndWhile isBlank (trimStart text)⟩
  intro c hc
  obtain ⟨right, -, eq⟩ := exists_trimStart_eq_trim_append text
  apply head?_trimStart text
  rw [eq, List.head?_append, Option.mem_def.mp hc]
  rfl

theorem trim_padded {left text right : List Char} (hl : Blanks left) (hr : Blanks right)
    (ht : Trimmed text) : trim (left ++ text ++ right) = text := by
  rw [trim, List.append_assoc, trimStart_blanks_append hl]
  cases text with
  | nil =>
      have none : trimStart right = [] := by
        simpa [trimStart] using trimStart_blanks_append hr []
      rw [List.nil_append, none]
      rfl
  | cons c text =>
      rw [trimStart_eq_self (by simpa using ht.1), trimEnd_append_blanks hr]
      exact dropEndWhile_eq_self ht.2

theorem trim_eq_self {text : List Char} (h : Trimmed text) : trim text = text := by
  simpa using trim_padded blanks_nil blanks_nil h

theorem trim_blanks_append {blanks : List Char} (hb : Blanks blanks) (text : List Char) :
    trim (blanks ++ text) = trim text := by
  rw [trim, trimStart_blanks_append hb, trim]

theorem trim_ne_nil {text : List Char} (present : text ≠ [])
    (visible : ∀ c ∈ text.getLast?, isBlank c = false) : trim text ≠ [] := by
  intro none
  obtain ⟨left, right, hl, hr, eq⟩ := exists_eq_blanks_trim_blanks text
  have blank : Blanks text := by
    rw [eq, none, List.append_nil]
    exact blanks_append hl hr
  have last := visible (text.getLast present) (List.getLast?_eq_some_getLast present)
  simp [blank _ (List.getLast_mem present)] at last

theorem trim_append_blanks {blanks : List Char} (hb : Blanks blanks) (text : List Char) :
    trim (text ++ blanks) = trim text := by
  obtain ⟨left, right, hl, hr, eq⟩ := exists_eq_blanks_trim_blanks text
  conv => lhs; rw [eq, List.append_assoc]
  exact trim_padded hl (blanks_append hr hb) (trimmed_trim text)

theorem trim_eq_nil_iff {text : List Char} : trim text = [] ↔ Blanks text := by
  constructor
  · intro none
    obtain ⟨left, right, hl, hr, eq⟩ := exists_eq_blanks_trim_blanks text
    rw [eq, none, List.append_nil]
    exact blanks_append hl hr
  · intro blank
    simpa using trim_append_blanks blank []

theorem trimmed_append {left right : List Char} (hl : left ≠ []) (hr : right ≠ [])
    (first : ∀ c ∈ left.head?, isBlank c = false) (last : ∀ c ∈ right.getLast?, isBlank c = false) :
    Trimmed (left ++ right) := by
  refine ⟨?_, by rwa [List.getLast?_append_of_ne_nil left hr]⟩
  cases left with
  | nil => exact absurd rfl hl
  | cons c left => exact first

/-- Trimming keeps the gap between two parts unless nothing stands before it. -/
theorem exists_trim_eq_append {left gap right : List Char} (trimmed : Trimmed left)
    (gapped : Gap gap) (nonempty : right ≠ []) (first : ∀ c ∈ right.head?, isBlank c = false)
    (last : ∀ c ∈ right.getLast?, isBlank c = false) :
    ∃ kept, Blanks kept ∧ (kept = [] → left = []) ∧
      trim (left ++ gap ++ right) = left ++ kept ++ right := by
  by_cases empty : left = []
  · refine ⟨[], blanks_nil, fun _ => empty, ?_⟩
    simp only [empty, List.nil_append]
    rw [trim_blanks_append gapped.2, trim_eq_self ⟨first, last⟩]
  · refine ⟨gap, gapped.2, fun none => absurd none gapped.1, ?_⟩
    rw [List.append_assoc]
    apply trim_eq_self
    apply trimmed_append empty (by simp [nonempty]) trimmed.1
    rwa [List.getLast?_append_of_ne_nil gap nonempty]

theorem trimStart_append {mark : List Char} (front : List Char) (nonempty : mark ≠ [])
    (first : ∀ c ∈ mark.head?, isBlank c = false) :
    trimStart (front ++ mark) = trimStart front ++ mark := by
  obtain ⟨c, mark, rfl⟩ := List.exists_cons_of_ne_nil nonempty
  exact trimStart_append_cons front (first c rfl) mark

theorem trimEnd_append {mark : List Char} (nonempty : mark ≠ [])
    (last : ∀ c ∈ mark.getLast?, isBlank c = false) (back : List Char) :
    trimEnd (mark ++ back) = mark ++ trimEnd back := by
  rcases List.eq_nil_or_concat mark with rfl | ⟨others, c, rfl⟩
  · exact absurd rfl nonempty
  · simpa using trimEnd_append_cons others (last c (by simp)) back

theorem trim_around {mark : List Char} (front back : List Char) (nonempty : mark ≠ [])
    (trimmed : Trimmed mark) :
    trim (front ++ mark ++ back) = trimStart front ++ mark ++ trimEnd back := by
  have ending : ∀ c ∈ (trimStart front ++ mark).getLast?, isBlank c = false := by
    rw [List.getLast?_append_of_ne_nil _ nonempty]
    exact trimmed.2
  have first : ∀ c ∈ (mark ++ back).head?, isBlank c = false := by
    rw [List.head?_append_of_ne_nil _ nonempty]
    exact trimmed.1
  rw [trim, List.append_assoc, trimStart_append front (by simp [nonempty]) first,
    ← List.append_assoc, trimEnd_append (by simp [nonempty]) ending]

end TableQuery.Text
