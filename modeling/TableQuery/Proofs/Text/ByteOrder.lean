/-! # The order of texts by bytes

Texts are ordered by their code points. The UTF-8 form keeps that order: of two characters the
smaller one has the smaller byte at the first place where their bytes differ, whatever follows.
So comparing the bytes of two texts gives the order of the texts.
-/

namespace TableQuery.Text

def bytes (text : String) : List UInt8 := text.toUTF8.data.toList

theorem bytes_eq_flatMap (text : String) :
    bytes text = text.toList.flatMap String.utf8EncodeChar := by
  rw [bytes, String.toUTF8_eq_toByteArray, ← String.utf8Encode_toList, List.utf8Encode]
  simp

/-- The first list is smaller at a place that both have. -/
def Before (a b : List UInt8) : Prop := ∀ left right : List UInt8, a ++ left < b ++ right

section Before

variable {a b : List UInt8}

theorem before_of_lt {x y : UInt8} (h : x < y) (a b : List UInt8) : Before (x :: a) (y :: b) := by
  intro left right
  exact List.cons_lt_cons_iff.mpr (.inl h)

theorem Before.append (h : Before a b) (c d : List UInt8) : Before (a ++ c) (b ++ d) := by
  intro left right
  rw [List.append_assoc, List.append_assoc]
  exact h (c ++ left) (d ++ right)

theorem Before.prepend (h : Before a b) (c : List UInt8) : Before (c ++ a) (c ++ b) := by
  intro left right
  rw [List.append_assoc, List.append_assoc]
  exact List.append_left_lt (h left right)

end Before

theorem ofNat_lt_ofNat {m n : Nat} (h : m < n) (fits : n < 256) :
    UInt8.ofNat m < UInt8.ofNat n := by
  rw [UInt8.lt_iff_toNat_lt, UInt8.toNat_ofNat', UInt8.toNat_ofNat']
  omega

/-- A number without its last bits, six at a time. -/
def withoutBits : (times n : Nat) → Nat
  | 0, n => n
  | times + 1, n => withoutBits times (n / 64)

/-- A lead byte and further bytes of six bits each, the highest bits first. -/
def form (lead : Nat) : (more n : Nat) → List UInt8
  | 0, n => [UInt8.ofNat (lead + n)]
  | more + 1, n => form lead more (n / 64) ++ [UInt8.ofNat (128 + n % 64)]

theorem form_eq_cons (lead more n : Nat) :
    ∃ rest, form lead more n = UInt8.ofNat (lead + withoutBits more n) :: rest := by
  induction more generalizing n with
  | zero => exact ⟨[], rfl⟩
  | succ more ih =>
      obtain ⟨rest, eq⟩ := ih (n / 64)
      refine ⟨rest ++ [UInt8.ofNat (128 + n % 64)], ?_⟩
      rw [form, eq, List.cons_append, withoutBits]

theorem before_form {lead more m n : Nat} (h : m < n) (fits : lead + withoutBits more n < 256) :
    Before (form lead more m) (form lead more n) := by
  induction more generalizing m n with
  | zero => exact before_of_lt (ofNat_lt_ofNat (Nat.add_lt_add_left h lead) fits) [] []
  | succ more ih =>
      rw [form, form]
      by_cases high : m / 64 < n / 64
      · exact (ih high fits).append _ _
      · have same : m / 64 = n / 64 := by omega
        rw [same]
        exact (before_of_lt (ofNat_lt_ofNat (by omega) (by omega)) [] []).prepend _

/-- The lead byte and the number of further bytes for each range of code points. -/
inductive Shape : (lead more n : Nat) → Prop where
  | one {n : Nat} (high : n ≤ 0x7F) : Shape 0 0 n
  | two {n : Nat} (low : 0x7F < n) (high : n ≤ 0x7FF) : Shape 0xC0 1 n
  | three {n : Nat} (low : 0x7FF < n) (high : n ≤ 0xFFFF) : Shape 0xE0 2 n
  | four {n : Nat} (low : 0xFFFF < n) (high : n < 0x110000) : Shape 0xF0 3 n

section Shape

variable {lead more lead' more' m n : Nat}

theorem Shape.fits (h : Shape lead more n) : lead + withoutBits more n < 256 := by
  cases h with
  | one | two | three | four =>
      simp only [withoutBits]
      omega

theorem Shape.same_or_lt (hm : Shape lead more m) (hn : Shape lead' more' n) (h : m < n) :
    lead = lead' ∧ more = more' ∨ lead + withoutBits more m < lead' + withoutBits more' n := by
  cases hm with
  | one | two | three | four =>
      cases hn with
      | one | two | three | four =>
          -- Of forms of different lengths the longer one has the larger lead byte.
          first
          | exact .inl ⟨rfl, rfl⟩
          | right
            simp only [withoutBits]
            omega

end Shape

theorem toNat_lt (c : Char) : c.toNat < 0x110000 := by
  have range : c.toNat < 0xD800 ∨ 0xDFFF < c.toNat ∧ c.toNat < 0x110000 := c.valid
  omega

theorem exists_utf8EncodeChar_eq_form (c : Char) :
    ∃ lead more, Shape lead more c.toNat ∧
      String.utf8EncodeChar c = form lead more c.toNat := by
  by_cases one : c.toNat ≤ 0x7F
  · refine ⟨0, 0, .one one, ?_⟩
    have eq : String.utf8EncodeChar c = [UInt8.ofNat c.toNat] := if_pos one
    rw [eq, form, Nat.zero_add]
  · by_cases two : c.toNat ≤ 0x7FF
    · refine ⟨0xC0, 1, .two (by omega) two, ?_⟩
      have eq : String.utf8EncodeChar c = [UInt8.ofNat (c.toNat / 64 % 32 + 192),
          UInt8.ofNat (c.toNat % 64 + 128)] := (if_neg one).trans (if_pos two)
      have all : c.toNat / 64 % 32 = c.toNat / 64 := by omega
      rw [eq, all, Nat.add_comm _ 192, Nat.add_comm _ 128]
      rfl
    · by_cases three : c.toNat ≤ 0xFFFF
      · refine ⟨0xE0, 2, .three (by omega) three, ?_⟩
        have eq : String.utf8EncodeChar c = [UInt8.ofNat (c.toNat / 4096 % 16 + 224),
            UInt8.ofNat (c.toNat / 64 % 64 + 128), UInt8.ofNat (c.toNat % 64 + 128)] :=
          (if_neg one).trans ((if_neg two).trans (if_pos three))
        have all : c.toNat / 4096 % 16 = c.toNat / 64 / 64 := by omega
        rw [eq, all, Nat.add_comm _ 224, Nat.add_comm _ 128, Nat.add_comm _ 128]
        rfl
      · refine ⟨0xF0, 3, .four (by omega) (toNat_lt c), ?_⟩
        have eq : String.utf8EncodeChar c = [UInt8.ofNat (c.toNat / 262144 % 8 + 240),
            UInt8.ofNat (c.toNat / 4096 % 64 + 128), UInt8.ofNat (c.toNat / 64 % 64 + 128),
            UInt8.ofNat (c.toNat % 64 + 128)] :=
          (if_neg one).trans ((if_neg two).trans (if_neg three))
        have bound := toNat_lt c
        have all : c.toNat / 262144 % 8 = c.toNat / 64 / 64 / 64 := by omega
        have high : c.toNat / 4096 = c.toNat / 64 / 64 := by omega
        rw [eq, all, high, Nat.add_comm _ 240, Nat.add_comm _ 128, Nat.add_comm _ 128,
          Nat.add_comm _ 128]
        rfl

/-- A smaller character has smaller bytes, whatever follows. -/
theorem before_utf8EncodeChar {c d : Char} (h : c < d) :
    Before (String.utf8EncodeChar c) (String.utf8EncodeChar d) := by
  obtain ⟨lead, more, shape, eq⟩ := exists_utf8EncodeChar_eq_form c
  obtain ⟨lead', more', shape', eq'⟩ := exists_utf8EncodeChar_eq_form d
  have smaller : c.toNat < d.toNat := h
  rw [eq, eq']
  rcases shape.same_or_lt shape' smaller with ⟨rfl, rfl⟩ | first
  · exact before_form smaller shape'.fits
  · obtain ⟨rest, head⟩ := form_eq_cons lead more c.toNat
    obtain ⟨rest', head'⟩ := form_eq_cons lead' more' d.toNat
    rw [head, head']
    exact before_of_lt (ofNat_lt_ofNat first shape'.fits) rest rest'

theorem flatMap_utf8EncodeChar_lt {a b : List Char} (h : a < b) :
    a.flatMap String.utf8EncodeChar < b.flatMap String.utf8EncodeChar := by
  induction a generalizing b with
  | nil =>
      cases b with
      | nil => exact absurd h (List.not_lt_nil [])
      | cons d b =>
          rw [List.flatMap_cons]
          cases eq : String.utf8EncodeChar d with
          | nil => exact absurd eq String.utf8EncodeChar_ne_nil
          | cons x rest => exact List.nil_lt_cons x _
  | cons c a ih =>
      cases b with
      | nil => exact absurd h (List.not_lt_nil (c :: a))
      | cons d b =>
          rw [List.flatMap_cons, List.flatMap_cons]
          rcases List.cons_lt_cons_iff.mp h with first | ⟨rfl, later⟩
          · exact before_utf8EncodeChar first _ _
          · exact List.append_left_lt (ih later)

theorem bytes_inj {a b : String} : bytes a = bytes b ↔ a = b := by
  rw [bytes, bytes, Array.toList_inj]
  exact ⟨fun h => String.toByteArray_inj.mp (ByteArray.ext h), fun h => by rw [h]⟩

theorem lt_of_not_lt_of_ne {a b : String} (notLt : ¬a < b) (ne : a ≠ b) : b < a := by
  rcases List.le_iff_lt_or_eq.mp (List.not_lt.mp notLt) with greater | same
  · exact greater
  · exact absurd (String.toList_inj.mp same).symm ne

theorem bytes_lt_iff {a b : String} : bytes a < bytes b ↔ a < b := by
  have mono : ∀ {a b : String}, a < b → bytes a < bytes b := by
    intro a b h
    rw [bytes_eq_flatMap, bytes_eq_flatMap]
    exact flatMap_utf8EncodeChar_lt h
  refine ⟨?_, mono⟩
  intro h
  by_cases lt : a < b
  · exact lt
  · exfalso
    by_cases eq : a = b
    · rw [eq] at h
      exact List.lt_irrefl _ h
    · exact List.lt_asymm h (mono (lt_of_not_lt_of_ne lt eq))

end TableQuery.Text
