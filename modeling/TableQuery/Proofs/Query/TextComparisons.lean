import Mathlib.Data.Finset.Disjoint
import Mathlib.Data.Finset.Filter
import Mathlib.Data.Finset.Lattice.Basic
import Mathlib.Data.Finset.Range
import TableQuery.Proofs.Query.UniformRows

/-! # Comparing a column with a text

The bytes of one text are smaller than those of another, or the same, or greater. So a given text
parts the rows that have a text in a column into those below it, at it and above it. The other
three comparisons each take two of these parts together. A row where the cell is absent is in no
part, and not among the rows that differ from the text either.
-/

namespace TableQuery

namespace Condition

/-- Whether a row is kept. A row that cannot be compared is not. -/
def keeps (condition : Condition) (row : Row) : Bool :=
  match condition.judge row with
  | .ok kept => kept
  | .error _ => false

def keptPlaces (condition : Condition) (rows : List Row) : Finset Nat :=
  (Finset.range rows.length).filter fun i => rows[i]?.any condition.keeps

end Condition

def textPlaces (column : String) (rows : List Row) : Finset Nat :=
  (Finset.range rows.length).filter fun i => rows[i]?.any fun row => (row.text? column).isSome

/-- The places of the rows that are kept where a column is compared with a text. -/
def Comparison.placesOf (comparison : Comparison) (column : String) (rows : List Row)
    (text : String) : Finset Nat :=
  Condition.keptPlaces ⟨column, comparison, .string text⟩ rows

namespace Comparison

variable {a b c : List UInt8}

theorem relates_lt_or_eq_or_gt (a b : List UInt8) :
    lt.relates a b ∨ eq.relates a b ∨ gt.relates a b := by
  simp only [relates, decide_eq_true_eq]
  by_cases below : a < b
  · exact .inl below
  · rcases List.le_iff_lt_or_eq.mp (List.not_lt.mp below) with above | same
    · exact .inr (.inr above)
    · exact .inr (.inl same.symm)

theorem not_relates_lt_of_eq (same : eq.relates a b) : ¬lt.relates a b := by
  simp only [relates, decide_eq_true_eq] at same ⊢
  exact same ▸ List.lt_irrefl a

theorem not_relates_gt_of_eq (same : eq.relates a b) : ¬gt.relates a b := by
  simp only [relates, decide_eq_true_eq] at same ⊢
  exact same ▸ List.lt_irrefl a

theorem not_relates_gt_of_lt (below : lt.relates a b) : ¬gt.relates a b := by
  simp only [relates, decide_eq_true_eq] at below ⊢
  exact List.lt_asymm below

theorem relates_le_iff : le.relates a b ↔ lt.relates a b ∨ eq.relates a b := by
  simp only [relates, decide_eq_true_eq]

theorem relates_ge_iff : ge.relates a b ↔ gt.relates a b ∨ eq.relates a b := by
  simp only [relates, decide_eq_true_eq]

theorem relates_ne_iff : ne.relates a b ↔ lt.relates a b ∨ gt.relates a b := by
  have other : ne.relates a b ↔ ¬eq.relates a b := by
    simp only [relates, decide_eq_true_eq]
  rw [other]
  constructor
  · intro different
    rcases relates_lt_or_eq_or_gt a b with below | same | above
    · exact .inl below
    · exact absurd same different
    · exact .inr above
  · rintro (below | above) same
    · exact not_relates_lt_of_eq same below
    · exact not_relates_gt_of_eq same above

theorem relates_lt_mono (order : b ≤ c) (below : lt.relates a b) : lt.relates a c := by
  simp only [relates, decide_eq_true_eq] at below ⊢
  rcases List.le_iff_lt_or_eq.mp order with less | rfl
  · exact List.lt_trans below less
  · exact below

theorem relates_gt_mono (order : b ≤ c) (above : gt.relates a c) : gt.relates a b := by
  simp only [relates, decide_eq_true_eq] at above ⊢
  rcases List.le_iff_lt_or_eq.mp order with less | rfl
  · exact List.lt_trans less above
  · exact above

end Comparison

section Places

variable {column text : String} {rows : List Row} {i : Nat}

theorem mem_places_iff {p : Row → Bool} :
    i ∈ (Finset.range rows.length).filter (fun i => rows[i]?.any p) ↔
      ∃ row, rows[i]? = some row ∧ p row := by
  rw [Finset.mem_filter, Finset.mem_range, Option.any_eq_true]
  constructor
  · exact fun found => found.2
  · rintro ⟨row, found, holds⟩
    obtain ⟨inside, -⟩ := List.getElem?_eq_some_iff.mp found
    exact ⟨inside, row, found, holds⟩

/-- The kept rows in table order are those that stand at the kept places. -/
theorem Condition.filter_keeps_eq (condition : Condition) (rows : List Row) :
    rows.filter condition.keeps =
      (rows.zipIdx.filter fun entry => entry.2 ∈ condition.keptPlaces rows).map Prod.fst := by
  have placed : ∀ entry ∈ rows.zipIdx,
      decide (entry.2 ∈ condition.keptPlaces rows) = condition.keeps entry.1 := by
    intro entry member
    have found := List.mem_zipIdx_iff_getElem?.mp member
    rw [Bool.eq_iff_iff, decide_eq_true_eq, keptPlaces, mem_places_iff, found]
    simp
  rw [List.filter_congr placed]
  calc rows.filter condition.keeps
    _ = (rows.zipIdx.map Prod.fst).filter condition.keeps := by rw [List.zipIdx_map_fst]
    _ = (rows.zipIdx.filter fun entry => condition.keeps entry.1).map Prod.fst := List.filter_map

theorem Condition.keeps_string (column : String) (comparison : Comparison) (text : String)
    (row : Row) :
    keeps ⟨column, comparison, .string text⟩ row =
      (row.text? column).any fun value =>
        comparison.relates (Text.bytes value) (Text.bytes text) := by
  unfold keeps judge Row.required Row.text?
  cases row.cell? column with
  | none => rfl
  | some cell =>
      cases cell with
      | none => rfl
      | some value => simp [Comparison.holds_textOrder]

theorem Condition.filter_string (present : ∀ row ∈ rows, column ∈ row.columns)
    (comparison : Comparison) (text : String) :
    filter ⟨column, comparison, .string text⟩ rows =
      .ok (rows.filter (keeps ⟨column, comparison, .string text⟩)) := by
  have faultless : rows.findSome? (fault? ⟨column, comparison, .string text⟩) = none := by
    rw [List.findSome?_eq_none_iff]
    intro row member
    rw [fault?_of_string rfl, Row.fault?_eq_if, if_pos (present row member)]
  have kept : satisfiedBy ⟨column, comparison, .string text⟩ =
      keeps ⟨column, comparison, .string text⟩ :=
    funext fun row => (keeps_string column comparison text row).symm
  rw [filter_eq, faultless, kept, Result.errorOr_none]

theorem Comparison.mem_placesOf_iff {comparison : Comparison} :
    i ∈ comparison.placesOf column rows text ↔
      ∃ row value, rows[i]? = some row ∧ row.text? column = some value ∧
        comparison.relates (Text.bytes value) (Text.bytes text) := by
  rw [placesOf, Condition.keptPlaces, mem_places_iff]
  simp only [Condition.keeps_string, Option.any_eq_true, exists_and_left]

theorem mem_textPlaces_iff :
    i ∈ textPlaces column rows ↔
      ∃ row value, rows[i]? = some row ∧ row.text? column = some value := by
  rw [textPlaces, mem_places_iff]
  simp only [Option.isSome_iff_exists, exists_and_left]

end Places

namespace Comparison

variable {column text : String} {rows : List Row} {c d e : Comparison}

theorem placesOf_mono {other : String}
    (implies : ∀ a, c.relates a (Text.bytes text) → d.relates a (Text.bytes other)) :
    c.placesOf column rows text ⊆ d.placesOf column rows other := by
  intro i member
  obtain ⟨row, value, found, held, related⟩ := mem_placesOf_iff.mp member
  exact mem_placesOf_iff.mpr ⟨row, value, found, held, implies _ related⟩

theorem placesOf_subset_textPlaces : c.placesOf column rows text ⊆ textPlaces column rows := by
  intro i member
  obtain ⟨row, value, found, held, -⟩ := mem_placesOf_iff.mp member
  exact mem_textPlaces_iff.mpr ⟨row, value, found, held⟩

theorem mem_placesOf_eq_iff {i : Nat} :
    i ∈ eq.placesOf column rows text ↔
      ∃ row, rows[i]? = some row ∧ row.text? column = some text := by
  rw [mem_placesOf_iff]
  simp only [relates, decide_eq_true_eq, Text.bytes_inj]
  constructor
  · rintro ⟨row, value, found, held, rfl⟩
    exact ⟨row, found, held⟩
  · rintro ⟨row, found, held⟩
    exact ⟨row, text, found, held, rfl⟩

theorem disjoint_placesOf (apart : ∀ a b : List UInt8, c.relates a b → ¬d.relates a b) :
    Disjoint (c.placesOf column rows text) (d.placesOf column rows text) := by
  rw [Finset.disjoint_left]
  intro i inFirst inSecond
  obtain ⟨row, value, found, held, related⟩ := mem_placesOf_iff.mp inFirst
  obtain ⟨row', value', found', held', related'⟩ := mem_placesOf_iff.mp inSecond
  obtain rfl := Option.some.inj (found.symm.trans found')
  obtain rfl := Option.some.inj (held.symm.trans held')
  exact apart _ _ related related'

theorem placesOf_eq_union
    (splits : ∀ a b : List UInt8, c.relates a b ↔ d.relates a b ∨ e.relates a b) :
    c.placesOf column rows text = d.placesOf column rows text ∪ e.placesOf column rows text := by
  apply Finset.Subset.antisymm
  · intro i member
    obtain ⟨row, value, found, held, related⟩ := mem_placesOf_iff.mp member
    rw [Finset.mem_union, mem_placesOf_iff, mem_placesOf_iff]
    rcases (splits _ _).mp related with first | second
    · exact .inl ⟨row, value, found, held, first⟩
    · exact .inr ⟨row, value, found, held, second⟩
  · apply Finset.union_subset
    · exact placesOf_mono fun a first => (splits a _).mpr (.inl first)
    · exact placesOf_mono fun a second => (splits a _).mpr (.inr second)

theorem union_placesOf_eq_textPlaces :
    eq.placesOf column rows text ∪ lt.placesOf column rows text ∪ gt.placesOf column rows text =
      textPlaces column rows := by
  apply Finset.Subset.antisymm
  · exact Finset.union_subset
      (Finset.union_subset placesOf_subset_textPlaces placesOf_subset_textPlaces)
      placesOf_subset_textPlaces
  · intro i member
    obtain ⟨row, value, found, held⟩ := mem_textPlaces_iff.mp member
    simp only [Finset.mem_union, mem_placesOf_iff]
    rcases relates_lt_or_eq_or_gt (Text.bytes value) (Text.bytes text) with below | same | above
    · exact .inl (.inr ⟨row, value, found, held, below⟩)
    · exact .inl (.inl ⟨row, value, found, held, same⟩)
    · exact .inr ⟨row, value, found, held, above⟩

/-- Where all rows have the column, each comparison with a text keeps the rows at its places. The
    rows at the text, which are those that hold it, the rows below it and the rows above it share no
    place and are all rows with a text in the column. The other comparisons keep two of the three
    together, and none keeps a row where the cell is absent. A greater text has no fewer rows below
    it and no more above it. -/
theorem parts_of_text (present : ∀ row ∈ rows, column ∈ row.columns) (text : String) :
    (∀ comparison, Condition.filter ⟨column, comparison, .string text⟩ rows =
      .ok ((rows.zipIdx.filter fun entry =>
        entry.2 ∈ comparison.placesOf column rows text).map Prod.fst)) ∧
    (∀ i, i ∈ eq.placesOf column rows text ↔
      ∃ row, rows[i]? = some row ∧ row.text? column = some text) ∧
    (Disjoint (eq.placesOf column rows text) (lt.placesOf column rows text) ∧
      Disjoint (eq.placesOf column rows text) (gt.placesOf column rows text) ∧
      Disjoint (lt.placesOf column rows text) (gt.placesOf column rows text)) ∧
    eq.placesOf column rows text ∪ lt.placesOf column rows text ∪ gt.placesOf column rows text =
      textPlaces column rows ∧
    le.placesOf column rows text = lt.placesOf column rows text ∪ eq.placesOf column rows text ∧
    ge.placesOf column rows text = gt.placesOf column rows text ∪ eq.placesOf column rows text ∧
    ne.placesOf column rows text = lt.placesOf column rows text ∪ gt.placesOf column rows text ∧
    (∀ i row, rows[i]? = some row → row.cell? column = some none →
      ∀ comparison : Comparison, i ∉ comparison.placesOf column rows text) ∧
    ∀ other, Text.bytes text ≤ Text.bytes other →
      lt.placesOf column rows text ⊆ lt.placesOf column rows other ∧
        gt.placesOf column rows other ⊆ gt.placesOf column rows text := by
  refine ⟨fun comparison => ?_, fun i => mem_placesOf_eq_iff, ⟨?_, ?_, ?_⟩,
    union_placesOf_eq_textPlaces, placesOf_eq_union fun a b => relates_le_iff,
    placesOf_eq_union fun a b => relates_ge_iff, placesOf_eq_union fun a b => relates_ne_iff, ?_,
    fun other order => ⟨?_, ?_⟩⟩
  · rw [Condition.filter_string present, Condition.filter_keeps_eq, placesOf]
  · exact disjoint_placesOf fun a b => not_relates_lt_of_eq
  · exact disjoint_placesOf fun a b => not_relates_gt_of_eq
  · exact disjoint_placesOf fun a b => not_relates_gt_of_lt
  · intro i row found absent comparison member
    obtain ⟨row', value, found', held, -⟩ := mem_placesOf_iff.mp member
    obtain rfl := Option.some.inj (found.symm.trans found')
    rw [Row.text?, absent] at held
    cases held
  · exact placesOf_mono fun a => relates_lt_mono order
  · exact placesOf_mono fun a => relates_gt_mono order

/-- A row at the text, one below it, one above it, and one that is not compared at all. -/
theorem parts_of_text_mixed :
    Condition.filter ⟨"a", .ne, .string "m"⟩
        [⟨[("a", some "m")], by decide⟩, ⟨[("a", some "b")], by decide⟩,
          ⟨[("a", some "z")], by decide⟩, ⟨[("a", none)], by decide⟩] =
      .ok [⟨[("a", some "b")], by decide⟩, ⟨[("a", some "z")], by decide⟩] ∧
    0 ∉ ne.placesOf "a" [⟨[("a", none)], by decide⟩] "m" ∧
    gt.placesOf "a" [⟨[("a", some "z")], by decide⟩] "m" ⊆
      gt.placesOf "a" [⟨[("a", some "z")], by decide⟩] "b" := by
  refine ⟨((parts_of_text (by decide) "m").1 .ne).trans ?_, ?_, ?_⟩
  · rfl
  · exact (parts_of_text (by decide) "m").2.2.2.2.2.2.2.1 0 _ rfl rfl .ne
  · exact ((parts_of_text (by decide) "b").2.2.2.2.2.2.2.2 "m" (by decide)).2

end Comparison

end TableQuery
