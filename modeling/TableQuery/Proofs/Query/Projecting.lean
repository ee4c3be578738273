import TableQuery.Proofs.Query.Counting
import TableQuery.Proofs.Query.UniformRows

/-! # Projected rows

A projected row keeps the cells of the names it was asked for and forgets every other column. So
what looks only at those names cannot tell it from the row it came from: a condition on one of them
may be checked before or after, and of two projections one after the other the last one decides.
What looks at any other name finds a missing column, whatever the row had before.
-/

namespace TableQuery

variable {names others : List String} {rows projected : List Row}

namespace Row

variable {row : Row} {name : String}

theorem findSome?_fault?_select (row : Row) (names others : List String) :
    others.findSome? (row.select names).fault? =
      (others.find? (· ∉ names)).map Failure.columnNotFound := by
  rw [findSome?_fault?, columns, keys_select]
  simp only [List.mem_eraseDups]

theorem cell?_select_of_mem (complete : names.findSome? row.fault? = none) (asked : name ∈ names) :
    (row.select names).cell? name = row.cell? name := by
  have present : row.fault? name = none := List.findSome?_eq_none_iff.mp complete name asked
  rw [cell?, get?_select, if_pos asked, text?]
  cases found : row.cell? name with
  | none => simp [fault?, found] at present
  | some cell => rfl

theorem select_select (within : ∀ name ∈ others, name ∈ names) (row : Row) :
    (row.select names).select others = row.select others := by
  apply Keyed.ext
  apply List.map_congr_left
  intro name member
  have asked := within name (List.mem_eraseDups.mp member)
  rw [text?_select_of_mem asked]

end Row

theorem Selection.project_columns_eq_ok_iff :
    (Selection.columns names).project rows = .ok projected ↔
      (∀ row ∈ rows, names.findSome? row.fault? = none) ∧
        (rows.map fun row => row.select names) = projected := by
  rw [project_columns, Result.errorOr_eq_ok_iff, List.findSome?_eq_none_iff]

theorem Selection.project_columns_of_missing {name : String}
    (succeeds : (Selection.columns names).project rows = .ok projected) (present : rows ≠ [])
    (missing : others.find? (· ∉ names) = some name) :
    (Selection.columns others).project projected = .error (.columnNotFound name) := by
  obtain ⟨-, rfl⟩ := project_columns_eq_ok_iff.mp succeeds
  have each : ∀ narrow ∈ rows.map fun row => row.select names,
      others.findSome? narrow.fault? = some (.columnNotFound name) := by
    intro narrow member
    obtain ⟨row, -, rfl⟩ := List.mem_map.mp member
    rw [Row.findSome?_fault?_select, missing]
    rfl
  rw [project_columns, Result.errorOr_eq_error_iff, findSome?_of_forall_eq each,
    if_neg (by simpa using present)]

theorem Selection.project_columns_of_within
    (succeeds : (Selection.columns names).project rows = .ok projected)
    (within : ∀ name ∈ others, name ∈ names) :
    (Selection.columns others).project rows = .ok (rows.map fun row => row.select others) ∧
      (Selection.columns others).project projected =
        .ok (rows.map fun row => row.select others) := by
  obtain ⟨complete, rfl⟩ := project_columns_eq_ok_iff.mp succeeds
  constructor
  · refine project_columns_eq_ok_iff.mpr ⟨fun row member => ?_, rfl⟩
    have whole := List.findSome?_eq_none_iff.mp (complete row member)
    exact List.findSome?_eq_none_iff.mpr fun name asked => whole name (within name asked)
  · refine project_columns_eq_ok_iff.mpr ⟨?_, ?_⟩
    · intro narrow member
      obtain ⟨row, -, rfl⟩ := List.mem_map.mp member
      rw [Row.findSome?_fault?_select, List.find?_eq_none.mpr (by simpa using within)]
      rfl
    · rw [List.map_map]
      exact List.map_congr_left fun row _ => row.select_select within

theorem findSome?_congr {α β : Type} {f g : α → Option β} {xs : List α}
    (same : ∀ x ∈ xs, f x = g x) : xs.findSome? f = xs.findSome? g := by
  induction xs with
  | nil => rfl
  | cons x xs ih =>
      have rest := ih fun y member => same y (List.mem_cons_of_mem x member)
      rw [List.findSome?_cons, List.findSome?_cons, same x List.mem_cons_self, rest]

namespace Condition

variable {condition : Condition} {kept : List Row}

theorem fault?_congr {a b : Row} (same : a.cell? condition.column = b.cell? condition.column) :
    condition.fault? a = condition.fault? b := by
  simp only [fault?, same]

theorem satisfiedBy_congr {a b : Row}
    (same : a.cell? condition.column = b.cell? condition.column) :
    condition.satisfiedBy a = condition.satisfiedBy b := by
  simp only [satisfiedBy, Row.text?, same]

theorem filter_map {f : Row → Row}
    (same : ∀ row ∈ rows, (f row).cell? condition.column = row.cell? condition.column) :
    condition.filter (rows.map f) = (condition.filter rows).map (List.map f) := by
  have faults : rows.findSome? (condition.fault? ∘ f) = rows.findSome? condition.fault? :=
    findSome?_congr fun row member => fault?_congr (same row member)
  have satisfied : rows.filter (condition.satisfiedBy ∘ f) = rows.filter condition.satisfiedBy :=
    List.filter_congr fun row member => satisfiedBy_congr (same row member)
  rw [filter_eq, filter_eq, List.findSome?_map, List.filter_map, faults, satisfied]
  cases rows.findSome? condition.fault? <;> rfl

theorem mem_of_filter_eq_ok (filtered : condition.filter rows = .ok kept) :
    ∀ row ∈ kept, row ∈ rows := by
  rw [filter_eq, Result.errorOr_eq_ok_iff] at filtered
  obtain ⟨-, rfl⟩ := filtered
  exact fun row member => (List.mem_filter.mp member).1

/-- Rows are projected and then filtered as they are filtered and then projected, failures and all,
    if the condition is on a column that the projection asks for. -/
theorem filter_project (succeeds : (Selection.columns names).project rows = .ok projected)
    (asked : condition.column ∈ names) :
    condition.filter projected = condition.filter rows >>= (Selection.columns names).project := by
  obtain ⟨complete, rfl⟩ := Selection.project_columns_eq_ok_iff.mp succeeds
  rw [filter_map fun row member => Row.cell?_select_of_mem (complete row member) asked]
  cases filtered : condition.filter rows with
  | error failure => rfl
  | ok kept =>
      -- The rows that are kept miss no name, since none of the rows does.
      have inside := mem_of_filter_eq_ok filtered
      exact (Selection.project_columns_eq_ok_iff.mpr
        ⟨fun row member => complete row (inside row member), rfl⟩).symm

/-- The absent cell is no number, and no comparison of texts holds of it, before and after the rows
    lose a column. -/
theorem filter_project_sparse :
    ∃ projected, (Selection.columns ["b", "a", "b"]).project
        [⟨[("c", some "y"), ("a", none), ("b", some "q")], by decide⟩,
          ⟨[("a", some "2"), ("b", none), ("c", some "x")], by decide⟩] = .ok projected ∧
      filter ⟨"a", .gt, .string "1"⟩ projected =
        .ok [⟨[("b", none), ("a", some "2")], by decide⟩] ∧
      filter ⟨"a", .eq, .integer 2⟩ projected = .error .typeMismatch := by
  obtain ⟨projected, succeeds⟩ : ∃ projected, (Selection.columns ["b", "a", "b"]).project
      [⟨[("c", some "y"), ("a", none), ("b", some "q")], by decide⟩,
        ⟨[("a", some "2"), ("b", none), ("c", some "x")], by decide⟩] = .ok projected := ⟨_, rfl⟩
  refine ⟨projected, succeeds, ?_, ?_⟩
  · rw [filter_project succeeds (by decide)]
    rfl
  · rw [filter_project succeeds (by decide)]
    rfl

end Condition

/-- What is left of projected rows depends on the names asked for last. If the first projection has
    them all, the second does as it would on the rows themselves, and nothing to the same names
    again. Otherwise the first name that is gone is reported, though the rows may have it. -/
theorem Selection.project_project (others : List String)
    (succeeds : (Selection.columns names).project rows = .ok projected) :
    ((∀ name ∈ others, name ∈ names) → ∃ narrowed,
        (Selection.columns others).project projected = .ok narrowed ∧
        (Selection.columns others).project rows = .ok narrowed) ∧
      (Selection.columns names).project projected = .ok projected ∧
      ((∃ name ∈ others, name ∉ names) → rows ≠ [] → ∃ name,
        others.find? (· ∉ names) = some name ∧
        (Selection.columns others).project projected = .error (.columnNotFound name)) := by
  refine ⟨fun within => ?_, ?_, fun missing present => ?_⟩
  · obtain ⟨direct, twice⟩ := project_columns_of_within succeeds within
    exact ⟨_, twice, direct⟩
  · obtain ⟨direct, twice⟩ := project_columns_of_within succeeds fun name member => member
    rwa [← Except.ok.inj (succeeds.symm.trans direct)] at twice
  · have some : (others.find? (· ∉ names)).isSome := by simpa using missing
    obtain ⟨name, first⟩ := Option.isSome_iff_exists.mp some
    exact ⟨name, first, project_columns_of_missing succeeds present first⟩

/-- The row has a column `c`, but no longer when `c` is asked for. -/
theorem Selection.project_project_narrowed :
    ∃ projected, (Selection.columns ["b", "a", "b"]).project
        [⟨[("a", some "1"), ("b", none), ("c", some "x")], by decide⟩] = .ok projected ∧
      (Selection.columns ["b", "a", "b"]).project projected = .ok projected ∧
      (Selection.columns ["a", "b", "a"]).project projected =
        .ok [⟨[("a", some "1"), ("b", none)], by decide⟩] ∧
      (Selection.columns ["a", "c", "d"]).project projected = .error (.columnNotFound "c") := by
  obtain ⟨projected, succeeds⟩ : ∃ projected, (Selection.columns ["b", "a", "b"]).project
      [⟨[("a", some "1"), ("b", none), ("c", some "x")], by decide⟩] = .ok projected := ⟨_, rfl⟩
  obtain ⟨within, again, -⟩ := project_project ["a", "b", "a"] succeeds
  obtain ⟨narrowed, twice, once⟩ := within (by decide)
  obtain ⟨name, first, missing⟩ :=
    (project_project ["a", "c", "d"] succeeds).2.2 (by decide) (by decide)
  cases once
  cases first
  exact ⟨projected, succeeds, again, twice, missing⟩

end TableQuery
