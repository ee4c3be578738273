import TableQuery.Proofs.Query.Meaning

/-! # Queries on uniform rows

Rows are uniform when all of them have the same columns. A query then misses a column by its name
alone: whichever row is looked at first has the same columns as every other. Filtering and
selecting keep rows uniform.
-/

namespace TableQuery

def Uniform (columns : List String) (rows : List Row) : Prop := ∀ row ∈ rows, row.columns = columns

variable {columns : List String} {rows : List Row} {name : String}

theorem findSome?_of_forall_eq {α β : Type} {f : α → Option β} {found : Option β} {xs : List α}
    (same : ∀ x ∈ xs, f x = found) : xs.findSome? f = if xs = [] then none else found := by
  induction xs with
  | nil => rfl
  | cons x xs ih =>
      rw [List.findSome?_cons, same x List.mem_cons_self, if_neg (List.cons_ne_nil x xs)]
      cases found with
      | some value => rfl
      | none =>
          have rest := ih fun y member => same y (List.mem_cons_of_mem x member)
          rwa [ite_self] at rest

theorem Row.cell?_eq_none_iff {row : Row} {column : String} :
    row.cell? column = none ↔ column ∉ row.columns :=
  Keyed.get?_eq_none_iff

theorem Row.fault?_eq_if (row : Row) (column : String) :
    row.fault? column =
      if column ∈ row.columns then none else some (.columnNotFound column) := by
  unfold fault?
  by_cases member : column ∈ row.columns <;> simp [cell?_eq_none_iff, member]

theorem Row.findSome?_fault? (row : Row) (names : List String) :
    names.findSome? row.fault? =
      (names.find? (· ∉ row.columns)).map Failure.columnNotFound := by
  induction names with
  | nil => rfl
  | cons name names ih =>
      rw [List.findSome?_cons, List.find?_cons, fault?_eq_if, ih]
      by_cases member : name ∈ row.columns <;> simp [member]

theorem Condition.fault?_eq_columnNotFound_iff {condition : Condition} {row : Row} :
    condition.fault? row = some (.columnNotFound name) ↔
      condition.column ∉ row.columns ∧ name = condition.column := by
  rw [← Row.cell?_eq_none_iff, fault?]
  cases row.cell? condition.column with
  | none => simp [eq_comm]
  | some value =>
      -- A column that is there leaves nothing but a type mismatch.
      cases condition.literal with
      | string text => simp
      | integer number | float number =>
          simp only [reduceCtorEq, false_and, iff_false]
          split <;> simp

theorem keptRows_eq_columnNotFound_iff (uniform : Uniform columns rows)
    (condition? : Option Condition) :
    keptRows condition? rows = .error (.columnNotFound name) ↔
      ∃ condition, condition? = some condition ∧ rows ≠ [] ∧ condition.column ∉ columns ∧
        name = condition.column := by
  cases condition? with
  | none => simp [keptRows]
  | some condition =>
      rw [keptRows, Result.errorOr_eq_error_iff]
      constructor
      · intro missing
        obtain ⟨row, member, fault⟩ := List.exists_of_findSome?_eq_some missing
        rw [Condition.fault?_eq_columnNotFound_iff, uniform row member] at fault
        exact ⟨condition, rfl, List.ne_nil_of_mem member, fault⟩
      · rintro ⟨other, same, present, fault⟩
        obtain rfl := Option.some.inj same
        have each : ∀ row ∈ rows, condition.fault? row = some (.columnNotFound name) := by
          intro row member
          rw [Condition.fault?_eq_columnNotFound_iff, uniform row member]
          exact fault
        rw [findSome?_of_forall_eq each, if_neg present]

/-- The columns that a row needs for the selection, in the order in which they are asked for. -/
def Selection.requested : Selection → List String
  | .all => []
  | .columns names => names
  | .count ⟨.rows, _⟩ => []
  | .count ⟨.column name, _⟩ => [name]

theorem Selection.exists_meaning_eq (selection : Selection) (rows : List Row) :
    ∃ answer, selection.meaning rows =
      Result.errorOr (rows.findSome? fun row => selection.requested.findSome? row.fault?)
        answer := by
  have nothing : (rows.findSome? fun row => [].findSome? row.fault?) = none := by simp
  cases selection with
  | all => exact ⟨_, by rw [requested, nothing]; rfl⟩
  | columns names => exact ⟨_, rfl⟩
  | count aggregate =>
      obtain ⟨counted, expression⟩ := aggregate
      cases counted with
      | rows => exact ⟨_, by rw [requested, nothing]; rfl⟩
      | column name => exact ⟨_, by simp only [requested, List.findSome?_singleton]; rfl⟩

theorem Selection.meaning_eq_columnNotFound_iff (uniform : Uniform columns rows)
    (selection : Selection) :
    selection.meaning rows = .error (.columnNotFound name) ↔
      rows ≠ [] ∧ selection.requested.find? (· ∉ columns) = some name := by
  obtain ⟨answer, meaning⟩ := selection.exists_meaning_eq rows
  have each : ∀ row ∈ rows, selection.requested.findSome? row.fault? =
      (selection.requested.find? (· ∉ columns)).map Failure.columnNotFound := by
    intro row member
    rw [Row.findSome?_fault?, uniform row member]
  rw [meaning, Result.errorOr_eq_error_iff, findSome?_of_forall_eq each]
  by_cases none : rows = []
  · simp [none]
  · simp [none]

theorem Uniform.keptRows {condition? : Option Condition} {kept : List Row}
    (uniform : Uniform columns rows) (filtered : keptRows condition? rows = .ok kept) :
    Uniform columns kept := by
  cases condition? with
  | none => exact Except.ok.inj filtered ▸ uniform
  | some condition =>
      obtain ⟨-, rfl⟩ := Result.errorOr_eq_ok_iff.mp filtered
      exact fun row member => uniform row (List.mem_filter.mp member).1

/-- The columns of the rows that are selected from rows with the given columns. -/
def Selection.columnsFrom (selection : Selection) (columns : List String) : List String :=
  match selection with
  | .columns names => names.eraseDups
  | .all | .count _ => columns

theorem Uniform.meaning {selection : Selection} {selected : List Row}
    (uniform : Uniform columns rows) (answered : selection.meaning rows = .ok (.rows selected)) :
    Uniform (selection.columnsFrom columns) selected := by
  cases selection with
  | all =>
      obtain rfl := Answer.rows.inj (Except.ok.inj answered)
      exact uniform
  | columns names =>
      obtain ⟨-, same⟩ := Result.errorOr_eq_ok_iff.mp answered
      obtain rfl := Answer.rows.inj same
      intro row member
      obtain ⟨source, -, rfl⟩ := List.mem_map.mp member
      exact source.keys_select names
  | count aggregate =>
      obtain ⟨counted, expression⟩ := aggregate
      cases counted with
      | rows => cases answered
      | column name =>
          obtain ⟨-, same⟩ := Result.errorOr_eq_ok_iff.mp answered
          cases same

section Execution

variable {query : Query} {store : Store}

theorem Query.execute_eq_columnNotFound_iff (uniform : Uniform columns rows)
    (loaded : (store.resolve query.source).result = .ok rows) (name : String) :
    (query.execute store).result = .error (.columnNotFound name) ↔
      (∃ condition, query.condition = some condition ∧ rows ≠ [] ∧
        condition.column ∉ columns ∧ name = condition.column) ∨
      ∃ kept, (filterRows query.condition rows).result = .ok kept ∧ kept ≠ [] ∧
        query.selection.requested.find? (· ∉ columns) = some name := by
  rw [result_execute_stages, loaded, Result.ok_bind, ← keptRows_eq_columnNotFound_iff uniform,
    result_filterRows]
  cases filtered : keptRows query.condition rows with
  | error failure => simp
  | ok kept =>
      have remaining := uniform.keptRows filtered
      rw [Result.ok_bind, Selection.result_answer,
        Selection.meaning_eq_columnNotFound_iff remaining]
      simp

theorem Uniform.execute {answer : List Row} (uniform : Uniform columns rows)
    (loaded : (store.resolve query.source).result = .ok rows)
    (answered : (query.execute store).result = .ok (.rows answer)) :
    Uniform (query.selection.columnsFrom columns) answer := by
  rw [Query.result_execute_stages, loaded, Result.ok_bind, Result.bind_eq_ok_iff] at answered
  obtain ⟨kept, filtered, selected⟩ := answered
  rw [result_filterRows] at filtered
  rw [Selection.result_answer] at selected
  exact (uniform.keptRows filtered).meaning selected

end Execution

end TableQuery
