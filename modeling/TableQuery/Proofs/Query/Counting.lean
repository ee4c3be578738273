import TableQuery.Proofs.Query.Meaning

/-! # Counting and listing

A count is the size of a listing that is not made. Counting all rows goes as listing them whole,
and counting a column as listing that column alone: one fails where the other does and as the other
does. Where they succeed the count is of the rows listed, or of those among them with a text in the
column that is not empty.
-/

namespace TableQuery

/-- The rows of a stored table that a query selects from. -/
def Store.kept (store : Store) (source : String) (condition? : Option Condition) :
    Except Failure (List Row) :=
  (store.resolve source).result >>= keptRows condition?

theorem Query.result_execute_kept (query : Query) (store : Store) :
    (query.execute store).result =
      store.kept query.source query.condition >>= query.selection.meaning := by
  rw [result_execute_stages, Store.kept]
  simp only [result_filterRows, Selection.result_answer]
  cases (store.resolve query.source).result with
  | error failure => rfl
  | ok rows => rfl

theorem Row.text?_select_of_mem {names : List String} {name : String} (asked : name ∈ names)
    (row : Row) : (row.select names).text? name = row.text? name := by
  rw [text?, cell?, get?_select, if_pos asked]
  rfl

theorem countP_map_select (column : String) (rows : List Row) (p : String → Bool) :
    ((rows.map fun row => row.select [column]).countP fun row => (row.text? column).any p) =
      rows.countP fun row => (row.text? column).any p := by
  have same : ∀ row : Row, (row.select [column]).text? column = row.text? column :=
    Row.text?_select_of_mem (List.mem_singleton_self column)
  simp only [List.countP_map, Function.comp_def, same]

theorem Selection.meaning_columns_singleton (column : String) (rows : List Row) :
    (Selection.columns [column]).meaning rows =
      Result.errorOr (rows.findSome? fun row => row.fault? column)
        (.rows (rows.map fun row => row.select [column])) := by
  simp only [meaning, List.findSome?_singleton]

section Counts

variable (store : Store) (source : String) (condition? : Option Condition) (label : String)

theorem Query.count_rows_eq_ok_iff (n : Nat) :
    (Query.execute ⟨.count ⟨.rows, label⟩, source, condition?⟩ store).result = .ok (.count n) ↔
      ∃ rows, (Query.execute ⟨.all, source, condition?⟩ store).result = .ok (.rows rows) ∧
        n = rows.length := by
  rw [result_execute_kept, result_execute_kept]
  cases store.kept source condition? with
  | error failure => simp
  | ok rows => simp [Selection.meaning, eq_comm]

theorem Query.count_rows_eq_error_iff (failure : Failure) :
    (Query.execute ⟨.count ⟨.rows, label⟩, source, condition?⟩ store).result = .error failure ↔
      (Query.execute ⟨.all, source, condition?⟩ store).result = .error failure := by
  rw [result_execute_kept, result_execute_kept]
  cases store.kept source condition? with
  | error other => rfl
  | ok rows => simp [Selection.meaning]

variable (column : String)

theorem Query.count_column_eq_ok_iff (n : Nat) :
    (Query.execute ⟨.count ⟨.column column, label⟩, source, condition?⟩ store).result =
        .ok (.count n) ↔
      ∃ rows, (Query.execute ⟨.columns [column], source, condition?⟩ store).result =
          .ok (.rows rows) ∧
        n = rows.countP fun row => (row.text? column).any (· ≠ "") := by
  rw [result_execute_kept, result_execute_kept]
  cases store.kept source condition? with
  | error failure => simp
  | ok rows =>
      rw [Result.ok_bind, Result.ok_bind, Selection.meaning_columns_singleton, Selection.meaning]
      cases rows.findSome? fun row => row.fault? column with
      | some failure => simp
      | none => simp [← countP_map_select column rows, eq_comm]

theorem Query.count_column_eq_error_iff (failure : Failure) :
    (Query.execute ⟨.count ⟨.column column, label⟩, source, condition?⟩ store).result =
        .error failure ↔
      (Query.execute ⟨.columns [column], source, condition?⟩ store).result = .error failure := by
  rw [result_execute_kept, result_execute_kept]
  cases store.kept source condition? with
  | error other => rfl
  | ok rows =>
      rw [Result.ok_bind, Result.ok_bind, Selection.meaning_columns_singleton, Selection.meaning]
      cases rows.findSome? fun row => row.fault? column with
      | some other => simp
      | none => simp

theorem Query.exists_count_rows_of_count_column {n : Nat}
    (counted : (Query.execute ⟨.count ⟨.column column, label⟩, source, condition?⟩ store).result =
      .ok (.count n)) (other : String) :
    ∃ m, (Query.execute ⟨.count ⟨.rows, other⟩, source, condition?⟩ store).result =
      .ok (.count m) ∧ n ≤ m := by
  rw [result_execute_kept] at counted ⊢
  cases kept : store.kept source condition? with
  | error failure =>
      rw [kept] at counted
      cases counted
  | ok rows =>
      rw [kept, Result.ok_bind, Selection.meaning, Result.errorOr_eq_ok_iff] at counted
      obtain ⟨-, same⟩ := counted
      obtain rfl := Answer.count.inj same
      exact ⟨rows.length, rfl, List.countP_le_length⟩

end Counts

/-- Whatever the store, the source and the condition, a count of rows is the length of the listing
    of whole rows, and a count of a column is the number of texts that are not empty in the listing
    of that column; each has an answer where its listing has one and otherwise the same failure. -/
theorem Query.counts_agree (store : Store) (source : String) (condition? : Option Condition) :
    (∀ label,
      (∀ n, (Query.execute ⟨.count ⟨.rows, label⟩, source, condition?⟩ store).result =
          .ok (.count n) ↔
        ∃ rows, (Query.execute ⟨.all, source, condition?⟩ store).result = .ok (.rows rows) ∧
          n = rows.length) ∧
      ∀ failure, (Query.execute ⟨.count ⟨.rows, label⟩, source, condition?⟩ store).result =
          .error failure ↔
        (Query.execute ⟨.all, source, condition?⟩ store).result = .error failure) ∧
    ∀ column label,
      (∀ n, (Query.execute ⟨.count ⟨.column column, label⟩, source, condition?⟩ store).result =
          .ok (.count n) ↔
        ∃ rows, (Query.execute ⟨.columns [column], source, condition?⟩ store).result =
            .ok (.rows rows) ∧
          n = rows.countP fun row => (row.text? column).any (· ≠ "")) ∧
      (∀ n, (Query.execute ⟨.count ⟨.column column, label⟩, source, condition?⟩ store).result =
          .ok (.count n) →
        ∀ other, ∃ m, (Query.execute ⟨.count ⟨.rows, other⟩, source, condition?⟩ store).result =
          .ok (.count m) ∧ n ≤ m) ∧
      ∀ failure, (Query.execute ⟨.count ⟨.column column, label⟩, source, condition?⟩ store).result =
          .error failure ↔
        (Query.execute ⟨.columns [column], source, condition?⟩ store).result = .error failure := by
  constructor
  · intro label
    exact ⟨count_rows_eq_ok_iff store source condition? label,
      count_rows_eq_error_iff store source condition? label⟩
  · intro column label
    exact ⟨count_column_eq_ok_iff store source condition? label column,
      fun n => exists_count_rows_of_count_column store source condition? label column,
      count_column_eq_error_iff store source condition? label column⟩

/-- A text, an absent cell and an empty text are three rows and one that counts. A column that is
    not there fails as it does in a listing. -/
theorem Query.counts_agree_sparse :
    ∃ store : Store,
      (store.resolve "t").result = .ok [⟨[("a", some "x")], by decide⟩, ⟨[("a", none)], by decide⟩,
        ⟨[("a", some "")], by decide⟩] ∧
      (Query.execute ⟨.count ⟨.column "a", "COUNT(a)"⟩, "t", none⟩ store).result =
        .ok (.count 1) ∧
      (∃ m, (Query.execute ⟨.count ⟨.rows, "COUNT(*)"⟩, "t", none⟩ store).result =
        .ok (.count m) ∧ 1 ≤ m) ∧
      (Query.execute ⟨.count ⟨.column "b", "COUNT(b)"⟩, "t", none⟩ store).result =
        .error (.columnNotFound "b") := by
  let store : Store := ⟨fun _ => Traced.ofExcept (.ok [⟨[("a", some "x")], by decide⟩,
    ⟨[("a", none)], by decide⟩, ⟨[("a", some "")], by decide⟩])⟩
  obtain ⟨-, columns⟩ := counts_agree store "t" none
  have counted := ((columns "a" "COUNT(a)").1 1).mpr ⟨_, by rfl, by rfl⟩
  refine ⟨store, rfl, counted, (columns "a" "COUNT(a)").2.1 1 counted "COUNT(*)", ?_⟩
  exact ((columns "b" "COUNT(b)").2.2 _).mpr (by rfl)

end TableQuery
