import TableQuery.Proofs.Query.CanonicalReading
import TableQuery.Proofs.Query.Counting

/-! # Counting a column by a condition

A count of a column is the number of rows that one condition leaves: that the text in the column
differs from the empty text. No text is there in an absent cell, and nothing that is not there
differs from a text, so absent cells are left out by both. A row without the column is a fault of
both.

Where the name of the column can stand between the parentheses of a count and before a comparison,
the two are asked for by two texts, with one answer on every store.
-/

namespace TableQuery

open Text

/-- That a column has a text, and not the empty one. -/
def Condition.filled (column : String) : Condition := ⟨column, .ne, .string ""⟩

section Rows

variable (column : String) (rows : List Row)

theorem Condition.satisfiedBy_filled (row : Row) :
    (filled column).satisfiedBy row = (row.text? column).any (· ≠ "") := by
  simp [satisfiedBy, filled, Comparison.relates, bytes_inj]

theorem keptRows_filled :
    keptRows (some (.filled column)) rows =
      Result.errorOr (rows.findSome? fun row => row.fault? column)
        (rows.filter fun row => (row.text? column).any (· ≠ "")) := by
  have fault : (Condition.filled column).fault? = fun row => row.fault? column :=
    funext (Condition.fault?_of_string rfl)
  have satisfied : (Condition.filled column).satisfiedBy =
      fun row => (row.text? column).any (· ≠ "") :=
    funext (Condition.satisfiedBy_filled column)
  rw [keptRows, fault, satisfied]

theorem Counted.count_column_eq_map_length :
    (Counted.column column).count rows =
      (keptRows (some (.filled column)) rows).map List.length := by
  rw [count_column_eq, keptRows_filled, List.countP_eq_length_filter]
  cases rows.findSome? fun row => row.fault? column <;> rfl

theorem Aggregate.result_count (aggregate : Aggregate) :
    (aggregate.count rows).result = aggregate.counted.count rows := by
  rw [count]
  cases aggregate.counted.count rows <;> rfl

end Rows

theorem Query.result_execute_count_column (store : Store) (source column : String)
    (label other : String) :
    (execute ⟨.count ⟨.column column, label⟩, source, none⟩ store).result =
      (execute ⟨.count ⟨.rows, other⟩, source, some (.filled column)⟩ store).result := by
  rw [result_execute_kept, result_execute_kept, Store.kept, Store.kept]
  cases (store.resolve source).result with
  | error failure => rfl
  | ok rows =>
      rw [Result.ok_bind, Result.ok_bind, keptRows_filled]
      simp only [keptRows, Result.ok_bind, Selection.meaning, List.countP_eq_length_filter]
      cases rows.findSome? fun row => row.fault? column <;> rfl

section Texts

variable {column source : String}

theorem Query.recognize_count_column (selectable : Selectable column) (nonempty : column ≠ "")
    (notAll : column ≠ "*") (plain : PlainSource source) :
    recognize ("SELECT COUNT(" ++ column ++ ") FROM " ++ source) =
      .ok ⟨.count ⟨.column column, "COUNT(" ++ column ++ ")"⟩, source, none⟩ := by
  have expressible : Expressible ⟨.count ⟨.column column, ""⟩, source, none⟩ :=
    { selection := .countColumn selectable nonempty notAll
      sourceTrimmed := plain.trimmed
      noWhere := plain.noWhere
      condition := nofun
      noSemicolon := fun _ => plain.noSemicolon }
  have same : "SELECT COUNT(" ++ column ++ ") FROM " ++ source =
      text ⟨.count ⟨.column column, ""⟩, source, none⟩ := by
    rw [← String.toList_inj]
    simp [text, Selection.text, Aggregate.text, Counted.text]
  rw [same]
  exact recognize_text expressible nofun

theorem Query.recognize_count_filled (trimmed : Trimmed column.toList)
    (noComparison : ∀ c ∈ column.toList, c ≠ '=' ∧ c ≠ '<' ∧ c ≠ '>')
    (plain : PlainSource source) :
    recognize ("SELECT COUNT(*) FROM " ++ source ++ " WHERE " ++ column ++ " != ''") =
      .ok ⟨.count ⟨.rows, "COUNT(*)"⟩, source, some (.filled column)⟩ := by
  have expressible : Expressible ⟨.count ⟨.rows, ""⟩, source, some (.filled column)⟩ :=
    { selection := .countRows
      sourceTrimmed := plain.trimmed
      noWhere := plain.noWhere
      condition := by
        rintro _ ⟨⟩
        exact ⟨trimmed, noComparison⟩
      noSemicolon := nofun }
  have reads : (Condition.filled column).literal.ReadsAs
      (Condition.filled column).literal.text.toList := by
    simpa [Condition.filled, Literal.text] using Literal.readsAs_quoted ""
  have same : "SELECT COUNT(*) FROM " ++ source ++ " WHERE " ++ column ++ " != ''" =
      text ⟨.count ⟨.rows, ""⟩, source, some (.filled column)⟩ := by
    rw [← String.toList_inj]
    simp [text, Selection.text, Aggregate.text, Counted.text, Condition.text, Condition.filled,
      Comparison.symbol, Literal.text]
  rw [same]
  refine recognize_text expressible ?_
  rintro _ ⟨⟩
  exact reads

end Texts

/-- Whatever the rows, a column is counted where the condition that it is filled can be checked, as
    many rows are counted as the condition leaves, and a failure of one is that of the other. So the
    two texts have the same answer on every store, if the column can be named in both. -/
theorem Query.count_column_as_filter :
    (∀ (column label : String) (rows : List Row),
      (∀ n, (Aggregate.count ⟨.column column, label⟩ rows).result = .ok n ↔
        ∃ kept, (filterRows (some (.filled column)) rows).result = .ok kept ∧ kept.length = n) ∧
      ∀ failure, (Aggregate.count ⟨.column column, label⟩ rows).result = .error failure ↔
        (filterRows (some (.filled column)) rows).result = .error failure) ∧
    ∀ column source : String, Selectable column → column ≠ "" → column ≠ "*" →
      (∀ c ∈ column.toList, c ≠ '=' ∧ c ≠ '<' ∧ c ≠ '>') → PlainSource source →
      ∃ counting filtering,
        recognize ("SELECT COUNT(" ++ column ++ ") FROM " ++ source) = .ok counting ∧
        recognize ("SELECT COUNT(*) FROM " ++ source ++ " WHERE " ++ column ++ " != ''") =
          .ok filtering ∧
        ∀ store, (counting.execute store).result = (filtering.execute store).result := by
  constructor
  · intro column label rows
    simp only [Aggregate.result_count, Counted.count_column_eq_map_length, result_filterRows]
    exact ⟨fun n => Result.map_eq_ok_iff, fun failure => Result.map_eq_error_iff⟩
  · intro column source selectable nonempty notAll noComparison plain
    exact ⟨_, _, recognize_count_column selectable nonempty notAll plain,
      recognize_count_filled selectable.1 noComparison plain,
      fun store => result_execute_count_column store source column _ _⟩

/-- Of a text, an absent cell and an empty text one is counted and one is left. A parenthesis and
    half a comparison in its name do not keep a column from being asked for in both texts. -/
theorem Query.count_column_as_filter_sparse :
    (Aggregate.count ⟨.column "a", "COUNT(a)"⟩ [⟨[("a", some "x")], by decide⟩,
      ⟨[("a", none)], by decide⟩, ⟨[("a", some "")], by decide⟩]).result = .ok 1 ∧
    (Aggregate.count ⟨.column "b", "COUNT(b)"⟩ [⟨[("a", some "x")], by decide⟩]).result =
      .error (.columnNotFound "b") ∧
    ∃ counting filtering,
      recognize "SELECT COUNT(a) !) FROM t" = .ok counting ∧
      recognize "SELECT COUNT(*) FROM t WHERE a) ! != ''" = .ok filtering ∧
      ∀ store, (counting.execute store).result = (filtering.execute store).result := by
  obtain ⟨rows, texts⟩ := count_column_as_filter
  refine ⟨((rows "a" "COUNT(a)" _).1 1).mpr ⟨[⟨[("a", some "x")], by decide⟩], ?_, rfl⟩,
    ((rows "b" "COUNT(b)" _).2 _).mpr (by rfl), ?_⟩
  · rw [result_filterRows, keptRows_filled]
    rfl
  · exact texts "a) !" "t" (by decide) (by decide) (by decide) (by simp) (by decide)

end TableQuery
