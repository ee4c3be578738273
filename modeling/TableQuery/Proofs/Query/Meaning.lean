import TableQuery.Query.Execution
import TableQuery.Proofs.Keyed
import TableQuery.Proofs.Result
import TableQuery.Proofs.Text.ByteOrder

/-! # What a query means

A query on given rows means what it would in relational algebra: the rows that satisfy the
condition, then their named columns or their number. A fault of one row is a fault of the whole
query, and the first row with a fault decides. A fault in the condition comes before any fault in
the selection, which looks only at the rows that are left.

Nothing here goes from row to row by itself. Running a query does, stage by stage, and gives
what the query means.
-/

namespace TableQuery

/-- Natural order of a type with a decidable `<` that is total. -/
def Comparison.relates {α : Type} [LT α] [DecidableLT α] [DecidableEq α] :
    Comparison → (a b : α) → Bool
  | .eq, a, b => a = b
  | .ne, a, b => a ≠ b
  | .lt, a, b => a < b
  | .le, a, b => a < b ∨ a = b
  | .gt, a, b => b < a
  | .ge, a, b => b < a ∨ a = b

namespace Row

def fault? (row : Row) (column : String) : Option Failure :=
  if (row.cell? column).isNone then some (.columnNotFound column) else none

/-- The named columns, each once, in the order in which they are first named. -/
def select (row : Row) (names : List String) : Row where
  entries := names.eraseDups.map fun name => (name, row.text? name)
  distinct := by
    simpa [Function.comp_def] using nodup_eraseDups names

end Row

namespace Condition

/-- Why the row cannot be compared. A string can be compared with every cell. -/
def fault? (condition : Condition) (row : Row) : Option Failure :=
  match row.cell? condition.column, condition.literal with
  | none, _ => some (.columnNotFound condition.column)
  | some _, .string _ => none
  | some cell, _ => if cell.number?.isNone then some .typeMismatch else none

/-- Whether the row satisfies the condition: texts are compared by their bytes, numbers as
    doubles. -/
def satisfiedBy (condition : Condition) (row : Row) : Bool :=
  match condition.literal with
  | .string text =>
      (row.text? condition.column).any fun value =>
        condition.comparison.relates (Text.bytes value) (Text.bytes text)
  | literal =>
      match (row.cell? condition.column).bind Cell.number?, literal.number? with
      | some value, some number => condition.comparison.holds (floatOrder value number)
      | _, _ => false

end Condition

def Selection.meaning (selection : Selection) (rows : List Row) : Except Failure Answer :=
  match selection with
  | .all => .ok (.rows rows)
  | .columns names =>
      Result.errorOr (rows.findSome? fun row => names.findSome? row.fault?)
        (.rows (rows.map fun row => row.select names))
  | .count ⟨.rows, _⟩ => .ok (.count rows.length)
  | .count ⟨.column name, _⟩ =>
      Result.errorOr (rows.findSome? fun row => row.fault? name)
        (.count (rows.countP fun row => (row.text? name).any (· ≠ "")))

def keptRows (condition? : Option Condition) (rows : List Row) : Except Failure (List Row) :=
  match condition? with
  | none => .ok rows
  | some condition =>
      Result.errorOr (rows.findSome? condition.fault?) (rows.filter condition.satisfiedBy)

def Query.meaning (query : Query) (rows : List Row) : Except Failure Answer :=
  keptRows query.condition rows >>= query.selection.meaning

theorem Traced.result_bind {ε α β : Type} (first : Traced ε α) (next : α → Traced ε β) :
    (first >>= next).result = first.result >>= fun value => (next value).result := by
  obtain ⟨events, lookups, result⟩ := first
  cases result with
  | error error => rfl
  | ok value => rfl

theorem Comparison.holds_textOrder (comparison : Comparison) (a b : String) :
    comparison.holds (textOrder a b) = comparison.relates (Text.bytes a) (Text.bytes b) := by
  unfold textOrder compareOfLessAndEq
  by_cases lt : a < b
  · have ne : a ≠ b := fun same => String.lt_irrefl b (same ▸ lt)
    have notGt : ¬b < a := String.lt_asymm lt
    cases comparison <;> simp [holds, relates, Text.bytes_lt_iff, Text.bytes_inj, lt, ne, notGt]
  · by_cases eq : a = b
    · cases comparison <;> simp [holds, relates, eq]
    · have gt := Text.lt_of_not_lt_of_ne lt eq
      cases comparison <;> simp [holds, relates, Text.bytes_lt_iff, Text.bytes_inj, lt, eq, gt]

theorem Row.keys_select (row : Row) (names : List String) :
    (row.select names).keys = names.eraseDups := by
  simp [select, Keyed.keys, Function.comp_def]

theorem Row.get?_select (row : Row) (names : List String) (key : String) :
    (row.select names).get? key = if key ∈ names then some (row.text? key) else none := by
  rw [select, Keyed.get?, Keyed.lookup_map_pair]
  simp only [List.mem_eraseDups]

theorem Row.required_eq (row : Row) (column : String) :
    row.required column = Result.errorOr (row.fault? column) (row.text? column) := by
  unfold required fault? text?
  cases row.cell? column with
  | none => rfl
  | some cell => rfl

theorem Row.select_eq_ofPairs (row : Row) (names : List String) :
    row.select names = Keyed.ofPairs (names.map fun name => (name, row.text? name)) := by
  apply Keyed.ext_of_keys_of_get?
  · rw [keys_select, Keyed.keys_ofPairs, List.map_map]
    exact congrArg List.eraseDups (List.map_id names).symm
  · intro key
    rw [get?_select, Keyed.get?_ofPairs_map]

theorem Row.project_eq (row : Row) (names : List String) :
    row.project names = Result.errorOr (names.findSome? row.fault?) (row.select names) := by
  have step : (fun (projected : Row) (column : String) => do
      let cell ← row.required column
      return projected.set column cell) =
      fun projected column =>
        Result.errorOr (row.fault? column) (projected.set column (row.text? column)) := by
    funext projected column
    rw [required_eq]
    cases row.fault? column <;> rfl
  rw [project, step, Result.foldlM_errorOr, select_eq_ofPairs, Keyed.ofPairs, List.foldl_map]

theorem Condition.judge_eq (condition : Condition) (row : Row) :
    condition.judge row = Result.errorOr (condition.fault? row) (condition.satisfiedBy row) := by
  unfold judge fault? satisfiedBy Row.required Row.text?
  cases row.cell? condition.column with
  | none => rfl
  | some cell =>
      cases condition.literal with
      | string text =>
          cases cell with
          | none => rfl
          | some value => simp [Comparison.holds_textOrder]
      | integer value | float value =>
          cases number : cell.number? with
          | none => simp [number]; rfl
          | some x => simp [number, Literal.number?]

theorem Condition.filter_eq (condition : Condition) (rows : List Row) :
    condition.filter rows = Result.errorOr (rows.findSome? condition.fault?)
      (rows.filter condition.satisfiedBy) := by
  have judge : condition.judge = fun row =>
      Result.errorOr (condition.fault? row) (condition.satisfiedBy row) :=
    funext condition.judge_eq
  rw [filter, judge, Result.filterM_errorOr]

theorem foldl_count {α : Type} (p : α → Bool) (start : Nat) (xs : List α) :
    xs.foldl (fun total x => if p x then total + 1 else total) start = start + xs.countP p := by
  induction xs generalizing start with
  | nil => rfl
  | cons x xs ih =>
      rw [List.foldl_cons, ih, List.countP_cons]
      split <;> omega

theorem Counted.count_column_eq (name : String) (rows : List Row) :
    (Counted.column name).count rows =
      Result.errorOr (rows.findSome? fun row => row.fault? name)
        (rows.countP fun row => (row.text? name).any (· ≠ "")) := by
  have step : (fun (total : Nat) (row : Row) => do
      let cell ← row.required name
      return if cell.any fun text => !text.isEmpty then total + 1 else total) =
      fun total row => Result.errorOr (row.fault? name)
        (if (row.text? name).any (· ≠ "") then total + 1 else total) := by
    funext total row
    rw [Row.required_eq]
    cases row.fault? name with
    | some failure => rfl
    | none =>
        have present : (fun text : String => !text.isEmpty) = fun text => decide (text ≠ "") := by
          funext text
          rw [Bool.eq_iff_iff]
          simp
        rw [Result.errorOr_none, Result.ok_bind, present]
        rfl
  rw [count, step, Result.foldlM_errorOr, foldl_count, Nat.zero_add]

theorem result_filterRows (condition? : Option Condition) (rows : List Row) :
    (filterRows condition? rows).result = keptRows condition? rows := by
  cases condition? with
  | none => rfl
  | some condition =>
      rw [filterRows, Condition.filter_eq, keptRows]
      cases rows.findSome? condition.fault? with
      | some failure => rfl
      | none => rfl

theorem Selection.project_columns (names : List String) (rows : List Row) :
    (Selection.columns names).project rows =
      Result.errorOr (rows.findSome? fun row => names.findSome? row.fault?)
        (rows.map fun row => row.select names) := by
  have each : (fun row : Row => row.project names) = fun row =>
      Result.errorOr (names.findSome? row.fault?) (row.select names) :=
    funext fun row => row.project_eq names
  rw [project, each, Result.mapM_errorOr]

theorem Selection.result_answer (selection : Selection) (rows : List Row) :
    (selection.answer rows).result = selection.meaning rows := by
  cases selection with
  | all => rfl
  | columns names =>
      rw [answer, project_columns, meaning]
      cases rows.findSome? fun row => names.findSome? row.fault? <;> rfl
  | count aggregate =>
      obtain ⟨counted, expression⟩ := aggregate
      cases counted with
      | rows => rfl
      | column name =>
          rw [answer, Aggregate.count, Counted.count_column_eq, meaning]
          cases rows.findSome? fun row => row.fault? name <;> rfl

theorem Store.result_load (store : Store) (table : String) :
    (store.load table).result = (store.resolve table).result := by
  unfold load
  simp only [Traced.result_bind]
  cases (store.resolve table).result with
  | error failure => rfl
  | ok rows => rfl

theorem Query.result_execute_stages (query : Query) (store : Store) :
    (query.execute store).result = (do
      let rows ← (store.resolve query.source).result
      let kept ← (filterRows query.condition rows).result
      (query.selection.answer kept).result) := by
  unfold execute
  simp only [Traced.result_bind, Store.result_load]
  cases (store.resolve query.source).result with
  | error failure => rfl
  | ok rows =>
      change ((filterRows query.condition rows).result >>= fun kept =>
        (query.selection.answer kept).result >>= pure) =
          (filterRows query.condition rows).result >>= _
      simp only [bind_pure]

theorem Condition.fault?_of_string {condition : Condition} {text : String}
    (string : condition.literal = .string text) (row : Row) :
    condition.fault? row = row.fault? condition.column := by
  unfold fault? Row.fault?
  rw [string]
  cases row.cell? condition.column <;> rfl

theorem Condition.fault?_string {condition : Condition} {text : String}
    (string : condition.literal = .string text) {row : Row} {failure : Failure}
    (fault : condition.fault? row = some failure) :
    failure = .columnNotFound condition.column := by
  rw [fault?_of_string string, Row.fault?, Option.ite_none_right_eq_some] at fault
  exact (Option.some.inj fault.2).symm

theorem Row.fault?_ne_typeMismatch (row : Row) (column : String) :
    row.fault? column ≠ some .typeMismatch := by
  unfold fault?
  split <;> simp

theorem Selection.meaning_ne_typeMismatch (selection : Selection) (rows : List Row) :
    selection.meaning rows ≠ .error .typeMismatch := by
  intro mismatch
  cases selection with
  | all => cases mismatch
  | columns names =>
      rw [meaning, Result.errorOr_eq_error_iff] at mismatch
      obtain ⟨row, -, found⟩ := List.exists_of_findSome?_eq_some mismatch
      obtain ⟨name, -, fault⟩ := List.exists_of_findSome?_eq_some found
      exact row.fault?_ne_typeMismatch name fault
  | count aggregate =>
      obtain ⟨counted, expression⟩ := aggregate
      cases counted with
      | rows => cases mismatch
      | column name =>
          rw [meaning, Result.errorOr_eq_error_iff] at mismatch
          obtain ⟨row, -, fault⟩ := List.exists_of_findSome?_eq_some mismatch
          exact row.fault?_ne_typeMismatch name fault

theorem Query.meaning_ne_typeMismatch {query : Query} {condition : Condition} {text : String}
    (stated : query.condition = some condition) (string : condition.literal = .string text)
    (rows : List Row) : query.meaning rows ≠ .error .typeMismatch := by
  rw [meaning, stated, keptRows]
  cases fault : rows.findSome? condition.fault? with
  | none => exact query.selection.meaning_ne_typeMismatch _
  | some failure =>
      obtain ⟨row, -, found⟩ := List.exists_of_findSome?_eq_some fault
      rw [Condition.fault?_string string found]
      simp

end TableQuery
