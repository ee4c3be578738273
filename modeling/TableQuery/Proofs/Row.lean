import TableQuery.Shipping
import TableQuery.Proofs.Delimited.UniformTable

/-! # Rows by the pairs they are made of

Wherever a row comes from, it is made by setting pairs of a column and a cell, one after another,
from the empty row on. So it has each column once, where the column first came, and in it the cell
of the last pair with that column. Its columns and its cells are two lists side by side: setting a
cell finds its column in the one and writes to the same place in the other, or adds to both.
-/

namespace TableQuery

namespace Row

/-- The row that comes of the pairs, whoever sets them: a host with texts or one by one, the reader
    of shipped rows, the reader of tables, or a projection. A copy of a row is that row. -/
inductive Made : List (String × Cell) → Row → Prop where
  | empty : Made [] Keyed.empty
  | ofTexts (pairs : List (String × String)) :
      Made (pairs.map fun pair => (pair.1, some pair.2))
        (Keyed.ofPairs (pairs.map fun pair => (pair.1, some pair.2)))
  | set {pairs : List (String × Cell)} {row : Row} (column : String) (cell : Cell) :
      Made pairs row → Made (pairs ++ [(column, cell)]) (row.set column cell)
  /-- A shipped row has as many columns as values. -/
  | shipped {form : Json} {raw : Shipping.RawRow} {row : Row} :
      Shipping.rawRow? form = .ok raw → Shipping.row? form = .ok row →
        Made (raw.columns.zip raw.values) row
  | loaded {table : String} {delimiter : Char} {text : List Char}
      {records : List Delimited.Record} {rows : List Row} {i : Nat} {record : Delimited.Record}
      {row : Row} :
      Delimited.readRecords delimiter (Delimited.dropByteOrderMark text) = .ok records →
        (Delimited.readTable table delimiter text).result = .ok rows →
        records.tail[i]? = some record → rows[i]? = some row →
        Made (Delimited.alignCells (Delimited.headerOf records) record.fields) row
  /-- Each requested column that the row has, with its cell. -/
  | projected {row projected : Row} {names : List String} :
      row.project names = .ok projected →
        Made (names.map fun name => (name, row.text? name)) projected

/-- A row as the pairs say: the columns in the order in which they first come, each once, and in
    each the cell of its last pair. A column that no pair names is missing. -/
structure LastSet (pairs : List (String × Cell)) (row : Row) : Prop where
  paired : row.columns.length = row.values.length
  distinct : row.columns.Nodup
  columns : row.columns = (pairs.map Prod.fst).eraseDups
  cells : ∀ column, row.cell? column = pairs.reverse.lookup column

theorem lastSet_ofPairs (pairs : List (String × Cell)) : LastSet pairs (Keyed.ofPairs pairs) where
  paired := by rw [columns, Keyed.keys, Keyed.values, List.length_map, List.length_map]
  distinct := (Keyed.ofPairs pairs).distinct
  columns := Keyed.keys_ofPairs pairs
  cells := Keyed.get?_ofPairs pairs

theorem row?_eq_ofPairs {form : Json} {raw : Shipping.RawRow} {row : Row}
    (read : Shipping.rawRow? form = .ok raw) (shipped : Shipping.row? form = .ok row) :
    row = Keyed.ofPairs (raw.columns.zip raw.values) := by
  rw [Shipping.row?, read, Result.ok_bind, Shipping.RawRow.toRow] at shipped
  split at shipped
  · exact (Except.ok.inj shipped).symm
  · cases shipped

theorem rowOf_of_getElem? {table : String} {delimiter : Char} {text : List Char}
    {records : List Delimited.Record} {rows : List Row} {i : Nat} {record : Delimited.Record}
    {row : Row}
    (read : Delimited.readRecords delimiter (Delimited.dropByteOrderMark text) = .ok records)
    (loaded : (Delimited.readTable table delimiter text).result = .ok rows)
    (recorded : records.tail[i]? = some record) (found : rows[i]? = some row) :
    row = Delimited.rowOf (Delimited.headerOf records) record.fields := by
  obtain ⟨others, same, rfl⟩ := Delimited.exists_readRecords_of_readTable loaded
  obtain rfl := Except.ok.inj (read.symm.trans same)
  rw [List.getElem?_map, recorded] at found
  exact (Option.some.inj found).symm

theorem project_eq_ofPairs {row projected : Row} {names : List String}
    (done : row.project names = .ok projected) :
    projected = Keyed.ofPairs (names.map fun name => (name, row.text? name)) := by
  rw [project_eq, Result.errorOr_eq_ok_iff, select_eq_ofPairs] at done
  exact done.2.symm

/-- Every way to make a row comes down to setting its pairs from the empty row on. -/
theorem Made.eq_ofPairs {pairs : List (String × Cell)} {row : Row} (made : Made pairs row) :
    row = Keyed.ofPairs pairs := by
  induction made with
  | empty => rfl
  | ofTexts pairs => rfl
  | set column cell _ ih =>
      rw [ih, Keyed.ofPairs, Keyed.ofPairs, List.foldl_append, List.foldl_cons, List.foldl_nil]
  | shipped read shipped => exact row?_eq_ofPairs read shipped
  | loaded read loaded recorded found => exact rowOf_of_getElem? read loaded recorded found
  | projected done => exact project_eq_ofPairs done

theorem columns_values_set (row : Row) (column : String) (cell : Cell) :
    (columns (row.set column cell), (row.set column cell).values) =
      match row.position? column with
      | some i => (row.columns, row.values.set i cell)
      | none => (row.columns ++ [column], row.values ++ [cell]) := by
  rw [columns, Keyed.keys_set, Keyed.values_set]
  cases found : row.position? column with
  | none => rw [if_neg (List.idxOf?_eq_none_iff.mp found)]; rfl
  | some i =>
      rw [if_pos (Keyed.mem_keys_of_position? found)]
      rfl

/-- Setting pairs on the empty row, as all that makes rows does, gives each column once where it
    first came and with its last cell; columns and cells are written in step and read by position.
    A column that was set keeps its position from then on, and setting another leaves its cell and
    its position alone. -/
theorem lastSet_of_made :
    (∀ pairs : List (String × Cell),
      LastSet pairs (pairs.foldl (fun (row : Row) pair => row.set pair.1 pair.2) Keyed.empty)) ∧
    (∀ pairs row, Made pairs row → LastSet pairs row) ∧
    (∀ (row : Row) column cell,
      (columns (row.set column cell), (row.set column cell).values) =
        match row.position? column with
        | some i => (row.columns, row.values.set i cell)
        | none => (row.columns ++ [column], row.values ++ [cell])) ∧
    (∀ (row : Row) column,
      row.cell? column = (row.position? column).bind fun i => row.values[i]?) ∧
    (∀ (row : Row) column i, row.position? column = some i → ∀ pairs : List (String × Cell),
      Keyed.position? (pairs.foldl (fun (row : Row) pair => row.set pair.1 pair.2) row) column =
        some i) ∧
    ∀ (row : Row) column cell other, other ≠ column →
      cell? (row.set column cell) other = row.cell? other ∧
        (row.set column cell).position? other = row.position? other := by
  refine ⟨lastSet_ofPairs, ?_, columns_values_set, Keyed.get?_eq_getElem?, ?_, ?_⟩
  · intro pairs row made
    rw [made.eq_ofPairs]
    exact lastSet_ofPairs pairs
  · intro row column i found pairs
    rw [Keyed.position?_foldl_set (Keyed.mem_keys_of_position? found), found]
  · intro row column cell other different
    refine ⟨?_, Keyed.position?_set_of_ne different row cell⟩
    rw [cell?, cell?, Keyed.get?_set, if_neg different]

/-- A shipped row that names a column twice, the second time without a text. -/
theorem lastSet_of_made_repeated :
    ∃ row, Shipping.row? (.array [.array [.string "a", .string "b", .string "a"],
        .array [.string "1", .string "2", .null]]) = .ok row ∧
      row.columns = ["a", "b"] ∧ row.cell? "a" = some none ∧ row.cell? "c" = none ∧
      (row.set "c" none).position? "b" = some 1 ∧
      cell? (row.set "a" none) "b" = some (some "2") := by
  have read : Shipping.rawRow? (.array [.array [.string "a", .string "b", .string "a"],
      .array [.string "1", .string "2", .null]]) =
        .ok ⟨["a", "b", "a"], [some "1", some "2", none]⟩ := rfl
  obtain ⟨-, law, -, -, stays, others⟩ := lastSet_of_made
  have last := law _ _ (.shipped read rfl)
  refine ⟨_, by rfl, last.columns, last.cells "a", last.cells "c", ?_, ?_⟩
  · exact stays _ "b" 1 rfl [("c", none)]
  · rw [(others _ "a" none "b" (by decide)).1]
    exact last.cells "b"

end Row

end TableQuery
