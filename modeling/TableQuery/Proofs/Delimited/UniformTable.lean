import TableQuery.Console
import TableQuery.Proofs.Delimited.Reading
import TableQuery.Proofs.Query.UniformRows

/-! # Tables under one header

The rows of a table's text all have the columns of its header, whatever their records hold: each
name once where it first stands, with the field at the place where it stands last. A query on such
a table misses a column by the header alone, and the rows it answers with have one list of columns.
-/

namespace TableQuery.Delimited

/-- A row that has each name of the header once, in the order of first coming, and under it the
    field at its last place, absent where the record is too short. -/
structure LastAligned (header fields : List String) (row : Row) : Prop where
  columns : row.columns = header.eraseDups
  cells : ∀ (i : Nat) (column : String), header[i]? = some column →
    column ∉ header.drop (i + 1) → row.cell? column = some fields[i]?

theorem alignCells_cons (column : String) (header fields : List String) :
    alignCells (column :: header) fields =
      (column, fields.head?) :: alignCells header fields.tail := by
  cases fields <;> rfl

theorem alignCells_append (left right fields : List String) :
    alignCells (left ++ right) fields =
      alignCells left fields ++ alignCells right (fields.drop left.length) := by
  induction left generalizing fields with
  | nil => rfl
  | cons column left ih =>
      rw [List.cons_append, alignCells_cons, alignCells_cons, ih, List.cons_append, List.drop_tail,
        List.length_cons]

theorem lastAligned_rowOf (header fields : List String) :
    LastAligned header fields (rowOf header fields) := by
  constructor
  case columns =>
    rw [Row.columns, rowOf, Keyed.keys_ofPairs, keys_alignCells]
  case cells =>
    intro i column named last
    obtain ⟨inside, rfl⟩ := List.getElem?_eq_some_iff.mp named
    have split := alignCells_append (header.take i) (header.drop i) fields
    rw [List.take_append_drop, List.drop_eq_getElem_cons inside, alignCells_cons,
      List.length_take_of_le (Nat.le_of_lt inside), List.head?_drop] at split
    rw [Row.cell?, rowOf, split]
    refine Keyed.get?_ofPairs_append_cons ?_
    rwa [keys_alignCells]

def headerOf (records : List Record) : List String := (records.head?.map Record.fields).getD []

def ragged (records : List Record) : List Record :=
  records.tail.filter fun record => record.fields.length ≠ (headerOf records).length

def raggedReport (table : String) (records : List Record) : List Event :=
  (ragged records).map fun record =>
    .widthDiffers table record.line record.fields.length (headerOf records).length

theorem filterMap_widthEvent? (table : String) (header : List String) (records : List Record) :
    records.filterMap (widthEvent? table header) =
      (records.filter fun record => record.fields.length ≠ header.length).map fun record =>
        .widthDiffers table record.line record.fields.length header.length := by
  induction records with
  | nil => rfl
  | cons record records ih =>
      rw [List.filterMap_cons, List.filter_cons, ih, widthEvent?]
      by_cases fits : record.fields.length = header.length
      · simp [fits]
      · simp [fits]

theorem readTable_of_records {table : String} {delimiter : Char} {text : List Char}
    {records : List Record}
    (read : readRecords delimiter (dropByteOrderMark text) = .ok records) :
    readTable table delimiter text = ⟨raggedReport table records, [],
      .ok (records.tail.map fun record => rowOf (headerOf records) record.fields)⟩ := by
  rw [readTable, read]
  cases records with
  | nil => rfl
  | cons header records =>
      simp only [Traced.emitAll, Traced.ok_bind, Traced.pure_eq, List.append_nil,
        filterMap_widthEvent?]
      rfl

theorem exists_readRecords_of_readTable {table : String} {delimiter : Char} {text : List Char}
    {rows : List Row} (accepted : (readTable table delimiter text).result = .ok rows) :
    ∃ records, readRecords delimiter (dropByteOrderMark text) = .ok records ∧
      rows = records.tail.map fun record => rowOf (headerOf records) record.fields := by
  cases read : readRecords delimiter (dropByteOrderMark text) with
  | error fault =>
      rw [readTable, read] at accepted
      cases accepted
  | ok records =>
      rw [readTable_of_records read] at accepted
      exact ⟨records, rfl, (Except.ok.inj accepted).symm⟩

theorem answerLines_of_uniform {columns : List String} {answer : List Row}
    (uniform : Uniform columns answer) (present : answer ≠ []) :
    (Console.answerLines (.rows answer))[1]? = some (String.intercalate "  " columns) := by
  cases answer with
  | nil => exact absurd rfl present
  | cons first rest => rw [← uniform first List.mem_cons_self]; rfl

/-- Whatever the records of a table hold, its rows have the columns of the header, each with the
    field at its last place. A query on the table misses a column by the header alone: that of its
    condition when there is a row, or else the first one requested when a row is kept. Rows that it
    answers with have the same columns, and the console's header line names those. -/
theorem columns_by_header {table : String} {delimiter : Char} {text : List Char}
    {rows : List Row} (accepted : (readTable table delimiter text).result = .ok rows) :
    ∃ records, readRecords delimiter (dropByteOrderMark text) = .ok records ∧
      rows.length = records.tail.length ∧
      (∀ (i : Nat) (record : Record) (row : Row), records.tail[i]? = some record →
        rows[i]? = some row → LastAligned (headerOf records) record.fields row) ∧
      ∀ (query : Query) (store : Store), (store.resolve query.source).result = .ok rows →
        (∀ name, (query.execute store).result = .error (.columnNotFound name) ↔
          (∃ condition, query.condition = some condition ∧ rows ≠ [] ∧
            condition.column ∉ headerOf records ∧ name = condition.column) ∨
          ∃ kept, (filterRows query.condition rows).result = .ok kept ∧ kept ≠ [] ∧
            query.selection.requested.find? (· ∉ headerOf records) = some name) ∧
        ∀ answer, (query.execute store).result = .ok (.rows answer) →
          Uniform (query.selection.columnsFrom (headerOf records).eraseDups) answer ∧
            (answer ≠ [] → (Console.answerLines (.rows answer))[1]? = some
              (String.intercalate "  "
                (query.selection.columnsFrom (headerOf records).eraseDups))) := by
  obtain ⟨records, read, rfl⟩ := exists_readRecords_of_readTable accepted
  have aligned : ∀ record : Record, LastAligned (headerOf records) record.fields
      (rowOf (headerOf records) record.fields) :=
    fun record => lastAligned_rowOf _ _
  have uniform : Uniform (headerOf records).eraseDups
      (records.tail.map fun record => rowOf (headerOf records) record.fields) := by
    intro row member
    obtain ⟨record, -, rfl⟩ := List.mem_map.mp member
    exact (aligned record).columns
  refine ⟨records, read, List.length_map _, ?_, ?_⟩
  · intro i record row recorded found
    rw [List.getElem?_map, recorded] at found
    obtain rfl := Option.some.inj found
    exact aligned record
  · intro query store loaded
    constructor
    · intro name
      have missing := Query.execute_eq_columnNotFound_iff uniform loaded name
      simpa only [List.mem_eraseDups] using missing
    · intro answer answered
      have selected := uniform.execute loaded answered
      exact ⟨selected, answerLines_of_uniform selected⟩

/-- A name twice in the header, a record too short for its second place, and a request for two
    columns that are not there. -/
theorem columns_by_header_twice :
    ∃ rows, (readTable "t" ',' "k,v,k\n1,2,3\n4".toList).result = .ok rows ∧
      (∀ row, rows[0]? = some row → row.columns = ["k", "v"] ∧ row.cell? "k" = some (some "3")) ∧
      (∀ row, rows[1]? = some row → row.cell? "k" = some none) ∧
      (Query.execute ⟨.columns ["v", "y", "z"], "t", none⟩
        ⟨fun _ => Traced.ofExcept (.ok rows)⟩).result = .error (.columnNotFound "y") := by
  have accepted : (readTable "t" ',' "k,v,k\n1,2,3\n4".toList).result =
      .ok [rowOf ["k", "v", "k"] ["1", "2", "3"], rowOf ["k", "v", "k"] ["4"]] := by rfl
  obtain ⟨records, read, -, aligned, queries⟩ := columns_by_header accepted
  have known : readRecords ',' (dropByteOrderMark "k,v,k\n1,2,3\n4".toList) =
      .ok [⟨1, ["k", "v", "k"]⟩, ⟨2, ["1", "2", "3"]⟩, ⟨3, ["4"]⟩] := by rfl
  obtain rfl := Except.ok.inj (known.symm.trans read)
  refine ⟨_, accepted, ?_, ?_, ?_⟩
  · intro row found
    have first := aligned 0 _ row rfl found
    exact ⟨first.columns, first.cells 2 "k" rfl (by decide)⟩
  · intro row found
    exact (aligned 1 _ row rfl found).cells 2 "k" rfl (by decide)
  · refine ((queries _ _ rfl).1 "y").mpr (.inr ⟨_, rfl, by decide, ?_⟩)
    decide

end TableQuery.Delimited
