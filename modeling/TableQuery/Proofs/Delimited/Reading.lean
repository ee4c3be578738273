import TableQuery.Proofs.Delimited.Layout
import TableQuery.Proofs.Keyed

/-! # Tables are read from their layouts

The invariant of the reader is what it holds after each character, line numbers apart. Between
records it holds nothing but records; inside a record the finished fields come with it, and
inside a field the characters of the field. Each part of a layout takes the reader from one such
state to the next, so a layout is read part by part.
-/

namespace TableQuery.Delimited

namespace Reader

/-- What the reader has read so far, apart from the lines it was on. -/
structure Holds (r : Reader) (records : List (List String)) (fields : List String)
    (field : List Char) (place : Place) (begun : Bool) : Prop where
  records : r.records.toList.map Record.fields = records
  fields : r.fields.toList = fields
  field : r.field = String.ofList field
  place : r.place = place
  begun : r.begun = begun

/-- Outside quotes, be it after a closing quote. -/
def Settled (place : Place) : Prop := place = .plain ∨ place = .closing

theorem Settled.ne_quoted {place : Place} (h : Settled place) : place ≠ .quoted := by
  rcases h with rfl | rfl <;> decide

section Holds

variable {r : Reader} {records : List (List String)} {fields : List String} {field : List Char}
  {place : Place} {begun : Bool}

theorem holds_start : start.Holds [] [] [] .plain false := ⟨rfl, rfl, rfl, rfl, rfl⟩

theorem Holds.moved (h : r.Holds records fields field place begun) (next : Place) :
    Holds { r with place := next } records fields field next begun :=
  ⟨h.records, h.fields, h.field, rfl, h.begun⟩

theorem Holds.counted (h : r.Holds records fields field place begun) (line : Nat) :
    Holds { r with line := line } records fields field place begun :=
  ⟨h.records, h.fields, h.field, h.place, h.begun⟩

theorem Holds.put (h : r.Holds records fields field place begun) (c : Char) :
    (r.put c).Holds records fields (field ++ [c]) place true := by
  refine ⟨h.records, h.fields, ?_, h.place, rfl⟩
  rw [String.ofList_append, ← h.field]
  rfl

theorem Holds.endField (h : r.Holds records fields field place begun) :
    r.endField.Holds records (fields ++ [String.ofList field]) [] place true := by
  refine ⟨h.records, ?_, rfl, h.place, rfl⟩
  simp [Reader.endField, h.fields, h.field]

theorem Holds.endRecord (h : r.Holds records fields field place true) :
    r.endRecord.Holds (records ++ [fields ++ [String.ofList field]]) [] [] place false := by
  have begun : r.begun = true := h.begun
  rw [Reader.endRecord, if_pos begun]
  refine ⟨?_, rfl, rfl, h.place, rfl⟩
  simp [h.records, h.fields, h.field]

theorem endRecord_eq_self (h : r.Holds records fields field place false) : r.endRecord = r := by
  have begun : ¬r.begun = true := by simp [h.begun]
  rw [Reader.endRecord, if_neg begun]

theorem Holds.endLine_of_endRecord (h : r.endRecord.Holds records fields field place begun) :
    r.endLine.Holds records fields field place begun :=
  ⟨h.records, h.fields, h.field, h.place, h.begun⟩

theorem Holds.endLine_begun (h : r.Holds records fields field place true) :
    r.endLine.Holds (records ++ [fields ++ [String.ofList field]]) [] [] place false :=
  h.endRecord.endLine_of_endRecord

theorem Holds.endLine_empty (h : r.Holds records [] [] place false) :
    r.endLine.Holds records [] [] place false := by
  rw [← endRecord_eq_self h] at h
  exact h.endLine_of_endRecord

end Holds

section Step

variable {delimiter : Char} {r : Reader} {records : List (List String)} {fields : List String}
  {field : List Char} {place : Place} {begun : Bool}

theorem Holds.step_ordinary (h : r.Holds records fields field .plain begun) {c : Char}
    (ordinary : Ordinary delimiter c) :
    (r.step delimiter c).Holds records fields (field ++ [c]) .plain true := by
  obtain ⟨notQuote, notDelimiter, notReturn, notNewline⟩ := ordinary
  simp only [step, h.place, stepPlain, notQuote, notDelimiter, notReturn, notNewline, false_and,
    if_false]
  exact h.put c

theorem Holds.step_open (h : r.Holds records fields [] .plain begun) (delimiter : Char) :
    (r.step delimiter '"').Holds records fields [] .quoted true := by
  have empty : r.field = "" := h.field
  simp only [step, h.place, stepPlain, empty, and_self, if_true]
  exact ⟨h.records, h.fields, rfl, rfl, rfl⟩

theorem Holds.step_quoted (h : r.Holds records fields field .quoted begun) (delimiter : Char)
    {c : Char} (notQuote : c ≠ '"') :
    (r.step delimiter c).Holds records fields (field ++ [c]) .quoted true := by
  simp only [step, h.place, notQuote, if_false]
  split
  next => exact (h.put c).counted _
  next => exact h.put c

theorem Holds.step_close (h : r.Holds records fields field .quoted begun) (delimiter : Char) :
    (r.step delimiter '"').Holds records fields field .closing begun := by
  simp only [step, h.place, if_true]
  exact h.moved .closing

theorem Holds.step_doubled (h : r.Holds records fields field .closing begun) (delimiter : Char) :
    (r.step delimiter '"').Holds records fields (field ++ ['"']) .quoted true := by
  simp only [step, h.place, if_true]
  exact (h.put '"').moved .quoted

theorem moved_plain (plain : r.place = .plain) : { r with place := .plain } = r := by
  rw [← plain]

theorem step_settled (settled : Settled r.place) {c : Char} (notQuote : c ≠ '"') :
    r.step delimiter c = stepPlain delimiter { r with place := .plain } c := by
  rcases settled with plain | closing
  · simp only [step, plain, moved_plain plain]
  · simp only [step, closing, notQuote, if_false]

theorem Holds.step_settled (h : r.Holds records fields field place begun)
    (settled : Settled place) {c : Char} (notQuote : c ≠ '"') :
    r.step delimiter c = stepPlain delimiter { r with place := .plain } c :=
  Reader.step_settled (h.place ▸ settled) notQuote

theorem stepPlain_newline (newline : delimiter ≠ '\n') (r : Reader) :
    r.stepPlain delimiter '\n' = r.endLine := by
  have notDelimiter : '\n' ≠ delimiter := newline.symm
  simp [stepPlain, notDelimiter]

variable (separator : Separator delimiter)

include separator

theorem Holds.step_delimiter (h : r.Holds records fields field place begun)
    (settled : Settled place) :
    (r.step delimiter delimiter).Holds records (fields ++ [String.ofList field]) [] .plain
      true := by
  rw [h.step_settled settled separator.notQuote]
  simp only [stepPlain, separator.notQuote, false_and, if_false, if_true]
  exact (h.moved .plain).endField

theorem Holds.step_newline (h : r.Holds records fields field place begun)
    (settled : Settled place) :
    r.step delimiter '\n' = endLine { r with place := .plain } := by
  rw [h.step_settled settled (by decide), stepPlain_newline separator.notNewline]

theorem Holds.step_return_newline (h : r.Holds records fields field place begun)
    (settled : Settled place) :
    (r.step delimiter '\r').step delimiter '\n' = endLine { r with place := .plain } := by
  have notDelimiter : '\r' ≠ delimiter := separator.notReturn.symm
  have waiting : r.step delimiter '\r' = { r with place := .afterReturn } := by
    rw [h.step_settled settled (by decide)]
    simp [stepPlain, notDelimiter]
  rw [waiting]
  simp only [step, if_true]
  exact stepPlain_newline separator.notNewline _

end Step

section Runs

variable {delimiter : Char} {r : Reader} {records : List (List String)} {fields : List String}
  {field : List Char} {place : Place} {begun : Bool} {text : List Char}

theorem Holds.run_ordinary (h : r.Holds records fields field .plain begun)
    (ordinary : ∀ c ∈ text, Ordinary delimiter c) :
    (text.foldl (step delimiter) r).Holds records fields (field ++ text) .plain
      (begun || !text.isEmpty) := by
  induction text generalizing r field begun with
  | nil => simpa using h
  | cons c text ih =>
      have first := h.step_ordinary (ordinary c List.mem_cons_self)
      have rest := ih first fun d hd => ordinary d (List.mem_cons_of_mem c hd)
      simpa using rest

theorem Holds.run_escape (h : r.Holds records fields field .quoted true) (delimiter : Char)
    (text : List Char) :
    ((escape text).foldl (step delimiter) r).Holds records fields (field ++ text) .quoted true := by
  induction text generalizing r field with
  | nil => simpa [escape] using h
  | cons c text ih =>
      rw [escape]
      split
      next quote =>
          rw [quote]
          have rest := ih ((h.step_close delimiter).step_doubled delimiter)
          simpa using rest
      next notQuote =>
          have rest := ih (h.step_quoted delimiter notQuote)
          simpa using rest

theorem Holds.run_field {field : String} (h : r.Holds records fields [] .plain begun)
    (written : FieldLayout delimiter field text) :
    ∃ place, Settled place ∧ (text.foldl (step delimiter) r).Holds records fields field.toList
      place (begun || !text.isEmpty) := by
  cases written with
  | bare ordinary => exact ⟨.plain, .inl rfl, h.run_ordinary ordinary⟩
  | quoted =>
      refine ⟨.closing, .inr rfl, ?_⟩
      have inside := (h.step_open delimiter).run_escape delimiter field.toList
      have closed := inside.step_close delimiter
      simpa using closed

variable (separator : Separator delimiter)

include separator

/-- The last field of a record is still in progress when its text ends. -/
theorem Holds.run_fields {written : List String} (h : r.Holds records fields [] .plain begun)
    (layout : FieldsLayout delimiter written text) :
    ∃ finished field place, Settled place ∧ fields ++ written = finished ++ [String.ofList field] ∧
      (text.foldl (step delimiter) r).Holds records finished field place
        (begun || !text.isEmpty) := by
  induction layout generalizing r fields begun with
  | @last field text layout =>
      obtain ⟨place, settled, read⟩ := h.run_field layout
      exact ⟨fields, field.toList, place, settled, by simp, read⟩
  | @cons field others text rest layout _ ih =>
      obtain ⟨place, settled, read⟩ := h.run_field layout
      have next := read.step_delimiter separator settled
      rw [String.ofList_toList] at next
      obtain ⟨finished, last, place, settled, eq, read⟩ := ih next
      refine ⟨finished, last, place, settled, by simpa using eq, ?_⟩
      have visible : (begun || !(text ++ delimiter :: rest).isEmpty) = true := by simp
      rw [visible, List.foldl_append, List.foldl_cons]
      exact read

theorem Holds.run_record {written : List String} (h : r.Holds records [] [] .plain false)
    (layout : RecordLayout delimiter written text) :
    ∃ finished field place, Settled place ∧ written = finished ++ [String.ofList field] ∧
      (text.foldl (step delimiter) r).Holds records finished field place true := by
  obtain ⟨finished, field, place, settled, eq, read⟩ := h.run_fields separator layout.written
  have begun : (false || !text.isEmpty) = true := by simp [layout.visible]
  rw [begun] at read
  exact ⟨finished, field, place, settled, eq, read⟩

theorem Holds.foldl_lineEnd (h : r.Holds records fields field place begun)
    (settled : Settled place) (ended : LineEnd text) :
    text.foldl (step delimiter) r = endLine { r with place := .plain } := by
  cases ended with
  | newline => rw [List.foldl_cons, List.foldl_nil, h.step_newline separator settled]
  | returnNewline =>
      rw [List.foldl_cons, List.foldl_cons, List.foldl_nil,
        h.step_return_newline separator settled]

theorem Holds.run_lineEnd (h : r.Holds records fields field place true)
    (settled : Settled place) (ended : LineEnd text) :
    (text.foldl (step delimiter) r).Holds (records ++ [fields ++ [String.ofList field]]) [] []
      .plain false := by
  rw [h.foldl_lineEnd separator settled ended]
  exact (h.moved .plain).endLine_begun

theorem Holds.run_emptyLines (h : r.Holds records [] [] .plain false)
    (lines : EmptyLines text) :
    (text.foldl (step delimiter) r).Holds records [] [] .plain false := by
  induction lines generalizing r with
  | nil => exact h
  | cons ended _ ih =>
      rw [List.foldl_append]
      apply ih
      rw [h.foldl_lineEnd separator (.inl rfl) ended]
      exact (h.moved .plain).endLine_empty

end Runs

section Finish

variable {r : Reader} {records : List (List String)} {fields : List String} {field : List Char}
  {place : Place} {begun : Bool}

theorem Holds.finish_settled (h : r.Holds records fields field place begun)
    (settled : Settled place) : r.finish = .ok r.endRecord.records.toList := by
  rcases settled with rfl | rfl
  · simp only [finish, h.place]
  · simp only [finish, h.place]

theorem Holds.finish_begun (h : r.Holds records fields field place true)
    (settled : Settled place) :
    ∃ read, r.finish = .ok read ∧
      read.map Record.fields = records ++ [fields ++ [String.ofList field]] :=
  ⟨_, h.finish_settled settled, h.endRecord.records⟩

theorem Holds.finish_empty (h : r.Holds records [] [] .plain false) :
    ∃ read, r.finish = .ok read ∧ read.map Record.fields = records := by
  refine ⟨_, h.finish_settled (.inl rfl), ?_⟩
  rw [endRecord_eq_self h]
  exact h.records

/-- From between two records, the rest of a layout is read to its end. -/
theorem Holds.finish_records {delimiter : Char} (separator : Separator delimiter)
    {others : List (List String)} {text : List Char} (h : r.Holds records [] [] .plain false)
    (layout : RecordsLayout delimiter others text) :
    ∃ read, (text.foldl (step delimiter) r).finish = .ok read ∧
      read.map Record.fields = records ++ others := by
  induction layout generalizing r records with
  | nil lines =>
      rw [List.append_nil]
      exact (h.run_emptyLines separator lines).finish_empty
  | last lines record =>
      obtain ⟨finished, last, place, settled, eq, read⟩ :=
        (h.run_emptyLines separator lines).run_record separator record
      rw [List.foldl_append, eq]
      exact read.finish_begun settled
  | cons lines record ended _ ih =>
      obtain ⟨finished, last, place, settled, eq, read⟩ :=
        (h.run_emptyLines separator lines).run_record separator record
      obtain ⟨found, finish, same⟩ := ih (read.run_lineEnd separator settled ended)
      refine ⟨found, ?_, by rw [same, eq, List.append_assoc, List.singleton_append]⟩
      rw [List.foldl_append, List.foldl_append, List.foldl_append]
      exact finish

end Finish

end Reader

theorem exists_readRecords_eq {delimiter : Char} (separator : Separator delimiter)
    {records : List (List String)} {text : List Char}
    (layout : RecordsLayout delimiter records text) :
    ∃ read, readRecords delimiter text = .ok read ∧ read.map Record.fields = records := by
  have read := Reader.holds_start.finish_records separator layout
  rw [List.nil_append] at read
  exact read

theorem exists_readRecords_dropByteOrderMark_eq {delimiter : Char}
    (separator : Separator delimiter) {records : List (List String)} {text : List Char}
    (layout : TableLayout delimiter records text) :
    ∃ read, readRecords delimiter (dropByteOrderMark text) = .ok read ∧
      read.map Record.fields = records := by
  cases layout with
  | marked written => exact exists_readRecords_eq separator written
  | unmarked written start =>
      have kept : dropByteOrderMark text = text := by
        cases text with
        | nil => rfl
        | cons c text =>
            have other : c ≠ '\uFEFF' := fun same => start (same ▸ rfl)
            simp [dropByteOrderMark, other]
      rw [kept]
      exact exists_readRecords_eq separator written

theorem keys_alignCells (header fields : List String) :
    (alignCells header fields).map Prod.fst = header := by
  induction header generalizing fields with
  | nil => rfl
  | cons column header ih =>
      cases fields with
      | nil => rw [alignCells, List.map_cons, ih]
      | cons field fields => rw [alignCells, List.map_cons, ih]

theorem lookup_alignCells {header : List String} (fields : List String) (distinct : header.Nodup)
    {i : Nat} {column : String} (named : header[i]? = some column) :
    (alignCells header fields).lookup column = some fields[i]? := by
  induction header generalizing fields i with
  | nil => cases named
  | cons first header ih =>
      obtain ⟨fresh, distinct⟩ := List.nodup_cons.mp distinct
      cases i with
      | zero =>
          have same : column = first := (Option.some.inj named).symm
          cases fields <;> simp [alignCells, same]
      | succ i =>
          rw [List.getElem?_cons_succ] at named
          have other : column ≠ first := fun same =>
            fresh (same ▸ List.mem_of_getElem? named)
          cases fields with
          | nil =>
              rw [alignCells, Keyed.lookup_cons_eq_if, if_neg other, ih [] distinct named]
              rfl
          | cons field fields =>
              rw [alignCells, Keyed.lookup_cons_eq_if, if_neg other, ih fields distinct named]
              rfl

theorem aligned_rowOf {header : List String} (distinct : header.Nodup) (fields : List String) :
    Aligned header fields (rowOf header fields) := by
  have keys := keys_alignCells header fields
  have entries : (rowOf header fields).entries = alignCells header fields :=
    Keyed.entries_ofPairs (keys.symm ▸ distinct)
  constructor
  case columns =>
    rw [Row.columns, Keyed.keys, entries, keys]
  case cells =>
    intro i column named
    rw [Row.cell?, Keyed.get?, entries]
    exact lookup_alignCells fields distinct named

theorem result_readTable_of_records {table : String} {delimiter : Char} {text : List Char}
    {first : Record} {others : List Record}
    (read : readRecords delimiter (dropByteOrderMark text) = .ok (first :: others)) :
    (readTable table delimiter text).result =
      .ok (others.map fun record => rowOf first.fields record.fields) := by
  rw [readTable, read]
  rfl

/-- Reading a table undoes writing it, in whatever layout: a row for each record, in order, and
    in it the fields of the record under the names of the header. -/
theorem readTable_layout {delimiter : Char} (separator : Separator delimiter)
    {header : List String} (distinct : header.Nodup) {records : List (List String)}
    {text : List Char} (layout : TableLayout delimiter (header :: records) text)
    (table : String) :
    ∃ rows, (readTable table delimiter text).result = .ok rows ∧
      rows.length = records.length ∧
      ∀ (i : Nat) (fields : List String) (row : Row), records[i]? = some fields →
        rows[i]? = some row → Aligned header fields row := by
  obtain ⟨read, done, same⟩ := exists_readRecords_dropByteOrderMark_eq separator layout
  cases read with
  | nil => cases same
  | cons first others =>
      obtain ⟨rfl, rfl⟩ := List.cons.inj same
      refine ⟨_, result_readTable_of_records done, by simp, ?_⟩
      intro i fields row recorded found
      rw [List.getElem?_map] at recorded found
      obtain ⟨record, place, rfl⟩ := Option.map_eq_some_iff.mp recorded
      rw [place] at found
      obtain rfl := Option.some.inj found
      exact aligned_rowOf distinct record.fields

/-- A marked table with both line ends, an empty line, a delimiter and quotes within quotes, a
    record with a field too many and a record with a field missing. -/
theorem readTable_layout_people :
    ∃ rows, (readTable "people" ','
        "\uFEFFname,note\r\n\n\"Doe, Jane\",\"said \"\"hi\"\"\",x\r\nBo".toList).result = .ok rows ∧
      rows.length = 2 ∧
      (∀ row, rows[0]? = some row → row.cell? "note" = some (some "said \"hi\"")) ∧
      ∀ row, rows[1]? = some row → row.cell? "note" = some none := by
  have separator : Separator ',' := ⟨by decide, by decide, by decide⟩
  have distinct : ["name", "note"].Nodup := by decide
  have bare : ∀ field : String, field.toList.all Char.isAlphanum = true →
      FieldLayout ',' field field.toList := by
    intro field plain
    refine .bare fun c hc => ?_
    have other : ∀ d : Char, d.isAlphanum = false → c ≠ d := by
      intro d mark same
      have letter : c.isAlphanum = true := List.all_eq_true.mp plain c hc
      rw [same, mark] at letter
      cases letter
    exact ⟨other '"' rfl, other ',' rfl, other '\r' rfl, other '\n' rfl⟩
  have header : RecordLayout ',' ["name", "note"] "name,note".toList :=
    ⟨.cons (bare "name" rfl) (.last (bare "note" rfl)), by decide⟩
  have first : RecordLayout ',' ["Doe, Jane", "said \"hi\"", "x"]
      "\"Doe, Jane\",\"said \"\"hi\"\"\",x".toList :=
    ⟨.cons .quoted (.cons .quoted (.last (bare "x" rfl))), by decide⟩
  have second : RecordLayout ',' ["Bo"] "Bo".toList := ⟨.last (bare "Bo" rfl), by decide⟩
  have layout : TableLayout ','
      (["name", "note"] :: [["Doe, Jane", "said \"hi\"", "x"], ["Bo"]]) _ :=
    .marked (.cons .nil header .returnNewline
      (.cons (.cons .newline .nil) first .returnNewline (.last .nil second)))
  obtain ⟨rows, done, counted, aligned⟩ := readTable_layout separator distinct layout "people"
  refine ⟨rows, by simpa using done, counted, ?_, ?_⟩
  · intro row found
    exact (aligned 0 _ row rfl found).cells 1 "note" rfl
  · intro row found
    exact (aligned 1 _ row rfl found).cells 1 "note" rfl

end TableQuery.Delimited
