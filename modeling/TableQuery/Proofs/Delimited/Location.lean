import Mathlib.Data.List.Induction
import TableQuery.Proofs.Delimited.LineOrder

/-! # Where records and faults are

The line that a record or a fault bears tells where it starts in the text: below the lines before
it, which hold the records before it and no part of it. The invariant of the reader is that this is
so of every finished record and of the current one. A record becomes current where a line ends
outside quotes, which is where the reader is back at its start.
-/

namespace TableQuery.Delimited

/-- Nothing, or lines that have all ended. -/
def EndsLine (text : List Char) : Prop := text = [] ∨ text.getLast? = some '\n'

/-- Lines after which the reader is back at its start, below these records. -/
structure Concludes (delimiter : Char) (records : List Record) (text : List Char) : Prop where
  ended : EndsLine text
  back : text.foldl (Reader.step delimiter) Reader.start =
    Reader.start.below records.toArray (text.count '\n')

/-- The given line starts in the text after these records, and the reader starts anew there. -/
def StartsAfter (delimiter : Char) (records : List Record) (line : Nat) (text : List Char) : Prop :=
  ∃ before after, text = before ++ after ∧ Concludes delimiter records before ∧
    line = 1 + before.count '\n'

section Texts

variable {delimiter : Char} {records : List Record} {line : Nat} {text : List Char}

theorem Concludes.readRecords (h : Concludes delimiter records text) :
    readRecords delimiter text = .ok records := by
  rw [Delimited.readRecords, h.back, Reader.finish_below]
  exact congrArg Except.ok (List.append_nil records)

theorem Concludes.readRecords_append (h : Concludes delimiter records text)
    (after : List Char) :
    Delimited.readRecords delimiter (text ++ after) =
      outcomeBelow records (text.count '\n') (Delimited.readRecords delimiter after) := by
  rw [Delimited.readRecords, List.foldl_append, h.back, Reader.foldl_step_below,
    Reader.finish_below]
  rfl

theorem exists_of_outcomeBelow_eq_ok {lines : Nat} {outcome : Except Fault (List Record)}
    {whole : List Record} (h : outcomeBelow records lines outcome = .ok whole) :
    ∃ later, outcome = .ok later ∧ whole = records ++ later.map (Record.below lines) := by
  cases outcome with
  | ok later => exact ⟨later, rfl, (Except.ok.inj h).symm⟩
  | error fault => cases h

theorem exists_of_outcomeBelow_eq_error {lines : Nat} {outcome : Except Fault (List Record)}
    {fault : Fault} (h : outcomeBelow records lines outcome = .error fault) :
    ∃ own, outcome = .error own ∧ fault = own.below lines := by
  cases outcome with
  | ok later => cases h
  | error own => exact ⟨own, rfl, (Except.error.inj h).symm⟩

theorem StartsAfter.append (h : StartsAfter delimiter records line text) (more : List Char) :
    StartsAfter delimiter records line (text ++ more) := by
  obtain ⟨before, after, rfl, concludes, counted⟩ := h
  exact ⟨before, after ++ more, List.append_assoc before after more, concludes, counted⟩

theorem Concludes.startsAfter (h : Concludes delimiter records text) :
    StartsAfter delimiter records (1 + text.count '\n') text :=
  ⟨text, [], (List.append_nil text).symm, h, rfl⟩

end Texts

namespace Reader

variable {delimiter c : Char} {r next : Reader} {text : List Char}

/-- Each record that is finished after the text starts after the records before it, and the current
    one after all of them. -/
structure Located (delimiter : Char) (text : List Char) (r : Reader) : Prop where
  finished : ∀ (k : Nat) (record : Record), r.records.toList[k]? = some record →
    StartsAfter delimiter (r.records.toList.take k) record.line text
  current : StartsAfter delimiter r.records.toList r.startLine text

theorem below_start_records (records : Array Record) (lines : Nat) :
    (start.below records lines).records = records := by
  simp [below, start]

theorem concludes_nil (delimiter : Char) : Concludes delimiter [] [] where
  ended := .inl rfl
  back := by simp [below, start]

theorem located_start (delimiter : Char) : Located delimiter [] start where
  finished := by simp [start]
  current := (concludes_nil delimiter).startsAfter

theorem Located.keep (h : Located delimiter text r) (records : next.records = r.records)
    (startLine : next.startLine = r.startLine) : Located delimiter text next where
  finished := records ▸ h.finished
  current := records ▸ startLine ▸ h.current

theorem Located.append (h : Located delimiter text r) (more : List Char) :
    Located delimiter (text ++ more) r where
  finished k record found := (h.finished k record found).append more
  current := h.current.append more

theorem Located.endRecord (h : Located delimiter text r) {k : Nat} {record : Record}
    (found : r.endRecord.records.toList[k]? = some record) :
    StartsAfter delimiter (r.endRecord.records.toList.take k) record.line text := by
  by_cases begun : r.begun
  · simp only [Reader.endRecord, begun, if_true, Array.toList_push] at found ⊢
    rcases Nat.lt_or_ge k r.records.toList.length with old | new
    · rw [List.getElem?_append_left old] at found
      rw [List.take_append_of_le_length (Nat.le_of_lt old)]
      exact h.finished k record found
    · rw [List.getElem?_append_right new, List.getElem?_singleton] at found
      obtain ⟨last, same⟩ := Option.ite_none_right_eq_some.mp found
      have whole : k = r.records.toList.length := by omega
      rw [whole, List.take_left, ← Option.some.inj same]
      exact h.current
  · simp only [Reader.endRecord, begun] at found ⊢
    exact h.finished k record found

theorem stepPlain_keeps (inLine : c ≠ '\n') (r : Reader) :
    (r.stepPlain delimiter c).records = r.records ∧
      (r.stepPlain delimiter c).startLine = r.startLine := by
  unfold stepPlain
  split
  · exact ⟨rfl, rfl⟩
  split
  · exact ⟨rfl, rfl⟩
  split
  · exact ⟨rfl, rfl⟩
  exact ⟨rfl, rfl⟩

/-- Only a line feed outside quotes ends a record. -/
theorem step_keeps (delimiter : Char) (inRecord : c = '\n' → r.place = .quoted) :
    (r.step delimiter c).records = r.records ∧ (r.step delimiter c).startLine = r.startLine := by
  by_cases feed : c = '\n'
  · have place := inRecord feed
    simp [step, place, feed, put]
  · apply step_cases (motive := fun next =>
      next.records = r.records ∧ next.startLine = r.startLine)
    case outside => exact stepPlain_keeps feed { r with place := .plain }
    case returned => exact stepPlain_keeps feed (put { r with place := .plain } '\r')
    case closed | doubled => exact fun _ => ⟨rfl, rfl⟩
    case feed | inside => exact fun _ _ => ⟨rfl, rfl⟩

theorem foldl_step_newline (newline : delimiter ≠ '\n') {text : List Char}
    (outside : (text.foldl (step delimiter) start).place ≠ .quoted) :
    (text ++ ['\n']).foldl (step delimiter) start =
      start.below (text.foldl (step delimiter) start).endRecord.records
        ((text ++ ['\n']).count '\n') := by
  have tidy : start.Tidy := fun _ => ⟨rfl, rfl⟩
  have counted : (text ++ ['\n']).count '\n' = (text.foldl (step delimiter) start).line := by
    rw [foldl_step_line newline, List.count_append, Nat.add_comm]
    rfl
  rw [List.foldl_append, List.foldl_cons, List.foldl_nil, step_newline newline outside,
    endLine_settled (tidy.foldl_step delimiter text), counted]

theorem located_foldl_step (newline : delimiter ≠ '\n') (text : List Char) :
    Located delimiter text (text.foldl (step delimiter) start) := by
  induction text using List.reverseRecOn with
  | nil => exact located_start delimiter
  | append_singleton text c ih =>
      by_cases inRecord : c = '\n' → (text.foldl (step delimiter) start).place = .quoted
      · obtain ⟨records, startLine⟩ := step_keeps delimiter inRecord
        rw [List.foldl_append, List.foldl_cons, List.foldl_nil]
        exact (ih.append [c]).keep records startLine
      · obtain ⟨rfl, outside⟩ := Classical.not_imp.mp inRecord
        have back := foldl_step_newline newline outside
        have concludes : Concludes delimiter _ (text ++ ['\n']) :=
          ⟨.inr List.getLast?_concat, back⟩
        rw [back]
        constructor
        case finished =>
          rw [below_start_records]
          exact fun k record found => (ih.endRecord found).append ['\n']
        case current =>
          rw [below_start_records]
          exact concludes.startsAfter

end Reader

section Outcome

variable {delimiter : Char} {text : List Char}

theorem startsAfter_of_readRecords (newline : delimiter ≠ '\n') {records : List Record}
    (read : readRecords delimiter text = .ok records) {k : Nat} {record : Record}
    (found : records[k]? = some record) :
    StartsAfter delimiter (records.take k) record.line text := by
  have located := Reader.located_foldl_step newline text
  unfold readRecords Reader.finish at read
  split at read
  next => cases read
  next =>
      obtain rfl := Except.ok.inj read
      exact located.endRecord found
  next =>
      obtain rfl := Except.ok.inj read
      exact located.endRecord found
  next =>
      obtain rfl := Except.ok.inj read
      have kept : Reader.Located delimiter text
          ((text.foldl (Reader.step delimiter) Reader.start).put '\r') := located.keep rfl rfl
      exact kept.endRecord found

theorem exists_startsAfter_of_fault (newline : delimiter ≠ '\n') {fault : Fault}
    (broken : readRecords delimiter text = .error fault) :
    ∃ records, StartsAfter delimiter records fault.line text := by
  have located := Reader.located_foldl_step newline text
  unfold readRecords Reader.finish at broken
  split at broken
  next =>
      obtain rfl := Except.error.inj broken
      exact ⟨_, located.current⟩
  next => cases broken
  next => cases broken
  next => cases broken

theorem result_readTable_of_fault {file : List Char} {fault : Fault}
    (broken : readRecords delimiter (dropByteOrderMark file) = .error fault) (table : String) :
    (readTable table delimiter file).result =
      .error (.malformedTable table fault.line fault.reason) := by
  rw [readTable, broken]
  rfl

/-- The text from where a record starts has it as its first record, on its first line. -/
theorem exists_split_at_record (newline : delimiter ≠ '\n') {records : List Record}
    (read : readRecords delimiter text = .ok records) {k : Nat} {record : Record}
    (found : records[k]? = some record) :
    ∃ before after others, text = before ++ after ∧ EndsLine before ∧
      readRecords delimiter before = .ok (records.take k) ∧
      readRecords delimiter after = .ok (⟨1, record.fields⟩ :: others) ∧
      record.line = 1 + before.count '\n' := by
  obtain ⟨before, after, rfl, concludes, counted⟩ := startsAfter_of_readRecords newline read found
  rw [concludes.readRecords_append] at read
  obtain ⟨later, own, whole⟩ := exists_of_outcomeBelow_eq_ok read
  obtain ⟨inside, rfl⟩ := List.getElem?_eq_some_iff.mp found
  have rest : records[k] :: records.drop (k + 1) =
      later.map (Record.below (before.count '\n')) := by
    have both : records.take k ++ records.drop k =
        records.take k ++ later.map (Record.below (before.count '\n')) := by
      rw [List.take_append_drop, ← whole]
    rw [← List.drop_eq_getElem_cons inside]
    exact List.append_cancel_left both
  cases later with
  | nil => cases rest
  | cons first others =>
      have same : records[k] = first.below (before.count '\n') := (List.cons.inj rest).1
      have line : first.line + before.count '\n' = 1 + before.count '\n' := by
        rw [← counted, same]
        rfl
      have start : first = ⟨1, records[k].fields⟩ := by
        rw [same, ← Nat.add_right_cancel line]
        rfl
      exact ⟨before, after, others, rfl, concludes.ended, concludes.readRecords, start ▸ own,
        counted⟩

theorem exists_split_at_fault (newline : delimiter ≠ '\n') {fault : Fault}
    (broken : readRecords delimiter text = .error fault) :
    ∃ before after records, text = before ++ after ∧ EndsLine before ∧
      readRecords delimiter before = .ok records ∧
      readRecords delimiter after = .error ⟨1, fault.reason⟩ ∧
      fault.line = 1 + before.count '\n' := by
  obtain ⟨records, before, after, rfl, concludes, counted⟩ :=
    exists_startsAfter_of_fault newline broken
  rw [concludes.readRecords_append] at broken
  obtain ⟨own, there, rfl⟩ := exists_of_outcomeBelow_eq_error broken
  have line : own.line = 1 := Nat.add_right_cancel counted
  refine ⟨before, after, records, rfl, concludes.ended, concludes.readRecords, ?_, counted⟩
  rw [there, ← line]
  rfl

end Outcome

/-- The line of a record or a fault is that on which it starts. The text before that line ends there
    or is empty and holds exactly the records before; the text from there on starts with the same
    record, or has the same fault, on its first line. So the lines of the records increase, and a
    table whose text is broken is reported with the line of the fault. -/
theorem records_located {delimiter : Char} (newline : delimiter ≠ '\n') (text : List Char) :
    (∀ records, readRecords delimiter text = .ok records →
      (∀ (k : Nat) (record : Record), records[k]? = some record →
        ∃ before after others, text = before ++ after ∧ EndsLine before ∧
          readRecords delimiter before = .ok (records.take k) ∧
          readRecords delimiter after = .ok (⟨1, record.fields⟩ :: others) ∧
          record.line = 1 + before.count '\n') ∧
      (records.map Record.line).Pairwise (· < ·)) ∧
    ∀ fault, readRecords delimiter text = .error fault →
      (∃ before after records, text = before ++ after ∧ EndsLine before ∧
        readRecords delimiter before = .ok records ∧
        readRecords delimiter after = .error ⟨1, fault.reason⟩ ∧
        fault.line = 1 + before.count '\n') ∧
      ∀ table file, dropByteOrderMark file = text →
        (readTable table delimiter file).result =
          .error (.malformedTable table fault.line fault.reason) := by
  constructor
  · intro records read
    exact ⟨fun k record => exists_split_at_record newline read, pairwise_lines_of_readRecords read⟩
  · intro fault broken
    refine ⟨exists_split_at_fault newline broken, ?_⟩
    rintro table file rfl
    exact result_readTable_of_fault broken table

/-- A field over two lines and an empty line stand before the last record, and then before a quote
    that is left open, which a table with a mark before it reports on the same line. -/
theorem records_located_notes :
    (∃ before after others, "id,note\n1,\"x\ny\"\n\n2,z".toList = before ++ after ∧
      readRecords ',' before = .ok [⟨1, ["id", "note"]⟩, ⟨2, ["1", "x\ny"]⟩] ∧
      readRecords ',' after = .ok (⟨1, ["2", "z"]⟩ :: others) ∧ before.count '\n' = 4) ∧
    (∃ before after records, "id,note\n1,\"x\ny\"\n\n\"z\n".toList = before ++ after ∧
      readRecords ',' before = .ok records ∧
      readRecords ',' after = .error ⟨1, "unterminated quoted field"⟩ ∧
      before.count '\n' = 4) ∧
    (readTable "notes" ',' "\uFEFFid,note\n1,\"x\ny\"\n\n\"z\n".toList).result =
      .error (.malformedTable "notes" 5 "unterminated quoted field") := by
  have newline : ',' ≠ '\n' := by decide
  have read : readRecords ',' "id,note\n1,\"x\ny\"\n\n2,z".toList =
      .ok [⟨1, ["id", "note"]⟩, ⟨2, ["1", "x\ny"]⟩, ⟨5, ["2", "z"]⟩] := by rfl
  have broken : readRecords ',' "id,note\n1,\"x\ny\"\n\n\"z\n".toList =
      .error ⟨5, "unterminated quoted field"⟩ := by rfl
  obtain ⟨before, after, others, split, -, earlier, later, line⟩ :=
    ((records_located newline _).1 _ read).1 2 _ rfl
  obtain ⟨⟨above, below, records, cut, -, closed, fault, counted⟩, reported⟩ :=
    (records_located newline _).2 _ broken
  refine ⟨⟨before, after, others, split, earlier, later, Nat.add_left_cancel line.symm⟩,
    ⟨above, below, records, cut, closed, fault, Nat.add_left_cancel counted.symm⟩, ?_⟩
  have marked : dropByteOrderMark "\uFEFFid,note\n1,\"x\ny\"\n\n\"z\n".toList =
      "id,note\n1,\"x\ny\"\n\n\"z\n".toList := by decide +kernel
  exact reported "notes" _ marked

end TableQuery.Delimited
