import TableQuery.Proofs.Delimited.Reading

/-! # Appending to a table

A text with lines put after it holds its own records and then those of the new lines, which are
read as if they stood alone but for the number of the line they are on. That is because a line
feed outside quotes puts the reader back to its start: it keeps nothing but the records it has
read and the line it is on, and neither has any effect on what it reads next.
-/

namespace TableQuery.Delimited

/-- The same record, so many lines further down. -/
def Record.below (lines : Nat) (record : Record) : Record :=
  { record with line := record.line + lines }

def Fault.below (lines : Nat) (fault : Fault) : Fault :=
  { fault with line := fault.line + lines }

namespace Reader

/-- The reader as it would be with these records before its own and so many lines above. -/
def below (records : Array Record) (lines : Nat) (r : Reader) : Reader :=
  { r with
    records := records ++ r.records.map (Record.below lines)
    line := r.line + lines
    startLine := r.startLine + lines }

section Below

variable (records : Array Record) (lines : Nat) (r : Reader)

@[simp] theorem below_place : (r.below records lines).place = r.place := rfl

@[simp] theorem below_field : (r.below records lines).field = r.field := rfl

theorem put_below (c : Char) :
    (r.below records lines).put c = (r.put c).below records lines := rfl

theorem endField_below :
    (r.below records lines).endField = r.endField.below records lines := rfl

theorem endRecord_below :
    (r.below records lines).endRecord = r.endRecord.below records lines := by
  by_cases begun : r.begun
  · simp [endRecord, below, begun, Record.below]
  · simp [endRecord, below, begun]

theorem endLine_below : (r.below records lines).endLine = r.endLine.below records lines := by
  rw [endLine, endRecord_below]
  simp [endLine, below, Nat.add_right_comm]

theorem stepPlain_below (delimiter c : Char) :
    (r.below records lines).stepPlain delimiter c =
      (r.stepPlain delimiter c).below records lines := by
  unfold stepPlain
  rw [below_field, endField_below, endLine_below, put_below]
  split
  · rfl
  split
  · rfl
  split
  · rfl
  split <;> rfl

theorem step_below (delimiter c : Char) :
    (r.below records lines).step delimiter c = (r.step delimiter c).below records lines := by
  cases place : r.place with
  | plain =>
      simp only [step, below_place, place]
      exact stepPlain_below records lines r delimiter c
  | quoted =>
      simp only [step, below_place, place]
      split
      · rfl
      split
      · simp [put, below, Nat.add_right_comm]
      · rfl
  | closing =>
      simp only [step, below_place, place]
      split
      · rfl
      · exact stepPlain_below records lines { r with place := .plain } delimiter c
  | afterReturn =>
      simp only [step, below_place, place]
      split
      · exact stepPlain_below records lines { r with place := .plain } delimiter c
      · exact stepPlain_below records lines (put { r with place := .plain } '\r') delimiter c

theorem foldl_step_below (delimiter : Char) (text : List Char) :
    text.foldl (step delimiter) (r.below records lines) =
      (text.foldl (step delimiter) r).below records lines := by
  induction text generalizing r with
  | nil => rfl
  | cons c text ih => rw [List.foldl_cons, List.foldl_cons, step_below, ih]

end Below

end Reader

/-- What comes of a text that stands below these records, so many lines further down. -/
def outcomeBelow (records : List Record) (lines : Nat) :
    Except Fault (List Record) → Except Fault (List Record)
  | .ok later => .ok (records ++ later.map (Record.below lines))
  | .error fault => .error (fault.below lines)

namespace Reader

theorem finish_below (records : Array Record) (lines : Nat) (r : Reader) :
    (r.below records lines).finish = outcomeBelow records.toList lines r.finish := by
  cases place : r.place with
  | plain | closing =>
      simp only [finish, below_place, place, endRecord_below, outcomeBelow]
      simp [below]
  | quoted => simp [finish, place, below, outcomeBelow, Fault.below]
  | afterReturn =>
      simp only [finish, below_place, place, put_below, endRecord_below, outcomeBelow]
      simp [below]

section Kept

variable {delimiter : Char} {r : Reader} {c : Char}

/-- All that a step can do: the character is read outside quotes, it may be after a carriage return
    that turned out to belong to the field, or it is taken between quotes. -/
theorem step_cases {motive : Reader → Prop} (r : Reader)
    (outside : motive (stepPlain delimiter { r with place := .plain } c))
    (returned : motive ((put { r with place := .plain } '\r').stepPlain delimiter c))
    (closed : c = '"' → motive { r with place := .closing })
    (doubled : c = '"' → motive { r.put c with place := .quoted })
    (feed : c = '\n' → r.place = .quoted → motive { r.put c with line := r.line + 1 })
    (inside : c ≠ '\n' → r.place = .quoted → motive (r.put c)) : motive (r.step delimiter c) := by
  cases place : r.place with
  | plain =>
      rw [moved_plain place] at outside
      simpa only [step, place] using outside
  | quoted =>
      simp only [step, place]
      split
      next quote => exact closed quote
      split
      next newline => exact feed newline place
      next other => exact inside other place
  | closing =>
      simp only [step, place]
      split
      next quote => exact doubled quote
      next => exact outside
  | afterReturn =>
      simp only [step, place]
      split
      · exact outside
      · exact returned

theorem endRecord_line (r : Reader) : r.endRecord.line = r.line := by
  unfold endRecord
  split <;> rfl

theorem endRecord_place (r : Reader) : r.endRecord.place = r.place := by
  unfold endRecord
  split <;> rfl

theorem endLine_line (r : Reader) : r.endLine.line = r.line + 1 := by
  simp [endLine, endRecord_line]

theorem stepPlain_line (newline : delimiter ≠ '\n') (r : Reader) (c : Char) :
    (r.stepPlain delimiter c).line = r.line + [c].count '\n' := by
  by_cases feed : c = '\n'
  · rw [feed, stepPlain_newline newline, endLine_line]
    rfl
  · have none : [c].count '\n' = 0 := by simp [feed]
    unfold stepPlain
    rw [none, if_neg feed]
    split
    · rfl
    split
    · rfl
    split <;> rfl

theorem step_line (newline : delimiter ≠ '\n') (r : Reader) (c : Char) :
    (r.step delimiter c).line = r.line + [c].count '\n' := by
  apply step_cases (motive := fun next => next.line = r.line + [c].count '\n')
  case outside => exact stepPlain_line newline { r with place := .plain } c
  case returned => exact stepPlain_line newline (put { r with place := .plain } '\r') c
  case closed =>
    intro quote
    simp [quote]
  case doubled =>
    intro quote
    simp [put, quote]
  case feed =>
    intro feed _
    simp [feed]
  case inside =>
    intro other _
    simp [put, other]

theorem foldl_step_line (newline : delimiter ≠ '\n') (r : Reader) (text : List Char) :
    (text.foldl (step delimiter) r).line = r.line + text.count '\n' := by
  induction text generalizing r with
  | nil => rfl
  | cons c text ih =>
      have split : (c :: text).count '\n' = [c].count '\n' + text.count '\n' := by
        rw [← List.count_append, List.singleton_append]
      rw [List.foldl_cons, ih, step_line newline, split, Nat.add_assoc]

/-- A record that holds nothing has no field, finished or not. -/
def Tidy (r : Reader) : Prop := r.begun = false → r.fields = #[] ∧ r.field = ""

theorem tidy_of_begun (begun : r.begun = true) : r.Tidy := by
  intro fresh
  rw [begun] at fresh
  cases fresh

theorem Tidy.endLine (h : r.Tidy) : r.endLine.Tidy := by
  intro _
  by_cases begun : r.begun
  · simp [Reader.endLine, endRecord, begun]
  · simp [Reader.endLine, endRecord, begun, h (by simpa using begun)]

theorem Tidy.stepPlain (h : r.Tidy) (delimiter c : Char) : (r.stepPlain delimiter c).Tidy := by
  unfold Reader.stepPlain
  split
  · exact tidy_of_begun rfl
  split
  · exact tidy_of_begun rfl
  split
  · exact h
  split
  · exact h.endLine
  · exact tidy_of_begun rfl

theorem Tidy.step (h : r.Tidy) (delimiter c : Char) : (r.step delimiter c).Tidy := by
  have outside : Tidy { r with place := .plain } := h
  apply step_cases
  case outside => exact outside.stepPlain delimiter c
  case returned =>
    have kept : Tidy (put { r with place := .plain } '\r') := tidy_of_begun rfl
    exact kept.stepPlain delimiter c
  case closed => exact fun _ => h
  case doubled => exact fun _ => tidy_of_begun rfl
  case feed => exact fun _ _ => tidy_of_begun rfl
  case inside => exact fun _ _ => tidy_of_begun rfl

theorem Tidy.foldl_step (h : r.Tidy) (delimiter : Char) (text : List Char) :
    (text.foldl (Reader.step delimiter) r).Tidy := by
  induction text generalizing r with
  | nil => exact h
  | cons c text ih => exact ih (h.step delimiter c)

theorem stepPlain_place (h : r.place = .plain)
    (waits : (r.stepPlain delimiter c).place = .afterReturn) : c = '\r' := by
  unfold stepPlain at waits
  split at waits
  · cases waits
  split at waits
  · cases h.symm.trans waits
  split at waits
  next carriage => exact carriage
  split at waits
  · cases h.symm.trans ((endRecord_place r).symm.trans waits)
  · cases h.symm.trans waits

theorem step_place (r : Reader) : (r.step delimiter c).place = .afterReturn → c = '\r' := by
  apply step_cases (motive := fun next => next.place = .afterReturn → c = '\r')
  case outside => exact stepPlain_place rfl
  case returned => exact stepPlain_place rfl
  case closed | doubled =>
    intro _ waits
    cases waits
  case feed | inside =>
    intro _ place waits
    cases place.symm.trans waits

theorem getLast?_of_foldl_step_place {text : List Char}
    (waits : (text.foldl (step delimiter) start).place = .afterReturn) :
    text.getLast? = some '\r' := by
  rcases List.eq_nil_or_concat text with rfl | ⟨rest, c, rfl⟩
  · cases waits
  · rw [List.concat_eq_append, List.foldl_append, List.foldl_cons, List.foldl_nil] at waits
    simp [step_place _ waits]

end Kept

section Seam

variable {delimiter : Char} {r : Reader}

theorem endLine_settled (tidy : r.Tidy) :
    endLine { r with place := .plain } = below r.endRecord.records r.line start := by
  by_cases begun : r.begun
  · simp [endLine, endRecord, below, start, begun, Nat.add_comm]
  · simp [endLine, endRecord, below, start, begun, tidy (by simpa using begun), Nat.add_comm]

theorem settled_of_finish {records : List Record} (done : r.finish = .ok records)
    (waiting : r.place ≠ .afterReturn) :
    Settled r.place ∧ records = r.endRecord.records.toList := by
  unfold finish at done
  split at done
  next => cases done
  next place => exact ⟨.inl place, (Except.ok.inj done).symm⟩
  next place => exact ⟨.inr place, (Except.ok.inj done).symm⟩
  next place => exact absurd place waiting

theorem step_newline (newline : delimiter ≠ '\n') (outside : r.place ≠ .quoted) :
    r.step delimiter '\n' = endLine { r with place := .plain } := by
  cases place : r.place with
  | plain => rw [step_settled (.inl place) (by decide), stepPlain_newline newline]
  | closing => rw [step_settled (.inr place) (by decide), stepPlain_newline newline]
  | quoted => exact absurd place outside
  | afterReturn =>
      simp only [step, place, if_true]
      exact stepPlain_newline newline _

theorem finish_step_newline_of_error (delimiter : Char) {fault : Fault}
    (broken : r.finish = .error fault) : (r.step delimiter '\n').finish = .error fault := by
  unfold finish at broken
  split at broken
  next place =>
      have inside : (r.step delimiter '\n').place = .quoted := by
        simp [step, put, place]
      have same : (r.step delimiter '\n').startLine = r.startLine := by
        simp [step, put, place]
      unfold finish
      rw [inside, same]
      exact broken
  next => cases broken
  next => cases broken
  next => cases broken

end Seam

end Reader

section Appending

variable {delimiter : Char} {text : List Char}

/-- Lines put after a text are read as if they stood alone. -/
theorem readRecords_append_newline (newline : delimiter ≠ '\n')
    (ends : text.getLast? ≠ some '\r') {records : List Record}
    (read : readRecords delimiter text = .ok records) (lines : List Char) :
    readRecords delimiter (text ++ '\n' :: lines) =
      outcomeBelow records (1 + text.count '\n') (readRecords delimiter lines) := by
  have waiting : (text.foldl (Reader.step delimiter) Reader.start).place ≠ .afterReturn :=
    fun place => ends (Reader.getLast?_of_foldl_step_place place)
  have tidy : Reader.start.Tidy := fun _ => ⟨rfl, rfl⟩
  have tidy := tidy.foldl_step delimiter text
  have counted := Reader.foldl_step_line newline Reader.start text
  unfold readRecords at read ⊢
  obtain ⟨settled, rfl⟩ := Reader.settled_of_finish read waiting
  rw [List.foldl_append, List.foldl_cons, Reader.step_newline newline settled.ne_quoted,
    Reader.endLine_settled tidy, Reader.foldl_step_below, Reader.finish_below, counted]
  rfl

theorem readRecords_concat_newline (newline : delimiter ≠ '\n')
    (ends : text.getLast? ≠ some '\r') :
    readRecords delimiter (text ++ ['\n']) = readRecords delimiter text := by
  cases read : readRecords delimiter text with
  | ok records =>
      rw [readRecords_append_newline newline ends read]
      exact congrArg Except.ok (List.append_nil records)
  | error fault =>
      rw [readRecords, List.foldl_append]
      exact Reader.finish_step_newline_of_error delimiter read

theorem dropByteOrderMark_append_newline (text lines : List Char) :
    dropByteOrderMark (text ++ '\n' :: lines) = dropByteOrderMark text ++ '\n' :: lines := by
  cases text with
  | nil => rfl
  | cons c text =>
      by_cases mark : c = '\uFEFF'
      · simp [dropByteOrderMark, mark]
      · simp [dropByteOrderMark, mark]

theorem getLast?_dropByteOrderMark (ends : text.getLast? ≠ some '\r') :
    (dropByteOrderMark text).getLast? ≠ some '\r' := by
  cases text with
  | nil => exact ends
  | cons c text =>
      by_cases mark : c = '\uFEFF'
      · cases text with
        | nil => simp [dropByteOrderMark, mark]
        | cons d text => simpa [dropByteOrderMark, mark] using ends
      · simpa [dropByteOrderMark, mark] using ends

theorem readTable_append_newline (newline : delimiter ≠ '\n')
    (ends : text.getLast? ≠ some '\r') {header : Record} {records later : List Record}
    (read : readRecords delimiter (dropByteOrderMark text) = .ok (header :: records))
    {lines : List Char} (more : readRecords delimiter lines = .ok later) (table : String) :
    ∃ rows, (readTable table delimiter text).result = .ok rows ∧
      (readTable table delimiter (text ++ '\n' :: lines)).result =
        .ok (rows ++ later.map fun record => rowOf header.fields record.fields) := by
  refine ⟨_, result_readTable_of_records read, ?_⟩
  have whole := readRecords_append_newline newline (getLast?_dropByteOrderMark ends) read lines
  rw [← dropByteOrderMark_append_newline, more] at whole
  rw [result_readTable_of_records whole]
  simp [Record.below, Function.comp_def]

theorem readTable_concat_newline (newline : delimiter ≠ '\n')
    (ends : text.getLast? ≠ some '\r') (table : String) :
    readTable table delimiter (text ++ ['\n']) = readTable table delimiter text := by
  unfold readTable
  rw [dropByteOrderMark_append_newline,
    readRecords_concat_newline newline (getLast?_dropByteOrderMark ends)]

/-- Appending lines to a text appends their records, or gives the fault they have, so many lines
    further down. Appending them to a table appends their rows under its header, and appending no
    more than a line feed changes nothing. -/
theorem records_and_rows_appended (newline : delimiter ≠ '\n')
    (ends : text.getLast? ≠ some '\r') :
    (∀ records lines, readRecords delimiter text = .ok records →
      (∀ later, readRecords delimiter lines = .ok later →
        readRecords delimiter (text ++ '\n' :: lines) =
          .ok (records ++ later.map (Record.below (1 + text.count '\n')))) ∧
      ∀ fault, readRecords delimiter lines = .error fault →
        readRecords delimiter (text ++ '\n' :: lines) =
          .error (fault.below (1 + text.count '\n'))) ∧
    (∀ table header records lines later,
      readRecords delimiter (dropByteOrderMark text) = .ok (header :: records) →
      readRecords delimiter lines = .ok later →
        ∃ rows, (readTable table delimiter text).result = .ok rows ∧
          (readTable table delimiter (text ++ '\n' :: lines)).result =
            .ok (rows ++ later.map fun record => rowOf header.fields record.fields)) ∧
    ∀ table, readTable table delimiter (text ++ ['\n']) = readTable table delimiter text := by
  refine ⟨?_, ?_, readTable_concat_newline newline ends⟩
  · intro records lines read
    have whole := readRecords_append_newline newline ends read lines
    constructor
    · intro later more
      rwa [more] at whole
    · intro fault broken
      rwa [broken] at whole
  · intro table header records lines later read more
    exact readTable_append_newline newline ends read more table

/-- A record over two lines, and after it first a record and then a quote left open. -/
theorem records_and_rows_appended_notes :
    readRecords ',' "id,note\n1,\"x\ny\"\n2,z".toList =
        .ok [⟨1, ["id", "note"]⟩, ⟨2, ["1", "x\ny"]⟩, ⟨4, ["2", "z"]⟩] ∧
      readRecords ',' "id,note\n1,\"x\ny\"\n\n\"z".toList =
        .error ⟨5, "unterminated quoted field"⟩ ∧
      ∃ rows, (readTable "notes" ',' "id,note\n1,\"x\ny\"".toList).result = .ok rows ∧
        (readTable "notes" ',' "id,note\n1,\"x\ny\"\n2,z".toList).result =
          .ok (rows ++ [rowOf ["id", "note"] ["2", "z"]]) := by
  have newline : ',' ≠ '\n' := by decide
  have ends : "id,note\n1,\"x\ny\"".toList.getLast? ≠ some '\r' := by decide
  have read : readRecords ',' "id,note\n1,\"x\ny\"".toList =
      .ok [⟨1, ["id", "note"]⟩, ⟨2, ["1", "x\ny"]⟩] := by rfl
  obtain ⟨appended, rows, -⟩ := records_and_rows_appended newline ends
  have later : readRecords ',' "2,z".toList = .ok [⟨1, ["2", "z"]⟩] := by rfl
  have broken : readRecords ',' "\n\"z".toList = .error ⟨2, "unterminated quoted field"⟩ := by rfl
  exact ⟨(appended _ _ read).1 _ later, (appended _ _ read).2 _ broken,
    rows "notes" _ _ _ _ read later⟩

end Appending

end TableQuery.Delimited
