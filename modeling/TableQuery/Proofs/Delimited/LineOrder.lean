import TableQuery.Proofs.Delimited.Appending

/-! # The lines of records

A record starts on a line of its own, below every record before it, whatever character stands
between the fields. The line on which the current record starts moves on only where a record ends,
and never beyond the line that is being read.
-/

namespace TableQuery.Delimited

namespace Reader

variable {r next : Reader}

/-- The finished records start on increasing lines, all above the start of the current one. -/
structure Ordered (r : Reader) : Prop where
  started : r.startLine ≤ r.line
  above : ∀ record ∈ r.records, record.line < r.startLine
  increasing : (r.records.toList.map Record.line).Pairwise (· < ·)

theorem ordered_start : start.Ordered where
  started := Nat.le_refl 1
  above := by simp [start]
  increasing := .nil

theorem Ordered.keep (h : r.Ordered) (records : next.records = r.records)
    (startLine : next.startLine = r.startLine) (line : r.line ≤ next.line) : next.Ordered where
  started := startLine ▸ Nat.le_trans h.started line
  above := by
    rw [records, startLine]
    exact h.above
  increasing := records ▸ h.increasing

theorem Ordered.endRecord (h : r.Ordered) :
    (∀ record ∈ r.endRecord.records, record.line ≤ r.startLine) ∧
      (r.endRecord.records.toList.map Record.line).Pairwise (· < ·) := by
  have above := h.above
  by_cases begun : r.begun
  · simp only [Reader.endRecord, begun, if_true, Array.mem_push, Array.toList_push,
      List.map_append, List.pairwise_append]
    refine ⟨?_, h.increasing, by simp, ?_⟩
    · rintro record (old | rfl)
      · exact Nat.le_of_lt (above record old)
      · exact Nat.le_refl _
    · simpa using above
  · simp only [Reader.endRecord, begun]
    exact ⟨fun record old => Nat.le_of_lt (above record old), h.increasing⟩

theorem Ordered.endLine (h : r.Ordered) : r.endLine.Ordered := by
  obtain ⟨above, increasing⟩ := h.endRecord
  have started := h.started
  constructor
  case started => simp [Reader.endLine]
  case above =>
    intro record old
    have here := above record old
    simp only [Reader.endLine, endRecord_line]
    omega
  case increasing => exact increasing

theorem Ordered.stepPlain (h : r.Ordered) (delimiter c : Char) :
    (r.stepPlain delimiter c).Ordered := by
  unfold Reader.stepPlain
  split
  · exact h.keep rfl rfl (Nat.le_refl _)
  split
  · exact h.keep rfl rfl (Nat.le_refl _)
  split
  · exact h.keep rfl rfl (Nat.le_refl _)
  split
  · exact h.endLine
  · exact h.keep rfl rfl (Nat.le_refl _)

theorem Ordered.step (h : r.Ordered) (delimiter c : Char) : (r.step delimiter c).Ordered := by
  apply step_cases
  case outside =>
    have moved : Ordered { r with place := .plain } := h.keep rfl rfl (Nat.le_refl _)
    exact moved.stepPlain delimiter c
  case returned =>
    have kept : Ordered (put { r with place := .plain } '\r') := h.keep rfl rfl (Nat.le_refl _)
    exact kept.stepPlain delimiter c
  case closed => exact fun _ => h.keep rfl rfl (Nat.le_refl _)
  case doubled => exact fun _ => h.keep rfl rfl (Nat.le_refl _)
  case feed => exact fun _ _ => h.keep rfl rfl (Nat.le_succ _)
  case inside => exact fun _ _ => h.keep rfl rfl (Nat.le_refl _)

theorem Ordered.foldl_step (h : r.Ordered) (delimiter : Char) (text : List Char) :
    (text.foldl (Reader.step delimiter) r).Ordered := by
  induction text generalizing r with
  | nil => exact h
  | cons c text ih => exact ih (h.step delimiter c)

theorem Ordered.finish (h : r.Ordered) {records : List Record} (done : r.finish = .ok records) :
    (records.map Record.line).Pairwise (· < ·) := by
  unfold Reader.finish at done
  split at done
  next => cases done
  next =>
    cases done
    exact h.endRecord.2
  next =>
    cases done
    exact h.endRecord.2
  next =>
    cases done
    have kept : Ordered (r.put '\r') := h.keep rfl rfl (Nat.le_refl _)
    exact kept.endRecord.2

end Reader

/-- The records of a text start on lines that increase. -/
theorem pairwise_lines_of_readRecords {delimiter : Char} {text : List Char}
    {records : List Record} (read : readRecords delimiter text = .ok records) :
    (records.map Record.line).Pairwise (· < ·) :=
  (Reader.ordered_start.foldl_step delimiter text).finish read

end TableQuery.Delimited
