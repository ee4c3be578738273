import TableQuery.Shipping
import TableQuery.Proofs.Keyed
import TableQuery.Proofs.Result

/-! # What is shipped comes back

A row is written as its two lists and read by setting pairs, so reading gives back what was written
because no column of a row comes twice. Lists that name a column twice are read as well: the row
that comes of them has each column once, and from then on its form comes back as it is.
-/

namespace TableQuery

/-- A count is shipped as a machine word. -/
def Answer.FitsWord : Answer → Prop
  | .count n => n < UInt64.size
  | .rows _ => True

namespace Shipping

section Arrays

variable {α : Type} {item : Json → Except Fault α} {form : α → Json}

theorem mapM_map_form (returns : ∀ x, item (form x) = .ok x) (xs : List α) :
    (xs.map form).mapM item = .ok xs := by
  have each : item ∘ form = .ok := funext returns
  rw [Result.mapM_eq_ok_iff, List.map_map, each]

theorem list?_array_map (returns : ∀ x, item (form x) = .ok x) (xs : List α) :
    list? item (.array (xs.map form)) = .ok xs :=
  mapM_map_form returns xs

end Arrays

theorem cell?_cellForm (cell : Cell) : cell? (cellForm cell) = .ok cell := by
  cases cell <;> rfl

namespace RawRow

/-- The form of columns and values as they are. -/
def form (raw : RawRow) : Json :=
  .object [(some "columns", .array (raw.columns.map .string)),
    (some "values", .array (raw.values.map cellForm))]

/-- The row of the pairs, set one after another. -/
def setAll (raw : RawRow) : Row :=
  (raw.columns.zip raw.values).foldl (fun (row : Row) pair => row.set pair.1 pair.2) Keyed.empty

theorem toRow_eq (raw : RawRow) :
    raw.toRow =
      if raw.columns.length = raw.values.length then .ok raw.setAll
      else .error (.widths raw.columns.length raw.values.length) := rfl

end RawRow

theorem rawRow?_form (raw : RawRow) : rawRow? raw.form = .ok raw := by
  have text : ∀ column : String, string? (.string column) = .ok column := fun _ => rfl
  have columns := list?_array_map text raw.columns
  have values := list?_array_map cell?_cellForm raw.values
  simp only [RawRow.form, rawRow?, List.foldlM_cons, List.foldlM_nil, readMember, columns, values,
    Result.ok_bind, Result.pure_eq_ok]

theorem row?_of_rawRow? {form : Json} {raw : RawRow} (read : rawRow? form = .ok raw) :
    row? form =
      if raw.columns.length = raw.values.length then .ok raw.setAll
      else .error (.widths raw.columns.length raw.values.length) := by
  rw [row?, read, Result.ok_bind, RawRow.toRow_eq]

theorem setAll_keys_values (row : Row) : RawRow.setAll ⟨row.keys, row.values⟩ = row := by
  have pairs : row.keys.zip row.values = row.entries := by
    rw [Keyed.keys, Keyed.values, List.zip_map', List.map_id']
  apply Keyed.ext
  rw [RawRow.setAll, pairs]
  exact Keyed.entries_ofPairs row.distinct

/-- No column of a row comes twice, so setting its pairs anew gives the same row. -/
theorem row?_rowForm (row : Row) : row? (rowForm row) = .ok row := by
  have read : rawRow? (rowForm row) = .ok ⟨row.keys, row.values⟩ :=
    rawRow?_form ⟨row.keys, row.values⟩
  have paired : row.keys.length = row.values.length := by
    rw [Keyed.keys, Keyed.values, List.length_map, List.length_map]
  rw [row?_of_rawRow? read, if_pos paired, setAll_keys_values]

def rowsForm (forms : List Json) : Json := .object [(some "Rows", .array forms)]

theorem answer?_rowsForm (forms : List Json) :
    answer? (rowsForm forms) = Answer.rows <$> forms.mapM row? := by
  simp only [answer?, rowsForm, case?, list?]
  cases forms.mapM row? <;> rfl

theorem toInt?_ofInt {value : Int} (low : Int64.minValue.toInt ≤ value)
    (high : value < UInt64.size) : (JsonNumber.ofInt value).toInt? = some value := by
  have signed : (if value < 0 then -(value.natAbs : Int) else value.natAbs) = value := by
    split <;> omega
  have zero : ¬(value < 0 ∧ value.natAbs = 0) := by omega
  simp only [JsonNumber.toInt?, JsonNumber.ofInt, decide_eq_true_eq, signed]
  exact if_pos ⟨trivial, trivial, zero, low, high⟩

theorem integer?_ofInt {low high value : Int} (least : Int64.minValue.toInt ≤ low)
    (greatest : high < UInt64.size) (above : low ≤ value) (below : value ≤ high) :
    integer? low high (.number (.ofInt value)) = .ok value := by
  have read := toInt?_ofInt (Int.le_trans least above) (Int.lt_of_le_of_lt below greatest)
  simp only [integer?, read, above, below, and_self, if_true]

theorem answer?_answerForm {answer : Answer} (fits : answer.FitsWord) :
    answer? (answerForm answer) = .ok answer := by
  cases answer with
  | rows table =>
      have read := answer?_rowsForm (table.map rowForm)
      rw [mapM_map_form row?_rowForm] at read
      exact read
  | count n =>
      have read : integer? 0 (UInt64.size - 1) (.number (.ofInt n)) = .ok (n : Int) := by
        have word : n < UInt64.size := fits
        exact integer?_ofInt (by decide) (by decide) (Int.natCast_nonneg n) (by omega)
      simp only [answerForm, answer?, case?, read, Result.ok_bind]
      rfl

theorem literal?_integer (value : Int64) :
    literal? (literalForm (.integer value)) = .ok (.integer value) := by
  have read : integer? Int64.minValue.toInt Int64.maxValue.toInt (.number (.ofInt value.toInt)) =
      .ok value.toInt :=
    integer?_ofInt (Int.le_refl _) (by decide) value.minValue_le_toInt value.toInt_le
  simp only [literalForm, literal?, case?, read, Result.ok_bind, Int64.ofInt_toInt]
  rfl

/-- What is shipped comes back: any row, any answer whose count is a machine word, and any literal
    that is a text or an integer. Columns and values shipped as they are can be read, and make a row
    if they are as many; that is the row of their pairs set in turn. Its own form names no column
    twice and makes the same row, so reading what was read and written again changes nothing. One
    row that cannot be made spoils all the rows it is shipped with, and is the fault reported if
    those before it are fine. -/
theorem forms_come_back :
    (∀ row : Row, row? (rowForm row) = .ok row) ∧
    (∀ answer : Answer, answer.FitsWord → answer? (answerForm answer) = .ok answer) ∧
    (∀ text, literal? (literalForm (.string text)) = .ok (.string text)) ∧
    (∀ value, literal? (literalForm (.integer value)) = .ok (.integer value)) ∧
    (∀ raw : RawRow, rawRow? raw.form = .ok raw) ∧
    (∀ form raw, rawRow? form = .ok raw →
      ((∃ row, row? form = .ok row) ↔ raw.columns.length = raw.values.length) ∧
      (raw.columns.length ≠ raw.values.length →
        row? form = .error (.widths raw.columns.length raw.values.length)) ∧
      ∀ row, row? form = .ok row → row = raw.setAll ∧
        (∃ distinct : RawRow, rowForm row = distinct.form ∧ distinct.columns.Nodup) ∧
        row? (rowForm row) = .ok row) ∧
    ∀ before after form raw, rawRow? form = .ok raw → raw.columns.length ≠ raw.values.length →
      ∃ first, answer? (rowsForm (before ++ form :: after)) = .error first ∧
        ((∀ earlier ∈ before, ∃ row, row? earlier = .ok row) →
          first = .widths raw.columns.length raw.values.length) := by
  refine ⟨row?_rowForm, fun answer => answer?_answerForm, fun text => rfl, literal?_integer,
    rawRow?_form, ?_, ?_⟩
  · intro form raw read
    rw [row?_of_rawRow? read]
    by_cases paired : raw.columns.length = raw.values.length
    · simp only [paired, if_true, iff_true]
      refine ⟨⟨raw.setAll, rfl⟩, fun different => absurd rfl different, ?_⟩
      intro row made
      have shipped : ∃ distinct : RawRow, rowForm row = distinct.form ∧ distinct.columns.Nodup :=
        ⟨⟨row.keys, row.values⟩, rfl, row.distinct⟩
      exact ⟨(Except.ok.inj made).symm, shipped, row?_rowForm row⟩
    · simp [paired]
  · intro before after form raw read different
    have fails := row?_of_rawRow? read
    rw [if_neg different] at fails
    obtain ⟨first, whole, decided⟩ := Result.exists_mapM_eq_error fails before after
    exact ⟨first, by rw [answer?_rowsForm, whole]; rfl, decided⟩

/-- A column named twice with the greatest count beside it, and a row with too few values behind
    one that is fine. -/
theorem forms_come_back_repeated :
    let twice : RawRow := ⟨["a", "b", "a"], [some "1", none, some "2"]⟩
    let short : RawRow := ⟨["a", "b"], [some "1"]⟩
    (∃ row, row? twice.form = .ok row ∧ row.entries = [("a", some "2"), ("b", none)] ∧
      row? (rowForm row) = .ok row) ∧
    answer? (answerForm (.count (UInt64.size - 1))) = .ok (.count (UInt64.size - 1)) ∧
    answer? (rowsForm [twice.form, short.form, .null]) = .error (.widths 2 1) := by
  intro twice short
  obtain ⟨-, answers, -, -, raws, rows, broken⟩ := forms_come_back
  refine ⟨?_, answers (.count (UInt64.size - 1)) (Nat.lt_add_one _), ?_⟩
  · obtain ⟨made, -, again⟩ := rows twice.form twice (raws twice)
    obtain ⟨row, read⟩ := made.mpr rfl
    obtain ⟨rfl, -, same⟩ := again row read
    exact ⟨_, read, rfl, same⟩
  · obtain ⟨first, whole, decided⟩ :=
      broken [twice.form] [.null] short.form short (raws short) (by decide)
    have fine : first = .widths 2 1 := decided (by
      intro earlier member
      obtain rfl := List.mem_singleton.mp member
      exact (rows twice.form twice (raws twice)).1.mpr rfl)
    exact fine ▸ whole

end Shipping

end TableQuery
