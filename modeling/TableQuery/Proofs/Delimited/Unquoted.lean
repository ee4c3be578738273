import Mathlib.Data.List.Chain
import Mathlib.Data.List.Induction
import TableQuery.Proofs.Delimited.Appending

/-! # Texts without quoted fields

Where no field starts with a quote, reading is plain splitting: at the line feeds, each with the
carriage return right before it, and then at the delimiters of every line that is not empty.

From a reader that takes each character of such a line as it comes, this one differs in one thing
only. It holds back a carriage return until the next character shows whether that ends the line.
-/

namespace TableQuery.Delimited

/-- No quote stands where a field starts. -/
structure Unquoted (delimiter : Char) (text : List Char) : Prop where
  start : text.head? ≠ some '"'
  inside : text.IsChain fun a b => b = '"' → a ≠ delimiter ∧ a ≠ '\n'

/-- A line without the carriage return of its line end. -/
def withoutReturn (line : List Char) : List Char :=
  if line.getLast? = some '\r' then line.dropLast else line

/-- What stands before, between and after the line ends of a text. -/
def textLines (text : List Char) : List (List Char) :=
  (text.splitOn '\n').dropLast.map withoutReturn ++ (text.splitOn '\n').getLast?.toList

def filledLines (text : List Char) : List (List Char) := (textLines text).filter (· ≠ [])

def splitFields (delimiter : Char) (line : List Char) : List String :=
  (line.splitOn delimiter).map String.ofList

/-- A text without its line feeds and the carriage returns right before them. -/
def withoutLineEnds : List Char → List Char
  | [] => []
  | c :: rest =>
      if c = '\n' ∨ (c = '\r' ∧ rest.head? = some '\n') then withoutLineEnds rest
      else c :: withoutLineEnds rest

namespace Unquoted

variable {delimiter : Char} {left right : List Char}

theorem left_of_append (h : Unquoted delimiter (left ++ right)) : Unquoted delimiter left := by
  refine ⟨?_, h.inside.left_of_append⟩
  cases left with
  | nil => exact nofun
  | cons c left => exact h.start

theorem after_newline (h : Unquoted delimiter (left ++ '\n' :: right)) :
    Unquoted delimiter right := by
  obtain ⟨next, inside⟩ := List.isChain_cons.mp h.inside.right_of_append
  refine ⟨fun quote => ?_, inside⟩
  exact (next '"' quote rfl).2 rfl

theorem before_quote (h : Unquoted delimiter (left ++ '"' :: right)) :
    ∃ c ∈ left.getLast?, c ≠ delimiter ∧ c ≠ '\n' := by
  rcases List.eq_nil_or_concat left with rfl | ⟨left, c, rfl⟩
  · exact absurd rfl h.start
  · refine ⟨c, by simp, ?_⟩
    exact (List.isChain_append.mp h.inside).2.2 c (by simp) '"' rfl rfl

end Unquoted

theorem line_induction {motive : List Char → Prop} (last : ∀ line, '\n' ∉ line → motive line)
    (ended : ∀ line rest, '\n' ∉ line → motive rest → motive (line ++ '\n' :: rest))
    (text : List Char) : motive text := by
  by_cases feed : '\n' ∈ text
  · obtain ⟨line, rest, eq, unbroken⟩ := List.eq_append_cons_of_mem feed
    have shorter : rest.length < text.length := by
      rw [eq, List.length_append, List.length_cons]
      omega
    rw [eq]
    exact ended line rest unbroken (line_induction last ended rest)
  · exact last text feed
termination_by text.length

section Lines

variable {line : List Char}

theorem withoutReturn_concat (line : List Char) (c : Char) :
    withoutReturn (line ++ [c]) = if c = '\r' then line else line ++ [c] := by
  simp [withoutReturn]

theorem textLines_of_not_mem (unbroken : '\n' ∉ line) : textLines line = [line] := by
  rw [textLines, List.splitOn_eq_singleton unbroken]
  rfl

theorem textLines_append (unbroken : '\n' ∉ line) (rest : List Char) :
    textLines (line ++ '\n' :: rest) = withoutReturn line :: textLines rest := by
  have present := List.splitOn_ne_nil '\n' rest
  rw [textLines, List.splitOn_append_cons_self_of_not_mem unbroken,
    List.dropLast_cons_of_ne_nil present, List.getLast?_cons_of_ne_nil present]
  rfl

theorem withoutLineEnds_of_not_mem (unbroken : '\n' ∉ line) : withoutLineEnds line = line := by
  induction line with
  | nil => rfl
  | cons c line ih =>
      have first : c ≠ '\n' := fun feed => unbroken (feed ▸ List.mem_cons_self)
      have rest : '\n' ∉ line := fun feed => unbroken (List.mem_cons_of_mem c feed)
      have next : line.head? ≠ some '\n' := fun feed => rest (List.mem_of_mem_head? feed)
      simp [withoutLineEnds, first, next, ih rest]

theorem withoutLineEnds_append (unbroken : '\n' ∉ line) (rest : List Char) :
    withoutLineEnds (line ++ '\n' :: rest) = withoutReturn line ++ withoutLineEnds rest := by
  induction line with
  | nil => simp [withoutLineEnds, withoutReturn]
  | cons c line ih =>
      have first : c ≠ '\n' := fun feed => unbroken (feed ▸ List.mem_cons_self)
      have later : '\n' ∉ line := fun feed => unbroken (List.mem_cons_of_mem c feed)
      cases line with
      | nil =>
          by_cases carriage : c = '\r'
          · simp [withoutLineEnds, withoutReturn, carriage]
          · simp [withoutLineEnds, withoutReturn, first, carriage]
      | cons d line =>
          have next : d ≠ '\n' := fun feed => later (feed ▸ List.mem_cons_self)
          rw [List.cons_append, withoutLineEnds, ih later]
          by_cases closed : (d :: line).getLast? = some '\r'
          · simp [withoutReturn, first, next, closed]
          · simp [withoutReturn, first, next, closed]

theorem flatten_textLines (text : List Char) : (textLines text).flatten = withoutLineEnds text := by
  induction text using line_induction with
  | last line unbroken =>
      rw [textLines_of_not_mem unbroken, withoutLineEnds_of_not_mem unbroken,
        List.flatten_singleton]
  | ended line rest unbroken ih =>
      rw [textLines_append unbroken, withoutLineEnds_append unbroken, List.flatten_cons, ih]

theorem filledLines_append (unbroken : '\n' ∉ line) (rest : List Char) :
    filledLines (line ++ '\n' :: rest) =
      [withoutReturn line].filter (· ≠ []) ++ filledLines rest := by
  rw [filledLines, textLines_append unbroken, ← List.singleton_append, List.filter_append,
    filledLines]

theorem flatten_filledLines (text : List Char) :
    (filledLines text).flatten = withoutLineEnds text := by
  rw [filledLines, List.flatten_filter_ne_nil, flatten_textLines]

end Lines

section Fields

variable {delimiter : Char}

theorem flatten_splitOn (delimiter : Char) (line : List Char) :
    (line.splitOn delimiter).flatten = line.filter (· ≠ delimiter) := by
  induction line with
  | nil => rfl
  | cons c line ih =>
      rw [List.splitOn_cons_eq_if_modifyHead, List.filter_cons, ← ih]
      by_cases separates : c = delimiter
      · simp [separates]
      · cases pieces : line.splitOn delimiter with
        | nil => exact absurd pieces (List.splitOn_ne_nil delimiter line)
        | cons first others => simp [separates]

theorem flatMap_splitFields (delimiter : Char) (line : List Char) :
    (splitFields delimiter line).flatMap String.toList = line.filter (· ≠ delimiter) := by
  rw [← flatten_splitOn, splitFields, List.flatMap_map]
  simp [List.flatMap_def]

theorem intercalate_splitFields (delimiter : Char) (line : List Char) :
    [delimiter].intercalate ((splitFields delimiter line).map String.toList) = line := by
  have pieces : (splitFields delimiter line).map String.toList = line.splitOn delimiter := by
    simp [splitFields, Function.comp_def]
  rw [pieces, List.intercalate_splitOn]

end Fields

namespace Reader

/-- Not between quotes and not just after them. -/
def Outside (r : Reader) : Prop := r.place = .plain ∨ r.place = .afterReturn

/-- The reader with the carriage return that it holds back put into the field. -/
def settle (r : Reader) : Reader :=
  match r.place with
  | .afterReturn => put { r with place := .plain } '\r'
  | _ => r

/-- Takes a character as it comes, if it is no delimiter. -/
def take (delimiter : Char) (r : Reader) (c : Char) : Reader :=
  if c = delimiter then r.endField else r.put c

section Line

variable {delimiter c : Char} {r : Reader} {line : List Char}

theorem settle_of_plain (plain : r.place = .plain) : r.settle = r := by
  simp [settle, plain]

theorem settle_holding (plain : r.place = .plain) :
    settle { r with place := .afterReturn } = r.put '\r' :=
  congrArg (put · '\r') (moved_plain plain)

theorem settle_place (outside : r.Outside) : r.settle.place = .plain := by
  rcases outside with plain | holding
  · rw [settle_of_plain plain, plain]
  · simp [settle, holding, put]

theorem step_outside (outside : r.Outside) (inLine : c ≠ '\n') :
    r.step delimiter c = r.settle.stepPlain delimiter c := by
  rcases outside with plain | holding
  · simp only [step, settle, plain]
  · simp only [step, settle, holding, if_neg inLine]

theorem step_return (separator : Separator delimiter) (outside : r.Outside) :
    r.step delimiter '\r' = { r.settle with place := .afterReturn } := by
  have other : '\r' ≠ delimiter := separator.notReturn.symm
  rw [step_outside outside (by decide)]
  simp [stepPlain, other]

theorem settle_step (separator : Separator delimiter) (outside : r.Outside) (inLine : c ≠ '\n')
    (bare : c = '"' → r.settle.field ≠ "") :
    (r.step delimiter c).Outside ∧ (r.step delimiter c).settle = r.settle.take delimiter c := by
  have plain := settle_place outside
  by_cases carriage : c = '\r'
  · have other : '\r' ≠ delimiter := separator.notReturn.symm
    rw [carriage, step_return separator outside, settle_holding plain, take, if_neg other]
    exact ⟨.inr rfl, rfl⟩
  · have unopened : ¬(c = '"' ∧ r.settle.field = "") := fun opens => bare opens.1 opens.2
    have taken : r.step delimiter c = r.settle.take delimiter c := by
      rw [step_outside outside inLine, stepPlain, if_neg unopened, take, if_neg carriage,
        if_neg inLine]
    have stays : (r.settle.take delimiter c).place = .plain := by
      unfold take
      split
      · exact plain
      · exact plain
    rw [taken]
    exact ⟨.inl stays, settle_of_plain stays⟩

theorem field_foldl_take (r : Reader) (last : c ∈ line.getLast?) (inField : c ≠ delimiter) :
    (line.foldl (take delimiter) r).field ≠ "" := by
  obtain ⟨before, rfl⟩ := List.getLast?_eq_some_iff.mp last
  simp [take, inField, put]

/-- A line without quoted fields is read as its characters come. -/
theorem settle_foldl_step (separator : Separator delimiter) (plain : r.place = .plain)
    (unquoted : Unquoted delimiter line) (unbroken : '\n' ∉ line) :
    (line.foldl (step delimiter) r).Outside ∧
      (line.foldl (step delimiter) r).settle = line.foldl (take delimiter) r := by
  induction line using List.reverseRecOn with
  | nil => exact ⟨.inl plain, settle_of_plain plain⟩
  | append_singleton line c ih =>
      simp only [List.mem_append, List.mem_singleton, not_or] at unbroken
      obtain ⟨outside, same⟩ := ih unquoted.left_of_append unbroken.1
      have bare : c = '"' → (line.foldl (step delimiter) r).settle.field ≠ "" := by
        rintro rfl
        obtain ⟨d, last, inField, -⟩ := unquoted.before_quote
        rw [same]
        exact field_foldl_take r last inField
      have next := settle_step separator outside (Ne.symm unbroken.2) bare
      simpa [same] using next

theorem foldl_step_ended (separator : Separator delimiter) (plain : r.place = .plain)
    (unquoted : Unquoted delimiter line) (unbroken : '\n' ∉ line) :
    (line ++ ['\n']).foldl (step delimiter) r =
      ((withoutReturn line).foldl (take delimiter) r).endLine := by
  have newline := separator.notNewline
  rcases List.eq_nil_or_concat line with rfl | ⟨line, c, rfl⟩
  · rw [List.nil_append, List.foldl_cons, step_newline newline (by simp [plain]), moved_plain plain]
    rfl
  · rw [List.concat_eq_append] at unquoted unbroken ⊢
    rw [List.foldl_append, List.foldl_cons, List.foldl_nil, withoutReturn_concat]
    by_cases carriage : c = '\r'
    · have before : '\n' ∉ line := fun feed => unbroken (List.mem_append_left [c] feed)
      obtain ⟨outside, taken⟩ := settle_foldl_step separator plain unquoted.left_of_append before
      rw [if_pos carriage, carriage, List.foldl_append, List.foldl_cons, List.foldl_nil,
        step_return separator outside, step_newline newline (by simp), ← taken]
      exact congrArg endLine (moved_plain (settle_place outside))
    · obtain ⟨outside, taken⟩ := settle_foldl_step separator plain unquoted unbroken
      have here : ((line ++ [c]).foldl (step delimiter) r).place = .plain := by
        refine outside.resolve_right fun holding => carriage ?_
        rw [List.foldl_append] at holding
        exact step_place _ holding
      rw [if_neg carriage, step_newline newline (by rw [here]; decide), moved_plain here, ← taken,
        settle_of_plain here]

theorem finish_outside (outside : r.Outside) :
    r.finish = .ok r.settle.endRecord.records.toList := by
  rcases outside with plain | holding
  · simp only [finish, settle, plain]
  · simp only [finish, settle, holding]
    rfl

theorem Holds.run_take {records : List (List String)} {fields : List String} {field : List Char}
    {begun : Bool} (h : r.Holds records fields field .plain begun) (fresh : delimiter ∉ field)
    (line : List Char) :
    ∃ finished last, fields ++ splitFields delimiter (field ++ line) =
        finished ++ [String.ofList last] ∧
      (line.foldl (take delimiter) r).Holds records finished last .plain
        (begun || !line.isEmpty) := by
  induction line generalizing r fields field begun with
  | nil =>
      refine ⟨fields, field, ?_, by simpa using h⟩
      rw [List.append_nil, splitFields, List.splitOn_eq_singleton fresh, List.map_singleton]
  | cons c line ih =>
      by_cases separates : c = delimiter
      · obtain ⟨finished, last, same, read⟩ := ih h.endField List.not_mem_nil
        refine ⟨finished, last, ?_, by simpa [take, separates] using read⟩
        rw [← same, separates, splitFields, List.splitOn_append_cons_self_of_not_mem fresh]
        simp [splitFields]
      · have extended : delimiter ∉ field ++ [c] := by simp [fresh, Ne.symm separates]
        obtain ⟨finished, last, same, read⟩ := ih (h.put c) extended
        refine ⟨finished, last, ?_, by simpa [take, separates] using read⟩
        rw [← same, List.append_assoc, List.singleton_append]

theorem Holds.endRecord_take {records : List (List String)}
    (h : r.Holds records [] [] .plain false) (delimiter : Char) (line : List Char) :
    (line.foldl (take delimiter) r).endRecord.Holds
      (records ++ ([line].filter (· ≠ [])).map (splitFields delimiter)) [] [] .plain false := by
  have fresh : delimiter ∉ [] := List.not_mem_nil
  obtain ⟨finished, last, same, read⟩ := h.run_take fresh line
  by_cases empty : line = []
  · subst empty
    rw [List.foldl_nil, endRecord_eq_self h]
    simpa using h
  · have begun : (false || !line.isEmpty) = true := by simp [empty]
    rw [begun] at read
    have closed := read.endRecord
    rw [← same] at closed
    simpa [empty] using closed

/-- From between two records, a text without quoted fields is read line by line to its end. -/
theorem Holds.finish_unquoted (separator : Separator delimiter) {records : List (List String)}
    {text : List Char} (h : r.Holds records [] [] .plain false)
    (unquoted : Unquoted delimiter text) :
    ∃ read, (text.foldl (step delimiter) r).finish = .ok read ∧
      read.map Record.fields = records ++ (filledLines text).map (splitFields delimiter) := by
  induction text using line_induction generalizing r records with
  | last line unbroken =>
      obtain ⟨outside, taken⟩ := settle_foldl_step separator h.place unquoted unbroken
      refine ⟨_, finish_outside outside, ?_⟩
      rw [taken, filledLines, textLines_of_not_mem unbroken]
      exact (h.endRecord_take delimiter line).records
  | ended line rest unbroken ih =>
      have whole : (line ++ '\n' :: rest).foldl (step delimiter) r =
          rest.foldl (step delimiter) ((line ++ ['\n']).foldl (step delimiter) r) := by
        rw [List.append_cons, List.foldl_append]
      have closed := (h.endRecord_take delimiter (withoutReturn line)).endLine_of_endRecord
      rw [← foldl_step_ended separator h.place unquoted.left_of_append unbroken] at closed
      obtain ⟨read, done, same⟩ := ih closed unquoted.after_newline
      refine ⟨read, by rw [whole, done], ?_⟩
      rw [same, filledLines_append unbroken, List.map_append, List.append_assoc]

end Line

end Reader

/-- A text without quoted fields is always read, as the lines that are not empty, each split at its
    delimiters. So the fields of a record with the delimiters between them are its line, whichever
    of them are empty, and all fields together are the text without its line ends and delimiters:
    quotes and carriage returns inside a field are kept. -/
theorem readRecords_unquoted {delimiter : Char} (separator : Separator delimiter)
    {text : List Char} (unquoted : Unquoted delimiter text) :
    ∃ records, readRecords delimiter text = .ok records ∧
      records.map Record.fields = (filledLines text).map (splitFields delimiter) ∧
      (records.map fun record => [delimiter].intercalate (record.fields.map String.toList)) =
        filledLines text ∧
      (records.flatMap fun record => record.fields.flatMap String.toList) =
        (withoutLineEnds text).filter (· ≠ delimiter) := by
  obtain ⟨records, done, same⟩ := Reader.holds_start.finish_unquoted separator unquoted
  rw [List.nil_append] at same
  refine ⟨records, done, same, ?_, ?_⟩
  · calc (records.map fun record => [delimiter].intercalate (record.fields.map String.toList))
        = (records.map Record.fields).map fun fields =>
            [delimiter].intercalate (fields.map String.toList) := by
          rw [List.map_map, Function.comp_def]
      _ = filledLines text := by
          rw [same, List.map_map, Function.comp_def]
          simp only [intercalate_splitFields, List.map_id']
  · calc (records.flatMap fun record => record.fields.flatMap String.toList)
        = (records.map Record.fields).flatMap fun fields => fields.flatMap String.toList := by
          rw [List.flatMap_map]
      _ = (filledLines text).flatMap fun line => line.filter (· ≠ delimiter) := by
          rw [same, List.flatMap_map]
          simp only [flatMap_splitFields]
      _ = (withoutLineEnds text).filter (· ≠ delimiter) := by
          rw [← flatten_filledLines, List.filter_flatten, List.flatMap_def]

/-- A quote and a carriage return inside fields, two carriage returns before a line feed and one at
    the end of the text, empty lines of both kinds, and empty fields first, last and between. -/
theorem readRecords_unquoted_returns :
    ∃ records, readRecords ',' "a\"b,,c\r\r\n\r\n\n,\r\n,x\ry,\r".toList = .ok records ∧
      records.map Record.fields = [["a\"b", "", "c\r"], ["", ""], ["", "x\ry", "\r"]] := by
  have separator : Separator ',' := ⟨by decide, by decide, by decide⟩
  have unquoted : Unquoted ',' "a\"b,,c\r\r\n\r\n\n,\r\n,x\ry,\r".toList :=
    ⟨by decide, by decide⟩
  obtain ⟨records, done, split, -⟩ := readRecords_unquoted separator unquoted
  exact ⟨records, done, split.trans (by decide)⟩

end TableQuery.Delimited
