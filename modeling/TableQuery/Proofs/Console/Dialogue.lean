import TableQuery.Console
import TableQuery.Proofs.Engine.Confinement
import TableQuery.Proofs.Text.Occurrence

/-! # What the console writes

The console answers one line after the other, and no line has a say in what another makes it
write. What it writes for a number of lines is what it writes for the first of them and then what
it writes for the others, up to the first line that asks to leave. A query that fails is printed
as an error like any other answer, and what a line makes the console write depends on the one table
file that the line asks for.

The log of the console goes to the same output. The events that it shows of a query stand before
the answer. Without them the output is the banner and the answers, each below an empty line.
-/

namespace TableQuery.Console

open Text (trim Blanks Spells)

/-- The line holds `exit` or `quit` in letters of either case, with nothing but blanks around. -/
def Leaves (line : String) : Prop :=
  Spells "exit".toList (trim line.toList) ∨ Spells "quit".toList (trim line.toList)

instance (line : String) : Decidable (Leaves line) :=
  inferInstanceAs (Decidable (Spells _ _ ∨ Spells _ _))

/-- The lines before the first that asks to leave. -/
def answered (lines : List String) : List String := lines.takeWhile fun line => ¬Leaves line

def typed (line : String) : String := String.ofList (trim line.toList)

/-- How the result of a query is printed. -/
inductive Printed : Except Error Answer → List String → Prop
  | failure (error : Error) : Printed (.error error) ["Error: " ++ error.message]
  | count (n : Nat) : Printed (.ok (.count n)) ["", "COUNT", "-----", toString n]
  | nothing : Printed (.ok (.rows [])) ["No results found"]
  | rows (first : Row) (rest : List Row) :
      Printed (.ok (.rows (first :: rest)))
        ("" :: String.intercalate "  " first.columns :: String.ofList (List.replicate 30 '-') ::
          (first :: rest).map rowLine)

/-- The events that the log shows of what a line asks. -/
def shown (filter : LogFilter) (engine : Engine) (files : Files.View) (line : String) :
    List Event :=
  match asked? engine files line with
  | none => []
  | some asked => filter.apply asked.events

/-- The lines that are printed in answer to a line. -/
def printed (engine : Engine) (files : Files.View) (line : String) : List String :=
  match asked? engine files line with
  | none => []
  | some asked => outcomeLines asked.result

/-- What is written before the first line is read. -/
def opening (filter : LogFilter) (dataDir level : String) : List Written :=
  (filter.apply [.loggingStarted level, .engineOpened dataDir EngineConfig.standard.extension]).map
    .logged ++ [.line banner]

/-- All that is written when the given lines are read. -/
def transcript (before : List Written) (filter : LogFilter) (engine : Engine) (files : Files.View)
    (lines : List (Option String)) : List Written :=
  before ++ (dialogue filter engine files lines).written

/-- The banner and the answers, with nothing of the log. -/
def answers (engine : Engine) (files : Files.View) (lines : List String) : List String :=
  banner :: (answered lines).flatMap (fun line => "" :: printed engine files line) ++ [""]

def printedLines (written : List Written) : List String :=
  written.filterMap fun
    | .line text => some text
    | .logged _ => none

def linesText (lines : List String) : String := String.join (lines.map (· ++ "\n"))

def folderEngine (dataDir : String) : Engine :=
  let config := { EngineConfig.standard with dataDir }
  ⟨.files config.tableFiles, config⟩

/-- The console reads the line as it stands. -/
structure ReadsAsTyped (line : String) : Prop where
  unbroken : '\n' ∉ line.toList
  kept : '\x08' ∉ line.toList
  closed : line.toList.getLast? ≠ some '\r'

instance (line : String) : Decidable (ReadsAsTyped line) :=
  decidable_of_iff
    ('\n' ∉ line.toList ∧ '\x08' ∉ line.toList ∧ line.toList.getLast? ≠ some '\r')
    ⟨fun ⟨unbroken, kept, closed⟩ => ⟨unbroken, kept, closed⟩,
      fun ⟨unbroken, kept, closed⟩ => ⟨unbroken, kept, closed⟩⟩

variable {filter : LogFilter} {engine : Engine} {files other : Files.View} {line : String}

theorem isExit_iff : isExit line ↔ Leaves line := by
  simp only [isExit, Leaves, Spells, Bool.or_eq_true, beq_iff_eq]
  exact Iff.rfl

theorem printed_outcomeLines (result : Except Error Answer) :
    Printed result (outcomeLines result) := by
  cases result with
  | error error => exact .failure error
  | ok answer =>
      cases answer with
      | count n => exact .count n
      | rows table =>
          cases table with
          | nil => exact .nothing
          | cons first rest => exact .rows first rest

theorem asked?_of_blanks (blank : Blanks line.toList) : asked? engine files line = none := by
  rw [asked?, Text.trim_eq_nil_iff.mpr blank]
  rfl

theorem asked?_of_not_blanks (spoken : ¬Blanks line.toList) :
    asked? engine files line = some (engine.query files (typed line)) := by
  have present : ¬(trim line.toList).isEmpty := fun nothing =>
    spoken (Text.trim_eq_nil_iff.mp (List.isEmpty_iff.mp nothing))
  rw [asked?, if_neg present, typed]

theorem block_eq_append : block filter engine files line =
    (shown filter engine files line).map .logged ++ (printed engine files line).map .line := by
  rw [block, shown, printed]
  cases asked? engine files line with
  | none => rfl
  | some asked => rfl

theorem printed_of_error {error : Error} (spoken : ¬Blanks line.toList)
    (failed : (engine.query files (typed line)).result = .error error) :
    printed engine files line = ["Error: " ++ error.message] := by
  rw [printed, asked?_of_not_blanks spoken]
  simp only [failed, outcomeLines]

theorem filesFor_files (tables : TableFiles) (config : EngineConfig) (line : String) :
    filesFor ⟨.files tables, config⟩ line =
      (((accepted? config.maxQueryLength (typed line)).toList.map Query.source).filter
        fun name => (tableNameFault? name).isNone).map tables.path := by
  let nowhere : Files.View := ⟨fun _ => .error .notFound⟩
  have alone : (tables.store nowhere).asked = fun query => [query.source] := by
    funext query
    exact congrArg _ (tables.reported_resolve nowhere query.source).lookups_eq
  have asked : (Engine.query ⟨.files tables, config⟩ nowhere (typed line)).lookups =
      (accepted? config.maxQueryLength (typed line)).toList.map Query.source := by
    rw [Engine.lookups_query, Backend.store, alone, List.map_eq_flatMap]
  rw [← asked]
  rfl

theorem length_filesFor_le (engine : Engine) (line : String) :
    (filesFor engine line).length ≤ 1 := by
  obtain ⟨backend, config⟩ := engine
  cases backend with
  | memory | host => exact Nat.zero_le 1
  | files tables =>
      rw [filesFor_files, List.length_map]
      refine Nat.le_trans (List.length_filter_le _ _) ?_
      rw [List.length_map]
      cases accepted? config.maxQueryLength (typed line) with
      | none => exact Nat.zero_le 1
      | some query => exact Nat.le_refl 1

theorem query_congr_of_filesFor
    (same : ∀ path ∈ filesFor engine line, files.read path = other.read path) :
    engine.query files (typed line) = engine.query other (typed line) := by
  obtain ⟨backend, config⟩ := engine
  cases accepted : accepted? config.maxQueryLength (typed line) with
  | none =>
      obtain ⟨events, error, refused⟩ := Engine.query_of_not_accepted accepted
      rw [refused, refused]
  | some query =>
      cases backend with
      | memory tables => rfl
      | host store => rfl
      | files tables =>
          by_cases improper : Improper query.source
          -- No file needs to read alike for a name that is refused.
          · obtain ⟨reason, refused⟩ := Engine.query_of_improper accepted improper
            rw [refused, refused]
          · have found := tableNameFault?_eq_none_iff.mpr improper
            refine Engine.query_congr_of_read accepted (same _ ?_)
            simp [filesFor_files, accepted, found]

theorem asked?_congr (same : ∀ path ∈ filesFor engine line, files.read path = other.read path) :
    asked? engine files line = asked? engine other line := by
  by_cases blank : Blanks line.toList
  · rw [asked?_of_blanks blank, asked?_of_blanks blank]
  · rw [asked?_of_not_blanks blank, asked?_of_not_blanks blank, query_congr_of_filesFor same]

theorem dialogue_of_leaves (leaves : Leaves line) (lines : List (Option String)) :
    dialogue filter engine files (some line :: lines) = ⟨[.line ""], 0⟩ := by
  rw [dialogue, respond?, if_pos (isExit_iff.mpr leaves)]

theorem dialogue_of_stays (stays : ¬Leaves line) (lines : List (Option String)) :
    dialogue filter engine files (some line :: lines) =
      ⟨.line "" :: (block filter engine files line ++ (dialogue filter engine files lines).written),
        (dialogue filter engine files lines).exitCode⟩ := by
  rw [dialogue, respond?, if_neg (mt isExit_iff.mp stays)]

/-- Lines that do not ask to leave are answered, and then the others as if they came first. -/
theorem dialogue_append {lines : List String} (stay : ∀ line ∈ lines, ¬Leaves line)
    (later : List (Option String)) :
    dialogue filter engine files (lines.map some ++ later) =
      ⟨lines.flatMap (fun line => .line "" :: block filter engine files line) ++
          (dialogue filter engine files later).written,
        (dialogue filter engine files later).exitCode⟩ := by
  induction lines with
  | nil => rfl
  | cons line lines ih =>
      have rest := ih fun line inside => stay line (List.mem_cons_of_mem _ inside)
      rw [List.map_cons, List.cons_append, dialogue_of_stays (stay line List.mem_cons_self), rest]
      simp only [List.flatMap_cons, List.cons_append, List.append_assoc]

theorem dialogue_append_of_leaves (leaves : Leaves line) (lines : List String)
    (later : List (Option String)) :
    dialogue filter engine files (lines.map some ++ some line :: later) =
      dialogue filter engine files (lines.map some) := by
  induction lines with
  | nil => exact dialogue_of_leaves leaves later
  | cons first lines ih =>
      rw [List.map_cons, List.cons_append]
      by_cases out : Leaves first
      · rw [dialogue_of_leaves out, dialogue_of_leaves out]
      · rw [dialogue_of_stays out, dialogue_of_stays out, ih]

theorem not_leaves_of_mem_answered {lines : List String} (inside : line ∈ answered lines) :
    ¬Leaves line := by
  simpa using List.all_eq_true.mp List.all_takeWhile line inside

theorem dialogue_map_some (lines : List String) :
    dialogue filter engine files (lines.map some) =
      ⟨(answered lines).flatMap (fun line => .line "" :: block filter engine files line) ++
        [.line ""], 0⟩ := by
  have cut : answered lines ++ lines.dropWhile (fun line => ¬Leaves line) = lines :=
    List.takeWhile_append_dropWhile
  -- What is left of the lines is nothing or begins with a line that leaves, which writes the same.
  have ends : dialogue filter engine files ((lines.dropWhile fun line => ¬Leaves line).map some) =
      ⟨[.line ""], 0⟩ := by
    cases rest : lines.dropWhile fun line => ¬Leaves line with
    | nil => rfl
    | cons line later =>
        have leaves : Leaves line := by
          have stop := List.head?_dropWhile_not (fun line => decide ¬Leaves line) lines
          rw [rest] at stop
          simpa using stop
        exact dialogue_of_leaves leaves _
  calc
    dialogue filter engine files (lines.map some)
      = dialogue filter engine files ((answered lines).map some ++
          (lines.dropWhile fun line => ¬Leaves line).map some) := by rw [← List.map_append, cut]
    _ = _ := by rw [dialogue_append fun line => not_leaves_of_mem_answered, ends]

section Transcripts

variable {before : List Written}

theorem transcript_append {lines : List String} (stay : ∀ line ∈ lines, ¬Leaves line)
    (later : List (Option String)) :
    transcript before filter engine files (lines.map some ++ later) =
      (transcript before filter engine files (lines.map some)).dropLast ++
        (transcript before filter engine files later).drop before.length := by
  have alone : dialogue filter engine files (lines.map some) =
      ⟨lines.flatMap (fun line => .line "" :: block filter engine files line) ++ [.line ""],
        0⟩ := by
    rw [← List.append_nil (lines.map some), dialogue_append stay]
    rfl
  rw [transcript, transcript, transcript, dialogue_append stay, alone, List.drop_left,
    ← List.append_assoc, ← List.append_assoc, List.dropLast_concat]

theorem transcript_append_of_error {lines : List String} {error : Error}
    (stay : ∀ line ∈ lines, ¬Leaves line) (stays : ¬Leaves line) (spoken : ¬Blanks line.toList)
    (failed : (engine.query files (typed line)).result = .error error)
    (later : List (Option String)) :
    transcript before filter engine files (lines.map some ++ some line :: later) =
      (transcript before filter engine files (lines.map some)).dropLast ++
        .line "" :: ((shown filter engine files line).map .logged ++
          .line ("Error: " ++ error.message) ::
            (transcript before filter engine files later).drop before.length) := by
  rw [transcript_append stay]
  simp only [transcript, dialogue_of_stays stays, List.drop_left, block_eq_append,
    printed_of_error spoken failed, List.map_cons, List.map_nil, List.append_assoc,
    List.cons_append, List.nil_append]

end Transcripts

section Lines

theorem printedLines_append (first second : List Written) :
    printedLines (first ++ second) = printedLines first ++ printedLines second :=
  List.filterMap_append

theorem printedLines_map_logged (events : List Event) : printedLines (events.map .logged) = [] := by
  simp [printedLines]

theorem printedLines_map_line (lines : List String) : printedLines (lines.map .line) = lines := by
  rw [printedLines, List.filterMap_map]
  exact List.filterMap_some

theorem printedLines_block : printedLines (block filter engine files line) =
    printed engine files line := by
  rw [block_eq_append, printedLines_append, printedLines_map_logged, printedLines_map_line,
    List.nil_append]

theorem printedLines_dialogue (lines : List String) :
    banner :: printedLines (dialogue filter engine files (lines.map some)).written =
      answers engine files lines := by
  have each : ∀ line, printedLines (.line "" :: block filter engine files line) =
      "" :: printed engine files line :=
    fun line => congrArg ("" :: ·) printedLines_block
  have all : printedLines ((answered lines).flatMap fun line =>
      .line "" :: block filter engine files line) =
        (answered lines).flatMap fun line => "" :: printed engine files line := by
    rw [printedLines, List.filterMap_flatMap]
    exact List.flatMap_congr fun line _ => each line
  rw [dialogue_map_some, printedLines_append, all, answers, List.cons_append]
  rfl

theorem printedLines_transcript (dataDir level : String) (lines : List String) :
    printedLines (transcript (opening filter dataDir level) filter engine files (lines.map some)) =
      answers engine files lines := by
  rw [transcript, opening, printedLines_append, printedLines_append, printedLines_map_logged,
    ← printedLines_dialogue]
  rfl

theorem transcript_of_silent (silent : ∀ event, filter.shows event = false)
    (dataDir level : String) (lines : List String) :
    transcript (opening filter dataDir level) filter engine files (lines.map some) =
      (answers engine files lines).map .line := by
  have quiet : ∀ line, shown filter engine files line = [] := by
    intro line
    rw [shown]
    cases asked? engine files line with
    | none => rfl
    | some asked => exact LogFilter.apply_eq_nil silent asked.events
  rw [transcript, opening, dialogue_map_some, LogFilter.apply_eq_nil silent, answers]
  simp [block_eq_append, quiet, List.map_flatMap]

theorem output_map_line (form : (place : Nat) → Event → String) (lines : List String)
    (exitCode : UInt32) :
    (Run.mk (lines.map .line) exitCode).output form = ⟨linesText lines, exitCode⟩ := by
  have texts : (lines.map Written.line).mapIdx (Written.text form) = lines.map (· ++ "\n") := by
    apply List.ext_getElem <;> simp [Written.text]
  rw [Run.output, linesText, texts]

end Lines

theorem toList_linesText (lines : List String) :
    (linesText lines).toList = lines.flatMap fun line => line.toList ++ ['\n'] := by
  induction lines with
  | nil => rfl
  | cons line lines ih =>
      rw [linesText] at ih ⊢
      rw [List.map_cons, String.join_cons, String.toList_append, ih, List.flatMap_cons,
        String.toList_append]
      rfl

theorem splitOn_linesText {lines : List String} (unbroken : ∀ line ∈ lines, '\n' ∉ line.toList) :
    (linesText lines).toList.splitOn '\n' = lines.map String.toList ++ [[]] := by
  rw [toList_linesText]
  induction lines with
  | nil => rfl
  | cons line lines ih =>
      have rest := ih fun line inside => unbroken line (List.mem_cons_of_mem _ inside)
      have first := unbroken line List.mem_cons_self
      rw [List.flatMap_cons, List.append_assoc, List.singleton_append,
        List.splitOn_append_cons_self_of_not_mem first, rest]
      rfl

theorem inputLines_linesText {lines : List String} (plain : ∀ line ∈ lines, ReadsAsTyped line) :
    inputLines (linesText lines) = lines.map some := by
  have pieces := splitOn_linesText fun line inside => (plain line inside).unbroken
  have asTyped : ∀ line ∈ lines,
      (applyBackspaces? (dropReturn line.toList)).map String.ofList = some line := by
    intro line inside
    obtain ⟨-, kept, closed⟩ := plain line inside
    rw [dropReturn, if_neg closed, applyBackspaces?, if_neg (by simpa using kept)]
    simp
  rw [inputLines, pieces]
  simpa using asTyped

theorem run_eq_transcript (host : LogHost) (level : String) {dataDir input : String}
    {lines : List String} (folder : files.isFile dataDir = false)
    (read : inputLines input = lines.map some) :
    run host files dataDir level input =
      ⟨transcript (opening ((LogSettings.info.withLevel level).filter host) dataDir level)
        ((LogSettings.info.withLevel level).filter host) (folderEngine dataDir) files
        (lines.map some), 0⟩ := by
  have opened : Engine.onFiles files { EngineConfig.standard with dataDir } =
      ⟨[.engineOpened dataDir EngineConfig.standard.extension], [],
        .ok (folderEngine dataDir)⟩ := by
    rw [Engine.onFiles, folder]
    rfl
  rw [run, opened, read]
  simp only [transcript, opening, dialogue_map_some, List.append_assoc, List.singleton_append]
  rfl

end TableQuery.Console
