import TableQuery.Console.Arguments
import TableQuery.Console.Line
import TableQuery.Engine.Basic
import TableQuery.LogSettings

/-! # The console

The console reads a query a line and prints its answer, until a line says to leave or cannot be
read, or the input ends. Before each read it prints an empty line. It works on table files in one
folder. Its log goes where it prints to, so the events that the log shows stand between the lines.
What reads the lines is taken to write nothing.
-/

namespace TableQuery.Console

open Text (trim)

def banner : String := "Mini SQL Engine (type 'exit' to quit)"

/-- Whether a line asks to leave. -/
def isExit (line : String) : Bool :=
  let word := (trim line.toList).map Char.toLower
  word == "exit".toList || word == "quit".toList

/-- A row's cells side by side, absent ones empty. -/
def rowLine (row : Row) : String :=
  String.intercalate "  " (row.values.map fun cell => cell.getD "")

/-- How an answer is printed: a count under its title, rows under the columns of the first. -/
def answerLines : Answer → List String
  | .count n => ["", "COUNT", "-----", toString n]
  | .rows [] => ["No results found"]
  | .rows (first :: rest) =>
      "" :: String.intercalate "  " first.keys :: String.ofList (List.replicate 30 '-') ::
        (first :: rest).map rowLine

/-- What goes to standard output. -/
inductive Written where
  /-- A line that the console prints. -/
  | line (text : String)
  /-- An event that the log shows. -/
  | logged (event : Event)
  deriving DecidableEq, Repr

/-- The text of what is written at a place of the output. -/
def Written.text (form : (place : Nat) → Event → String) (place : Nat) : Written → String
  | .line text => text ++ "\n"
  | .logged event => form place event

/-- How the outcome of a query is printed. -/
def outcomeLines : Except Error Answer → List String
  | .ok answer => answerLines answer
  | .error error => ["Error: " ++ error.message]

/-- What a line asks of the engine, nothing if it is blank. -/
def asked? (engine : Engine) (files : Files.View) (line : String) : Option (Traced Error Answer) :=
  let input := trim line.toList
  if input.isEmpty then none else some (engine.query files (String.ofList input))

/-- What a line makes the console write: first the events that its query reports, as far as the log
    shows them, and then how the query came out. -/
def block (filter : LogFilter) (engine : Engine) (files : Files.View) (line : String) :
    List Written :=
  match asked? engine files line with
  | none => []
  | some asked =>
      (filter.apply asked.events).map .logged ++ (outcomeLines asked.result).map .line

/-- What a line makes the console write, none when it asks to leave. -/
def respond? (filter : LogFilter) (engine : Engine) (files : Files.View) (line : String) :
    Option (List Written) :=
  if isExit line then none else some (block filter engine files line)

/-- The paths of the files that the answer to a line is read from. -/
def filesFor (engine : Engine) (line : String) : List String :=
  match engine.backend with
  | .files tables =>
      let asked := engine.query ⟨fun _ => .error .notFound⟩ (String.ofList (trim line.toList))
      (asked.lookups.filter fun name => (tableNameFault? name).isNone).map tables.path
  | _ => []

/-- The exit code after a line that cannot be read. -/
def unreadableCode : UInt32 := 101

/-- What is written from first to last, and the exit code. -/
structure Run where
  written : List Written
  exitCode : UInt32
  deriving DecidableEq, Repr

/-- The run while lines are read, the empty line before each read included. Nothing is read after a
    line that asks to leave, or after one that cannot be read. -/
def dialogue (filter : LogFilter) (engine : Engine) (files : Files.View) :
    List (Option String) → Run
  | [] => ⟨[.line ""], 0⟩
  | none :: _ => ⟨[.line ""], unreadableCode⟩
  | some line :: lines =>
      match respond? filter engine files line with
      | none => ⟨[.line ""], 0⟩
      | some written =>
          let later := dialogue filter engine files lines
          ⟨.line "" :: (written ++ later.written), later.exitCode⟩

/-- A whole run. Nothing is printed when the engine cannot work on the folder. -/
def run (host : LogHost) (files : Files.View) (dataDir level input : String) : Run :=
  let settings := LogSettings.info.withLevel level
  let filter := settings.filter host
  let opened := Engine.onFiles files { EngineConfig.standard with dataDir }
  let started := (filter.apply (settings.start ++ opened.events)).map Written.logged
  match opened.result with
  | .error _ => ⟨started, 1⟩
  | .ok engine =>
      let talk := dialogue filter engine files (inputLines input)
      ⟨started ++ .line banner :: talk.written, talk.exitCode⟩

/-- The text of standard output, and the exit code. -/
structure Output where
  text : String
  exitCode : UInt32
  deriving DecidableEq, Repr

def Run.output (run : Run) (form : (place : Nat) → Event → String) : Output :=
  ⟨String.join (run.written.mapIdx (Written.text form)), run.exitCode⟩

/-- A whole call. Help and version are printed without anything being read. -/
def callOn (host : LogHost) (files : Files.View) (arguments : List String) (input : String) :
    Output :=
  match Call.ofArguments arguments with
  | .converse dataDir level => (run host files dataDir level input).output host.form
  | .help => ⟨helpText, 0⟩
  | .version => ⟨versionText, 0⟩
  | .misuse _ => ⟨"", 2⟩

def call : Files.View → List String → String → Output := callOn .plain

end TableQuery.Console
