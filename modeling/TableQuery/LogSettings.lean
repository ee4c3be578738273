import TableQuery.Event
import TableQuery.Files.Path

/-! # Log settings

Which events are logged, where to and in which style. What the environment asks for goes before
the settings. How filters are written and how an event looks in a log is up to the host. A log file
is rotated daily: its name is the one in the settings with the date after it.
-/

namespace TableQuery

inductive LogOutput where
  | stdout
  | file (path : String)
  | both (path : String)
  deriving DecidableEq, Repr

inductive LogFormat where
  | pretty
  | compact
  deriving DecidableEq, Repr

structure LogSettings where
  /-- The least level that is logged, or a filter by parts of the program. -/
  level : String
  output : LogOutput
  format : LogFormat
  deriving DecidableEq, Repr

/-- Which events a log shows. -/
structure LogFilter where
  shows : Event → Bool

namespace LogFilter

def off : LogFilter := ⟨fun _ => false⟩

def atLeast (level : Level) : LogFilter := ⟨fun event => level.weight ≤ event.level.weight⟩

/-- The filter that the name of a level stands for. No event has the level of an error. -/
def ofLevelName? (name : String) : Option LogFilter :=
  match String.ofList (name.toList.map Char.toLower) with
  | "off" | "error" => some off
  | "warn" => some (atLeast .warn)
  | "info" => some (atLeast .info)
  | "debug" => some (atLeast .debug)
  | "trace" => some (atLeast .trace)
  | _ => none

def apply (filter : LogFilter) (events : List Event) : List Event := events.filter filter.shows

theorem apply_eq_nil {filter : LogFilter} (silent : ∀ event, filter.shows event = false)
    (events : List Event) : filter.apply events = [] :=
  List.filter_eq_nil_iff.mpr fun event _ => by simp [silent event]

end LogFilter

/-- What a host brings to its log. -/
structure LogHost where
  /-- The filter that a text stands for, none if it makes no sense. -/
  filter? : String → Option LogFilter
  /-- The filter that the environment asks for. -/
  requested? : Option String
  /-- An event as it is logged. What was written before tells the time. -/
  form : (place : Nat) → Event → String

/-- A host that knows the names of levels only and no time, nothing being asked for. -/
def LogHost.plain : LogHost := ⟨LogFilter.ofLevelName?, none, fun _ event => event.plainText⟩

def LogOutput.path? : LogOutput → Option String
  | .stdout => none
  | .file path | .both path => some path

namespace LogSettings

def info : LogSettings := ⟨"info", .stdout, .pretty⟩

def debug : LogSettings := { info with level := "debug" }

def warn : LogSettings := { info with level := "warn" }

def withLevel (settings : LogSettings) (level : String) : LogSettings :=
  { settings with level }

def withOutput (settings : LogSettings) (output : LogOutput) : LogSettings :=
  { settings with output }

def withFormat (settings : LogSettings) (format : LogFormat) : LogSettings :=
  { settings with format }

/-- What is logged: as the environment asks, else as the settings say, else from `info` on. -/
def filter (host : LogHost) (settings : LogSettings) : LogFilter :=
  ((host.requested?.bind host.filter?).or (host.filter? settings.level)).getD (.atLeast .info)

/-- Logging to standard output is set up for the first time. -/
def start (settings : LogSettings) : List Event := [.loggingStarted settings.level]

/-- The name of a log file when the settings give a path without one. -/
def standardFileName : String := "minisql.log"

/-- The place of the log file of a day below the current folder, none when it lies elsewhere. A
    path that ends in `..`, or names nothing at all, names no file. -/
def logFile? (path date : String) : Option (List String) :=
  let parts := Files.components path
  match parts.getLast? with
  | none => some [standardFileName ++ "." ++ date]
  | some last =>
      let name := if last = ".." then standardFileName else last
      if Files.isAbsolute path then none
      else Files.normalize? (parts.dropLast ++ [name ++ "." ++ date])

/-- What setting up logging does when logging is set up already. -/
structure Repeated where
  /-- Whether a writer to a log file was started and has to be kept. -/
  keepsWriter : Bool
  events : List Event
  /-- The log files made below the current folder. -/
  files : List (List String)
  deriving DecidableEq, Repr

/-- Sets up logging a second time: the first set-up stays, yet the log file is made. -/
def startAgain (settings : LogSettings) (date : String) : Repeated where
  keepsWriter := settings.output.path?.isSome
  events := [.loggingKept "a global default trace dispatcher has already been set"]
  files := ((settings.output.path?.bind fun path => logFile? path date)).toList

end LogSettings

end TableQuery
