import TableQuery.Error
import TableQuery.Query.Canonical

/-! # Events

What running reports on the way, for a log. Each event has a level, a message and named fields
whose values are texts.
-/

namespace TableQuery

inductive Level where
  | trace
  | debug
  | info
  | warn
  deriving DecidableEq, Repr

namespace Level

def name : Level → String
  | .trace => "TRACE"
  | .debug => "DEBUG"
  | .info => "INFO"
  | .warn => "WARN"

/-- The weightier a level, the fewer logs leave its events out. -/
def weight : Level → Nat
  | .trace => 0
  | .debug => 1
  | .info => 2
  | .warn => 3

end Level

inductive Event where
  | recognized (query : Query)
  | textRejected (error : Error)
  | executing (query : Query)
  | nameRejected (failure : Failure)
  /-- A table file was read, with its size in bytes. -/
  | fileRead (path : String) (bytes : Nat)
  /-- The record that starts at the line has more or fewer fields than the header. -/
  | widthDiffers (table : String) (line fields columns : Nat)
  | tableLoaded (table : String) (rows : Nat)
  | filtered (condition : Condition) (before after : Nat)
  | counted (aggregate : Aggregate) (count : Nat)
  | completed (rows : Nat)
  | tableRegistered (table : String) (rows : Nat)
  | engineOpened (dataDir extension : String)
  /-- Logging to standard output was set up, with the level it was asked for. -/
  | loggingStarted (level : String)
  /-- Logging was set up already. -/
  | loggingKept (reason : String)
  deriving DecidableEq, Repr

namespace Event

def level : Event → Level
  | .recognized _ | .widthDiffers .. => .trace
  | .textRejected _ | .nameRejected _ => .warn
  | .engineOpened .. => .info
  | .executing _ | .fileRead .. | .tableLoaded .. | .filtered .. | .counted .. | .completed _
  | .tableRegistered .. | .loggingStarted _ | .loggingKept _ => .debug

def message : Event → String
  | .recognized _ => "recognized query"
  | .textRejected _ => "rejected query text"
  | .executing _ => "executing query"
  | .nameRejected _ => "rejected table name"
  | .fileRead .. => "read table file"
  | .widthDiffers .. => "record width differs from header"
  | .tableLoaded .. => "loaded table"
  | .filtered .. => "filtered rows"
  | .counted .. => "aggregated rows"
  | .completed _ => "query complete"
  | .tableRegistered .. => "registering table"
  | .engineOpened .. => "Opening MiniSQL engine"
  | .loggingStarted _ => "logging initialized"
  | .loggingKept _ => "global subscriber already installed, keeping it"

/-- The named values of an event, numbers in decimal and queries in canonical text. -/
def fields : Event → List (String × String)
  | .recognized query => [("query", query.text)]
  | .textRejected error => [("error", error.message)]
  | .executing query => [("query", query.text)]
  | .nameRejected failure => [("error", failure.message)]
  | .fileRead path bytes => [("path", path), ("bytes", toString bytes)]
  | .widthDiffers table line fields columns =>
      [("table", table), ("line", toString line), ("fields", toString fields),
        ("columns", toString columns)]
  | .tableLoaded table rows => [("table", table), ("rows", toString rows)]
  | .filtered condition before after =>
      [("condition", condition.text), ("before", toString before), ("after", toString after)]
  | .counted aggregate count => [("aggregate", aggregate.text), ("count", toString count)]
  | .completed rows => [("rows", toString rows)]
  | .tableRegistered table rows => [("table", table), ("rows", toString rows)]
  | .engineOpened dataDir extension => [("data_dir", dataDir), ("extension", extension)]
  | .loggingStarted level => [("level", level), ("output", "Stdout")]
  | .loggingKept reason => [("error", reason)]

/-- An event on a line, with nothing of when it was reported. -/
def plainText (event : Event) : String :=
  event.level.name ++ " " ++ event.message ++
    String.join (event.fields.map fun (name, value) => " " ++ name ++ "=" ++ value) ++ "\n"

end Event

end TableQuery
