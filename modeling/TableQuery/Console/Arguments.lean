import TableQuery.Engine.Config

/-! # Arguments of the console

The console is called with at most one folder, the one its table files are in, and with options
before or after it. After `--` nothing is an option. The arguments are taken in order, and the
first that asks for help or the version, or that makes no sense, decides.
-/

namespace TableQuery.Console

/-- What a call of the console asks for. -/
inductive Call where
  | converse (dataDir level : String)
  | help
  | version
  | misuse (reason : String)
  deriving DecidableEq, Repr

/-- What the arguments have given so far. -/
structure Given where
  dataDir? : Option String
  level? : Option String
  deriving DecidableEq, Repr

/-- The log level unless one is given. -/
def standardLevel : String := "warn"

namespace Call

/-- Whether an argument is an option. A lone dash is a name like any other. -/
def isOption (argument : String) : Bool :=
  match argument.toList with
  | '-' :: _ :: _ => true
  | _ => false

/-- The call when all arguments left are folders. -/
def afterSeparator (given : Given) (arguments : List String) : Call :=
  let level := given.level?.getD standardLevel
  match given.dataDir?.toList ++ arguments with
  | [] => .converse EngineConfig.standard.dataDir level
  | "" :: _ => .misuse "a value is required for '[DATA_DIR]'"
  | [dataDir] => .converse dataDir level
  | _ :: second :: _ => .misuse s!"unexpected argument '{second}'"

/-- The call that the arguments left complete. -/
def complete (given : Given) : List String → Call
  | [] => afterSeparator given []
  | "--" :: rest => afterSeparator given rest
  | "--help" :: _ => .help
  | "--version" :: _ => .version
  | ["--log-level"] => .misuse "a value is required for '--log-level'"
  | "--log-level" :: level :: rest =>
      if isOption level then .misuse "a value is required for '--log-level'"
      else if given.level?.isSome then .misuse "'--log-level' cannot be used multiple times"
      else complete { given with level? := some level } rest
  | argument :: rest =>
      if argument.startsWith "--log-level=" then
        if given.level?.isSome then .misuse "'--log-level' cannot be used multiple times"
        else
          let level := String.ofList (argument.toList.drop "--log-level=".length)
          complete { given with level? := some level } rest
      else
        match argument.toList with
        | '-' :: 'h' :: _ => .help
        | '-' :: 'V' :: _ => .version
        | '-' :: _ :: _ => .misuse s!"unexpected argument '{argument}'"
        | [] => .misuse "a value is required for '[DATA_DIR]'"
        | _ =>
            if given.dataDir?.isSome then .misuse s!"unexpected argument '{argument}'"
            else complete { given with dataDir? := some argument } rest

def ofArguments (arguments : List String) : Call := complete ⟨none, none⟩ arguments

end Call

def helpText : String :=
  "Interactive console over a directory of CSV tables\n\n" ++
  "Usage: repl [OPTIONS] [DATA_DIR]\n\n" ++
  "Arguments:\n" ++
  "  [DATA_DIR]  Directory holding one `<table>.csv` per table [default: data]\n\n" ++
  "Options:\n" ++
  "      --log-level <LOG_LEVEL>  Log level filter (overridden by RUST_LOG) [default: warn]\n" ++
  "  -h, --help                   Print help\n" ++
  "  -V, --version                Print version\n"

def versionText : String := "minisql-repl " ++ engineVersion ++ "\n"

end TableQuery.Console
