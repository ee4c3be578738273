import TableQuery.Console

/-! # The console as a program

Reads queries from standard input and answers them from the table files in a folder.
-/

namespace TableQuery.Console

def isFolder (path : String) : IO Bool := do
  try (← IO.FS.realPath path).isDir
  catch _ => return false

/-- What a path leads to now. -/
def lookAt (path : String) : IO (Except Files.ReadFault Files.Node) := do
  if path.toList.contains '\x00' then return .error .nulInPath
  try
    return .ok (.file (← IO.FS.readBinFile path))
  catch
    | .noFileOrDirectory .. => return .error .notFound
    | .inappropriateType .. =>
        if ← isFolder path then return .ok .folder else return .error .notFolder
    | fault => return .error (.other (toString fault))

/-- A view of the files at the given paths as they are now. -/
def viewOf (paths : List String) : IO Files.View := do
  let seen ← paths.mapM fun path => return (path, ← lookAt path)
  return ⟨fun path => (seen.lookup path).getD (.error .notFound)⟩

/-- The plain host with what the environment asks for. -/
def hostHere : IO LogHost := do return { LogHost.plain with requested? := ← IO.getEnv "RUST_LOG" }

/-- Writes a part of the output. How the plain host puts an event does not depend on its place. -/
def write (host : LogHost) (written : List Written) : IO Unit := do
  let out ← IO.getStdout
  for entry in written do out.putStr (entry.text host.form 0)
  out.flush

partial def converse (host : LogHost) (filter : LogFilter) (engine : Engine) : IO UInt32 := do
  write host [.line ""]
  for line? in inputLines (← (← IO.getStdin).getLine) do
    let some line := line? | return unreadableCode
    match respond? filter engine (← viewOf (filesFor engine line)) line with
    | none => return 0
    | some written =>
        write host written
        return ← converse host filter engine
  return 0

end TableQuery.Console

open TableQuery TableQuery.Console

def main (arguments : List String) : IO UInt32 := do
  match Call.ofArguments arguments with
  | .help => IO.print helpText; return 0
  | .version => IO.print versionText; return 0
  | .misuse reason => IO.eprintln s!"error: {reason}"; return 2
  | .converse dataDir level =>
      let host ← hostHere
      let settings := LogSettings.info.withLevel level
      let filter := settings.filter host
      let config := { EngineConfig.standard with dataDir }
      let opened := Engine.onFiles (← viewOf [dataDir]) config
      write host ((filter.apply (settings.start ++ opened.events)).map .logged)
      match opened.result with
      | .error error => IO.eprintln s!"Error: {error.message}"; return 1
      | .ok engine =>
          write host [.line banner]
          converse host filter engine
