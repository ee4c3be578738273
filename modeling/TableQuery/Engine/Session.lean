import TableQuery.Engine.Basic

/-! # Sessions

A session is one engine in use through any number of handles, beside files that may change
meanwhile. All handles are the same engine: what is registered through one is seen through
every other.
-/

namespace TableQuery

/-- What is asked of an engine. -/
inductive Action where
  | insert (table : String) (rows : List Row)
  | query (text : String)
  | recognize (text : String)
  | execute (query : Query)
  /-- Makes another handle. -/
  | clone

/-- A step of a session: an action through a handle, or a change of the files. -/
inductive Step where
  | act (handle : Nat) (action : Action)
  | change (change : Files.Change)

inductive Reply where
  | done
  | answer (answer : Answer)
  | recognized (query : Query)
  /-- The number of handles there are now. -/
  | handles (n : Nat)
  /-- The handle was never made. -/
  | noHandle

structure Session where
  engine : Engine
  handles : Nat
  /-- The table names that the engine's store was asked for, in order. -/
  lookups : List String
  files : Files.Tree

namespace Session

def start (engine : Engine) (files : Files.Tree) : Session := ⟨engine, 1, [], files⟩

/-- What an action answers, and the engine and number of handles after it. An action that fails
    leaves both as they are. -/
def act (session : Session) (action : Action) : Traced Error (Engine × Nat × Reply) :=
  let engine := session.engine
  let handles := session.handles
  match action with
  | .insert table rows => do return (← engine.insertTable table rows, handles, .done)
  | .query text => do return (engine, handles, .answer (← engine.query session.files.view text))
  | .recognize text => do return (engine, handles, .recognized (← engine.recognize text))
  | .execute query => do
      return (engine, handles, .answer (← engine.execute session.files.view query))
  | .clone => return (engine, handles + 1, .handles (handles + 1))

/-- The session after a step, and what the step answered. -/
def step (session : Session) : Step → Session × Traced Error Reply
  | .change change => ({ session with files := session.files.apply change }, return .done)
  | .act handle action =>
      if handle < session.handles then
        let outcome := session.act action
        let session := { session with lookups := session.lookups ++ outcome.lookups }
        match outcome.result with
        | .ok (engine, handles, reply) =>
            ({ session with engine, handles }, { outcome with result := .ok reply })
        | .error error => (session, { outcome with result := .error error })
      else (session, return .noHandle)

/-- The answers to a list of steps, one after the other. -/
def run (session : Session) : List Step → Session × List (Traced Error Reply)
  | [] => (session, [])
  | step :: steps =>
      let (next, answer) := session.step step
      let (final, answers) := next.run steps
      (final, answer :: answers)

end Session

end TableQuery
