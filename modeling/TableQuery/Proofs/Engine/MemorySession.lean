import TableQuery.Engine.Session

/-! # Sessions on tables in memory

Only a registration changes an engine on tables in memory. So whatever was asked before, and
through whichever handles, the engine holds for each name the rows last registered under it, and
answers as any engine that holds the same. Two sessions are alike when their engines hold the same
under each name and they have as many handles; alike sessions answer alike and stay alike.
-/

namespace TableQuery

/-- The rows that the step registers under a name. -/
def Step.registered? (name : String) : Step → Option (List Row)
  | .act _ (.insert table rows) => if table = name then some rows else none
  | _ => none

/-- The rows that the last registration under a name left there. -/
def lastRegistered? (steps : List Step) (name : String) : Option (List Row) :=
  steps.reverse.findSome? (Step.registered? name)

def Step.asks : Step → Bool
  | .act _ (.query _) | .act _ (.recognize _) | .act _ (.execute _) => true
  | _ => false

/-- The step goes through one of so many handles. -/
def Step.Through (handles : Nat) : Step → Prop
  | .act handle _ => handle < handles
  | .change _ => True

def Step.handlesAfter (handles : Nat) : Step → Nat
  | .act _ .clone => handles + 1
  | _ => handles

/-- Each step goes through a handle that has been made by then. -/
def Handled (handles : Nat) : List Step → Prop
  | [] => True
  | step :: steps => step.Through handles ∧ Handled (step.handlesAfter handles) steps

/-- What stands at the places that are kept. -/
def atPlaces {α : Type} (kept : Nat → Bool) : List α → List α
  | [] => []
  | x :: xs =>
      let rest := atPlaces (fun i => kept (i + 1)) xs
      if kept 0 then x :: rest else rest

namespace Engine

/-- The reply to an action that asks. -/
def reply? (engine : Engine) (view : Files.View) : Action → Option (Traced Error Reply)
  | .query text => some (Reply.answer <$> engine.query view text)
  | .recognize text => some (Reply.recognized <$> engine.recognize text)
  | .execute query => some (Reply.answer <$> engine.execute view query)
  | .insert .. | .clone => none

/-- Engines on tables in memory that hold the same rows under each name, in any order of the
    names. -/
inductive HoldsSame (one other : Engine) : Prop where
  | memory {tables others : MemoryTables} {config : EngineConfig}
      (here : one = ⟨.memory tables, config⟩) (there : other = ⟨.memory others, config⟩)
      (found : ∀ name, tables.get? name = others.get? name)

theorem store_congr {tables others : MemoryTables}
    (found : ∀ name, tables.get? name = others.get? name) : tables.store = others.store := by
  simp only [MemoryTables.store, MemoryTables.resolve, found]

theorem HoldsSame.reply?_eq {one other : Engine} (same : HoldsSame one other)
    (view otherView : Files.View) (action : Action) :
    one.reply? view action = other.reply? otherView action := by
  obtain ⟨rfl, rfl, found⟩ := same
  have stores := store_congr found
  cases action with
  | insert | clone => rfl
  | recognize text => rfl
  | query text => simp only [reply?, query, execute, Backend.store, stores]; rfl
  | execute query => simp only [reply?, execute, Backend.store, stores]

end Engine

namespace Session

variable {session one other : Session} {handle : Nat} {action : Action}

theorem step_of_reply? {answered : Traced Error Reply} (made : handle < session.handles)
    (asked : session.engine.reply? session.files.view action = some answered) :
    session.step (.act handle action) =
      ({ session with lookups := session.lookups ++ answered.lookups }, answered) := by
  have acts : session.act action =
      (do let reply ← answered; return (session.engine, session.handles, reply)) := by
    cases action with
    | insert | clone => cases asked
    | query | recognize | execute => cases asked; simp [act]
  rw [step, if_pos made, acts]
  obtain ⟨events, lookups, error | reply⟩ := answered <;> simp

theorem step_clone (made : handle < session.handles) :
    session.step (.act handle .clone) =
      ({ session with handles := session.handles + 1 }, return .handles (session.handles + 1)) := by
  rw [step, if_pos made]
  simp [act]

theorem step_of_not_made (unmade : ¬handle < session.handles) :
    session.step (.act handle action) = (session, return .noHandle) := by
  rw [step, if_neg unmade]

theorem step_insert {tables : MemoryTables} {config : EngineConfig}
    (memory : session.engine = ⟨.memory tables, config⟩) (handle : Nat) (table : String)
    (rows : List Row) :
    ∃ after : MemoryTables,
      (∀ name, after.get? name =
        if handle < session.handles ∧ name = table then some rows else tables.get? name) ∧
      (session.step (.act handle (.insert table rows))).1.engine = ⟨.memory after, config⟩ ∧
      (session.step (.act handle (.insert table rows))).1.handles = session.handles ∧
      (session.step (.act handle (.insert table rows))).2 =
        if handle < session.handles then ⟨[.tableRegistered table rows.length], [], .ok .done⟩
        else return .noHandle := by
  by_cases made : handle < session.handles
  · refine ⟨tables.set table rows, ?_, ?_⟩
    · simp [made]
    · simp [step, made, act, Engine.insertTable, memory, Traced.emit]
  · refine ⟨tables, ?_, ?_⟩
    · simp [made]
    · simp [step_of_not_made made, made, memory]

theorem step_of_asks (session : Session) {step : Step} (asks : step.asks) :
    (session.step step).1.engine = session.engine ∧
      (session.step step).1.handles = session.handles := by
  cases step with
  | change change => cases asks
  | act handle action =>
      obtain ⟨answered, asked⟩ :
          ∃ answered, session.engine.reply? session.files.view action = some answered := by
        cases action with
        | insert | clone => cases asks
        | query | recognize | execute => exact ⟨_, rfl⟩
      by_cases made : handle < session.handles
      · rw [step_of_reply? made asked]
        exact ⟨rfl, rfl⟩
      · rw [step_of_not_made made]
        exact ⟨rfl, rfl⟩

theorem answers_append (session : Session) (before after : List Step) :
    (session.run (before ++ after)).2 =
      (session.run before).2 ++ ((session.run before).1.run after).2 := by
  induction before generalizing session with
  | nil => rfl
  | cons step before ih => exact congrArg ((session.step step).2 :: ·) (ih (session.step step).1)

theorem length_answers (session : Session) (steps : List Step) :
    (session.run steps).2.length = steps.length := by
  induction steps generalizing session with
  | nil => rfl
  | cons step steps ih => exact congrArg (· + 1) (ih (session.step step).1)

theorem answers_append_two (session : Session) (before : List Step) (first second : Step)
    (after : List Step) :
    let reached := (session.run before).1
    (session.run (before ++ first :: second :: after)).2 =
      (session.run before).2 ++ (reached.step first).2 :: ((reached.step first).1.step second).2 ::
        (((reached.step first).1.step second).1.run after).2 :=
  session.answers_append before (first :: second :: after)

/-- Sessions whose engines hold the same tables in memory, with as many handles. -/
structure Alike (one other : Session) : Prop where
  engines : one.engine.HoldsSame other.engine
  handles : one.handles = other.handles

theorem Alike.step (alike : Alike one other) (step : Step) :
    (one.step step).2 = (other.step step).2 ∧ Alike (one.step step).1 (other.step step).1 := by
  obtain ⟨engines, handles⟩ := alike
  cases step with
  | change change => exact ⟨rfl, engines, handles⟩
  | act handle action =>
      by_cases made : handle < one.handles
      · have madeToo : handle < other.handles := handles ▸ made
        cases asked : one.engine.reply? one.files.view action with
        | some answered =>
            have askedToo := engines.reply?_eq one.files.view other.files.view action
            rw [asked] at askedToo
            rw [step_of_reply? made asked, step_of_reply? madeToo askedToo.symm]
            exact ⟨rfl, engines, handles⟩
        | none =>
            cases action with
            | query | recognize | execute => cases asked
            | clone =>
                rw [step_clone made, step_clone madeToo, handles]
                exact ⟨rfl, engines, rfl⟩
            | insert table rows =>
                obtain ⟨here, there, found⟩ := engines
                obtain ⟨after, holds, engine, kept, answer⟩ := step_insert here handle table rows
                obtain ⟨afterToo, holdsToo, engineToo, keptToo, answerToo⟩ :=
                  step_insert there handle table rows
                rw [handles] at holds answer
                refine ⟨answer.trans answerToo.symm, .memory engine engineToo ?_, ?_⟩
                · simp only [holds, holdsToo, found, implies_true]
                · rw [kept, keptToo, handles]
      · have unmade : ¬handle < other.handles := handles ▸ made
        rw [step_of_not_made made, step_of_not_made unmade]
        exact ⟨rfl, engines, handles⟩

theorem Alike.run (alike : Alike one other) (steps : List Step) :
    (one.run steps).2 = (other.run steps).2 ∧ Alike (one.run steps).1 (other.run steps).1 := by
  induction steps generalizing one other with
  | nil => exact ⟨rfl, alike⟩
  | cons step steps ih =>
      obtain ⟨answer, next⟩ := alike.step step
      obtain ⟨answers, final⟩ := ih next
      exact ⟨by simp only [Session.run, answer, answers], final⟩

/-- Steps that only ask can be left out, and the others are answered as before. -/
theorem Alike.run_atPlaces (alike : Alike one other) {kept : Nat → Bool} {steps : List Step}
    (dropped : ∀ i step, steps[i]? = some step → kept i = false → step.asks) :
    (other.run (atPlaces kept steps)).2 = atPlaces kept (one.run steps).2 := by
  induction steps generalizing one other kept with
  | nil => rfl
  | cons step steps ih =>
      have later : ∀ i step, steps[i]? = some step → kept (i + 1) = false → step.asks :=
        fun i => dropped (i + 1)
      obtain ⟨answer, next⟩ := alike.step step
      cases here : kept 0 with
      | true =>
          have rest := ih next later
          simp only [atPlaces, Session.run, here, if_true, answer, rest]
      | false =>
          obtain ⟨engine, handles⟩ := step_of_asks one (dropped 0 step rfl here)
          have still : Alike (one.step step).1 other :=
            ⟨engine ▸ alike.engines, handles.trans alike.handles⟩
          have rest := ih still later
          simp only [atPlaces, Session.run, here, Bool.false_eq_true, if_false, rest]

theorem Alike.swap (alike : Alike session session) {table other : String}
    (different : table ≠ other) (handle handleToo : Nat) (rows rowsToo : List Row) :
    let first := Step.act handle (.insert table rows)
    let second := Step.act handleToo (.insert other rowsToo)
    ((session.step first).1.step second).2 = (session.step second).2 ∧
      ((session.step second).1.step first).2 = (session.step first).2 ∧
      Alike ((session.step first).1.step second).1 ((session.step second).1.step first).1 := by
  intro first second
  obtain ⟨memory, -, -⟩ := alike.engines
  obtain ⟨one, oneHolds, oneEngine, oneHandles, oneAnswer⟩ := step_insert memory handle table rows
  obtain ⟨two, twoHolds, twoEngine, twoHandles, twoAnswer⟩ :=
    step_insert memory handleToo other rowsToo
  obtain ⟨both, bothHold, bothEngine, bothHandles, bothAnswer⟩ :=
    step_insert oneEngine handleToo other rowsToo
  obtain ⟨swapped, swappedHold, swappedEngine, swappedHandles, swappedAnswer⟩ :=
    step_insert twoEngine handle table rows
  have found : ∀ name, both.get? name = swapped.get? name := by
    intro name
    rw [bothHold, swappedHold, oneHolds, twoHolds, oneHandles, twoHandles]
    by_cases here : name = table
    · simp [here, different]
    · simp [here]
  rw [oneHandles] at bothHandles bothAnswer
  rw [twoHandles] at swappedHandles swappedAnswer
  refine ⟨bothAnswer.trans twoAnswer.symm, swappedAnswer.trans oneAnswer.symm, ?_⟩
  exact ⟨.memory bothEngine swappedEngine found, bothHandles.trans swappedHandles.symm⟩

theorem step_memory {tables : MemoryTables} {config : EngineConfig} {step : Step}
    (memory : session.engine = ⟨.memory tables, config⟩) (through : step.Through session.handles) :
    ∃ after : MemoryTables, (session.step step).1.engine = ⟨.memory after, config⟩ ∧
      (∀ name, after.get? name = (step.registered? name).or (tables.get? name)) ∧
      (session.step step).1.handles = step.handlesAfter session.handles := by
  cases step with
  | change change => exact ⟨tables, memory, fun name => rfl, rfl⟩
  | act handle action =>
      cases action with
      | insert table rows =>
          obtain ⟨after, holds, engine, handles, -⟩ := step_insert memory handle table rows
          refine ⟨after, engine, fun name => ?_, handles⟩
          have made : handle < session.handles := through
          rw [holds, Step.registered?]
          by_cases here : name = table
          · simp [here, made]
          · simp [here, Ne.symm here]
      | clone =>
          rw [step_clone through]
          exact ⟨tables, memory, fun name => rfl, rfl⟩
      | query | recognize | execute =>
          have still := @step_of_asks session
          exact ⟨tables, (still (by rfl)).1.trans memory, fun name => rfl, (still (by rfl)).2⟩

theorem lastRegistered?_cons (step : Step) (steps : List Step) (name : String) :
    lastRegistered? (step :: steps) name =
      (lastRegistered? steps name).or (step.registered? name) := by
  simp [lastRegistered?, List.findSome?_append]

/-- In a session on tables in memory each name has the rows last registered under it. -/
theorem run_memory {tables : MemoryTables} {config : EngineConfig} {before after : List Step}
    (memory : session.engine = ⟨.memory tables, config⟩)
    (handled : Handled session.handles (before ++ after)) :
    ∃ reached : MemoryTables, (session.run before).1.engine = ⟨.memory reached, config⟩ ∧
      (∀ name, reached.get? name = (lastRegistered? before name).or (tables.get? name)) ∧
      Handled (session.run before).1.handles after := by
  induction before generalizing session tables with
  | nil => exact ⟨tables, memory, fun name => rfl, handled⟩
  | cons step before ih =>
      obtain ⟨through, rest⟩ := handled
      obtain ⟨next, engine, holds, handles⟩ := step_memory memory through
      obtain ⟨reached, final, found, later⟩ := ih engine (handles ▸ rest)
      refine ⟨reached, final, fun name => ?_, later⟩
      rw [found, holds, lastRegistered?_cons, Option.or_assoc]

theorem answer_at (session : Session) (before : List Step) (step : Step) (after : List Step) :
    (session.run (before ++ step :: after)).2[before.length]? =
      some ((session.run before).1.step step).2 := by
  have length := length_answers session before
  rw [answers_append, List.getElem?_append_right (Nat.le_of_eq length), length, Nat.sub_self]
  rfl

theorem alike_start (files : Files.Tree) :
    Alike (start .inMemory files) (start .inMemory files) :=
  ⟨.memory rfl rfl fun _ => rfl, rfl⟩

/-- Whatever steps a session on tables in memory takes, what it is asked is answered as an engine
    answers that holds, for each name, the rows last registered under it through any handle, and
    nothing else. So steps that only ask, whether they fail or not, can be left out without a trace
    in the answers to the others, and two registrations that follow one another under different
    names can change places. -/
theorem answers_inMemory (files : Files.Tree) :
    (∀ before handle action after, Handled 1 (before ++ [.act handle action]) →
      (∃ fresh : MemoryTables, ∀ name, fresh.get? name = lastRegistered? before name) ∧
      ∀ fresh : MemoryTables, (∀ name, fresh.get? name = lastRegistered? before name) →
        ∀ view answered, Engine.reply? ⟨.memory fresh, .standard⟩ view action = some answered →
          ((start .inMemory files).run (before ++ .act handle action :: after)).2[before.length]? =
            some answered) ∧
    (∀ (kept : Nat → Bool) (steps : List Step),
      (∀ i step, steps[i]? = some step → kept i = false → step.asks) →
      ((start .inMemory files).run (atPlaces kept steps)).2 =
        atPlaces kept ((start .inMemory files).run steps).2) ∧
    ∀ before after handle table rows handleToo other rowsToo, table ≠ other →
      ∃ past answer answerToo later, past.length = before.length ∧
        ((start .inMemory files).run (before ++ .act handle (.insert table rows) ::
          .act handleToo (.insert other rowsToo) :: after)).2 =
            past ++ answer :: answerToo :: later ∧
        ((start .inMemory files).run (before ++ .act handleToo (.insert other rowsToo) ::
          .act handle (.insert table rows) :: after)).2 =
            past ++ answerToo :: answer :: later := by
  refine ⟨?_, fun kept steps => (alike_start files).run_atPlaces, ?_⟩
  · intro before handle action after handled
    have memory : (start .inMemory files).engine = ⟨.memory Keyed.empty, .standard⟩ := rfl
    obtain ⟨reached, engine, holds, ⟨through, -⟩⟩ := run_memory memory handled
    have registered : ∀ name, reached.get? name = lastRegistered? before name := by
      intro name
      rw [holds, Keyed.get?_empty, Option.or_none]
    refine ⟨⟨reached, registered⟩, ?_⟩
    intro fresh found view answered asked
    have same : Engine.HoldsSame ⟨.memory fresh, .standard⟩
        ((start .inMemory files).run before).1.engine :=
      .memory rfl engine fun name => by rw [found, registered]
    rw [same.reply?_eq view ((start .inMemory files).run before).1.files.view] at asked
    rw [answer_at, step_of_reply? through asked]
  · intro before after handle table rows handleToo other rowsToo different
    obtain ⟨-, alike⟩ := (alike_start files).run before
    obtain ⟨answerToo, answer, swapped⟩ := alike.swap different handle handleToo rows rowsToo
    refine ⟨_, _, _, _, length_answers (start .inMemory files) before, answers_append_two .., ?_⟩
    rw [answers_append_two, answerToo, answer, (swapped.run after).1]

/-- A table registered twice, the second time through another handle, and counted beside a text
    that is no query. -/
theorem answers_inMemory_replaced :
    let before := [.act 0 (.insert "t" [Keyed.empty]), .act 0 .clone, .act 1 (.insert "t" []),
      .act 0 (.query "DROP TABLE t")]
    let steps := before ++ [.act 0 (.query "SELECT COUNT(*) FROM t")]
    let answers := ((start .inMemory .empty).run steps).2
    answers[4]? = some ⟨[.recognized ⟨.count ⟨.rows, "COUNT(*)"⟩, "t", none⟩,
      .executing ⟨.count ⟨.rows, "COUNT(*)"⟩, "t", none⟩, .tableLoaded "t" 0,
      .counted ⟨.rows, "COUNT(*)"⟩ 0, .completed 1], ["t"], .ok (.answer (.count 0))⟩ ∧
    ((start .inMemory .empty).run (atPlaces (· != 3) steps)).2 = atPlaces (· != 3) answers := by
  intro before steps answers
  obtain ⟨law, thinned, -⟩ := answers_inMemory .empty
  constructor
  · have handled : Handled 1 steps := by simp [steps, before, Handled, Step.Through,
      Step.handlesAfter]
    refine (law before 0 _ [] handled).2 ⟨[("t", [])], by decide⟩ ?_ Files.Tree.empty.view _
      (by rfl)
    intro name
    rw [Keyed.get?, Keyed.lookup_cons_eq_if]
    by_cases here : name = "t"
    · simp [before, lastRegistered?, Step.registered?, List.findSome?, here]
    · simp [before, lastRegistered?, Step.registered?, List.findSome?, here, Ne.symm here]
  · refine thinned (· != 3) steps fun i step found dropped => ?_
    obtain rfl : i = 3 := by simpa using dropped
    cases found
    rfl

end Session

end TableQuery
