import TableQuery.Proofs.Engine.MemorySession
import TableQuery.Proofs.Engine.Trace

/-! # What a store is asked for

An engine asks its store once for each query that it runs, for the table that the query selects
from, and it asks before any stage can fail. So the tables asked for in a session are the sources
of the queries that were run, in their order: those given as queries, and those of texts that were
neither refused nor rejected. Nothing else that can be asked of an engine reaches the store.
-/

namespace TableQuery

/-- The query that a text states, unless the text is refused. -/
def accepted? (limit : Nat) (text : String) : Option Query :=
  match validateQueryText text limit with
  | .ok () => (Query.recognize text).toOption
  | .error _ => none

/-- The query that a step has the engine run. -/
def Step.executed? (limit : Nat) : Step → Option Query
  | .act _ (.query text) => accepted? limit text
  | .act _ (.execute query) => some query
  | _ => none

/-- What a query asks for: its source, and then whatever the store asks for to find that. -/
def Store.asked (store : Store) (query : Query) : List String :=
  query.source :: (store.resolve query.source).lookups

/-- What a step asks of the store. -/
def Store.askedBy (store : Store) (limit : Nat) (step : Step) : List String :=
  (step.executed? limit).toList.flatMap store.asked

namespace Session

def withStore (session : Session) (store : Store) : Session :=
  { session with engine := { session.engine with backend := .host store } }

/-- The answers to steps on a store of the host that may find something else at each step. -/
def runOnStores (session : Session) : List (Store × Step) → Session × List (Traced Error Reply)
  | [] => (session, [])
  | (store, step) :: steps =>
      let (next, answer) := (session.withStore store).step step
      let (final, answers) := next.runOnStores steps
      (final, answer :: answers)

end Session

theorem Traced.lookups_map {ε α β : Type} (f : α → β) (traced : Traced ε α) :
    (f <$> traced).lookups = traced.lookups := by
  obtain ⟨events, lookups, error | value⟩ := traced
  · rfl
  · exact List.append_nil lookups

theorem Query.lookups_execute (query : Query) (store : Store) :
    (query.execute store).lookups = store.asked query := by
  obtain ⟨stages, outcome, -, executed⟩ := query.exists_course store
  rw [executed, Store.asked]

theorem Query.execute_congr {query : Query} {one other : Store}
    (same : one.resolve query.source = other.resolve query.source) :
    query.execute one = query.execute other := by
  simp only [execute, Store.load, same]

namespace Engine

variable {config : EngineConfig} {text : String}

theorem query_of_not_accepted (refused : accepted? config.maxQueryLength text = none) :
    ∃ events error, ∀ backend view,
      Engine.query ⟨backend, config⟩ view text = ⟨events, [], .error error⟩ := by
  cases validated : validateQueryText text config.maxQueryLength with
  | error error => exact ⟨_, _, fun backend view => query_of_refused view validated⟩
  | ok _ =>
      cases recognized : Query.recognize text with
      | error rejection =>
          exact ⟨_, _, fun backend view => query_of_rejected view validated recognized⟩
      | ok query => simp [accepted?, validated, recognized, Except.toOption] at refused

theorem query_of_accepted {query : Query}
    (accepted : accepted? config.maxQueryLength text = some query) (backend : Backend)
    (view : Files.View) :
    let executed := query.execute (backend.store view)
    Engine.query ⟨backend, config⟩ view text = ⟨.recognized query :: executed.events,
      executed.lookups, executed.result.mapError .failed⟩ := by
  cases validated : validateQueryText text config.maxQueryLength with
  | error error => simp [accepted?, validated] at accepted
  | ok _ =>
      cases recognized : Query.recognize text with
      | error rejection => simp [accepted?, validated, recognized, Except.toOption] at accepted
      | ok found =>
          obtain rfl : found = query := by
            simpa [accepted?, validated, recognized, Except.toOption] using accepted
          exact query_of_recognized view validated recognized

theorem lookups_recognize (engine : Engine) (text : String) :
    (engine.recognize text).lookups = [] := by
  rw [recognize]
  cases validateQueryText text engine.config.maxQueryLength with
  | error error => rfl
  | ok _ =>
      simp only [Query.recognizeTraced]
      cases Query.recognize text <;> rfl

theorem lookups_query (backend : Backend) (view : Files.View) :
    (Engine.query ⟨backend, config⟩ view text).lookups =
      (accepted? config.maxQueryLength text).toList.flatMap (backend.store view).asked := by
  cases accepted : accepted? config.maxQueryLength text with
  | none =>
      obtain ⟨events, error, refused⟩ := query_of_not_accepted accepted
      rw [refused]
      rfl
  | some query =>
      rw [query_of_accepted accepted, Query.lookups_execute]
      exact (List.append_nil _).symm

end Engine

theorem Store.flatMap_askedBy (store : Store) (limit : Nat) (steps : List Step) :
    steps.flatMap (store.askedBy limit) =
      (steps.filterMap (Step.executed? limit)).flatMap store.asked := by
  induction steps with
  | nil => rfl
  | cons step steps ih =>
      rw [List.flatMap_cons, ih, List.filterMap_cons, askedBy]
      cases step.executed? limit with
      | none => rfl
      | some query => simp

theorem flatMap_askedBy_of_silent {limit : Nat} {visits : List (Store × Step)}
    (silent : ∀ visit ∈ visits, ∀ name, (visit.1.resolve name).lookups = []) :
    visits.flatMap (fun visit => visit.1.askedBy limit visit.2) =
      ((visits.map Prod.snd).filterMap (Step.executed? limit)).map Query.source := by
  induction visits with
  | nil => rfl
  | cons visit visits ih =>
      have here := silent visit List.mem_cons_self
      have later := ih fun other member => silent other (List.mem_cons_of_mem _ member)
      rw [List.flatMap_cons, later, List.map_cons, List.filterMap_cons, Store.askedBy]
      cases visit.2.executed? limit with
      | none => rfl
      | some query => simp [Store.asked, here]

namespace Session

variable {session : Session} {store other : Store} {config : EngineConfig} {handle : Nat}
  {action : Action} {step : Step}

theorem step_insert_of_host (host : session.engine = ⟨.host store, config⟩)
    (made : handle < session.handles) (table : String) (rows : List Row) :
    session.step (.act handle (.insert table rows)) =
      (session, .fail (.invalidInput "Tables can only be registered on an in-memory engine")) := by
  have acts : session.act (.insert table rows) =
      .fail (.invalidInput "Tables can only be registered on an in-memory engine") := by
    simp only [act, Engine.insertTable, host]
    rfl
  rw [step, if_pos made, acts]
  simp [Traced.fail, Traced.ofExcept]

theorem lookups_reply? {view : Files.View} {answered : Traced Error Reply}
    (asked : Engine.reply? ⟨.host store, config⟩ view action = some answered) (handle : Nat) :
    answered.lookups = store.askedBy config.maxQueryLength (.act handle action) := by
  cases action with
  | insert | clone => cases asked
  | recognize text =>
      cases asked
      rw [Traced.lookups_map, Engine.lookups_recognize]
      rfl
  | query text =>
      cases asked
      rw [Traced.lookups_map, Engine.lookups_query]
      rfl
  | execute query =>
      cases asked
      rw [Traced.lookups_map]
      exact (Query.lookups_execute query store).trans (List.append_nil _).symm

/-- A step on a store of the host asks it for what the step runs and leaves the engine alone. -/
theorem step_onStore (host : session.engine = ⟨.host store, config⟩)
    (through : step.Through session.handles) :
    (session.step step).2.lookups = store.askedBy config.maxQueryLength step ∧
      (session.step step).1.lookups =
        session.lookups ++ store.askedBy config.maxQueryLength step ∧
      (session.step step).1.engine = session.engine ∧
      (session.step step).1.handles = step.handlesAfter session.handles := by
  cases step with
  | change change => exact ⟨rfl, (List.append_nil _).symm, rfl, rfl⟩
  | act handle action =>
      cases asked : session.engine.reply? session.files.view action with
      | some answered =>
          have lookups := lookups_reply? (host ▸ asked) handle
          rw [step_of_reply? through asked, ← lookups]
          refine ⟨rfl, rfl, rfl, ?_⟩
          cases action with
          | insert | clone => cases asked
          | query | recognize | execute => rfl
      | none =>
          cases action with
          | query | recognize | execute => cases asked
          | clone =>
              rw [step_clone through]
              exact ⟨rfl, (List.append_nil _).symm, rfl, rfl⟩
          | insert table rows =>
              rw [step_insert_of_host host through]
              exact ⟨rfl, (List.append_nil _).symm, rfl, rfl⟩

theorem answer_congr {one two : Session} (here : one.engine = ⟨.host store, config⟩)
    (there : two.engine = ⟨.host other, config⟩) (handles : one.handles = two.handles)
    (through : step.Through one.handles)
    (same : ∀ query ∈ step.executed? config.maxQueryLength,
      store.resolve query.source = other.resolve query.source) :
    (one.step step).2 = (two.step step).2 := by
  cases step with
  | change change => rfl
  | act handle action =>
      have throughToo : Step.Through two.handles (.act handle action) := handles ▸ through
      cases action with
      | clone => rw [step_clone through, step_clone throughToo, handles]
      | insert table rows =>
          rw [step_insert_of_host here through, step_insert_of_host there throughToo]
      | recognize text =>
          rw [step_of_reply? through rfl, step_of_reply? throughToo rfl, here, there]
          rfl
      | execute query =>
          rw [step_of_reply? through rfl, step_of_reply? throughToo rfl, here, there]
          simp only [Engine.execute, Backend.store, Query.execute_congr (same query rfl)]
      | query text =>
          have answers : Engine.query ⟨.host store, config⟩ one.files.view text =
              Engine.query ⟨.host other, config⟩ two.files.view text := by
            cases accepted : accepted? config.maxQueryLength text with
            | none =>
                obtain ⟨events, error, refused⟩ := Engine.query_of_not_accepted accepted
                rw [refused, refused]
            | some query =>
                have executes := Query.execute_congr (same query accepted)
                rw [Engine.query_of_accepted accepted, Engine.query_of_accepted accepted]
                simp only [Backend.store, executes]
          rw [step_of_reply? through rfl, step_of_reply? throughToo rfl, here, there]
          simp only [answers]

theorem lookups_runOnStores {visits : List (Store × Step)}
    (handled : Handled session.handles (visits.map Prod.snd)) :
    let asked := fun visit : Store × Step =>
      visit.1.askedBy session.engine.config.maxQueryLength visit.2
    (session.runOnStores visits).2.map Traced.lookups = visits.map asked ∧
      (session.runOnStores visits).1.lookups = session.lookups ++ visits.flatMap asked := by
  induction visits generalizing session with
  | nil => exact ⟨rfl, (List.append_nil _).symm⟩
  | cons visit visits ih =>
      obtain ⟨store, step⟩ := visit
      obtain ⟨through, rest⟩ := handled
      have host : (session.withStore store).engine = ⟨.host store, session.engine.config⟩ := rfl
      obtain ⟨answer, lookups, engine, handles⟩ := step_onStore host through
      have config : ((session.withStore store).step step).1.engine.config =
          session.engine.config := by
        rw [engine]
        rfl
      obtain ⟨answers, final⟩ := ih (handles ▸ rest)
      rw [config] at answers final
      refine ⟨?_, ?_⟩
      · rw [runOnStores, List.map_cons, List.map_cons, answer, answers]
      · rw [runOnStores, List.flatMap_cons, final, lookups, List.append_assoc]
        rfl

theorem withStore_eq_self (host : session.engine = ⟨.host store, config⟩) :
    session.withStore store = session := by
  cases session
  cases host
  rfl

theorem runOnStores_eq_run {steps : List Step} (host : session.engine = ⟨.host store, config⟩)
    (handled : Handled session.handles steps) :
    session.runOnStores (steps.map fun step => (store, step)) = session.run steps := by
  induction steps generalizing session with
  | nil => rfl
  | cons step steps ih =>
      obtain ⟨through, rest⟩ := handled
      obtain ⟨-, -, engine, handles⟩ := step_onStore host through
      have later := ih (engine.trans host) (handles ▸ rest)
      simp only [List.map_cons, runOnStores, run, withStore_eq_self host, later]

theorem answers_congr {one two : Session} {steps : List Step}
    (here : one.engine = ⟨.host store, config⟩) (there : two.engine = ⟨.host other, config⟩)
    (handles : one.handles = two.handles) (handled : Handled one.handles steps)
    (same : ∀ query ∈ steps.filterMap (Step.executed? config.maxQueryLength),
      store.resolve query.source = other.resolve query.source) :
    (one.run steps).2 = (two.run steps).2 := by
  induction steps generalizing one two with
  | nil => rfl
  | cons step steps ih =>
      obtain ⟨through, rest⟩ := handled
      obtain ⟨-, -, engine, handlesOne⟩ := step_onStore here through
      obtain ⟨-, -, engineToo, handlesTwo⟩ := step_onStore there (handles ▸ through)
      have first : ∀ query ∈ step.executed? config.maxQueryLength,
          store.resolve query.source = other.resolve query.source := fun query executed =>
        same query (List.mem_filterMap.mpr ⟨step, List.mem_cons_self, executed⟩)
      have later : ∀ query ∈ steps.filterMap (Step.executed? config.maxQueryLength),
          store.resolve query.source = other.resolve query.source := by
        intro query member
        obtain ⟨step, inside, executed⟩ := List.mem_filterMap.mp member
        exact same query (List.mem_filterMap.mpr ⟨step, List.mem_cons_of_mem _ inside, executed⟩)
      have answers := ih (engine.trans here) (engineToo.trans there)
        (by rw [handlesOne, handlesTwo, handles]) (handlesOne ▸ rest) later
      simp only [run, answer_congr here there handles through first, answers]

/-- In a session on a store of the host, whatever it finds and whether or not that is the same each
    time, the store is asked for the source of each query that is run, once, in the order of the
    steps, and for nothing else. A query is run when it is given as such or by a text that is
    accepted and recognized; how it ends makes no difference. What the store itself asks for while
    it finds a table comes right behind that table. So two stores that find the same for those
    sources are not told apart by any answer. -/
theorem lookups_onStore (files : Files.Tree) :
    let limit := EngineConfig.standard.maxQueryLength
    (∀ (store : Store) (steps : List Step), Handled 1 steps →
      let queries := steps.filterMap (Step.executed? limit)
      let ended := (start (.onStore store) files).run steps
      ended.1.lookups = queries.flatMap store.asked ∧
        ended.2.map Traced.lookups = steps.map (store.askedBy limit) ∧
        ((∀ name, (store.resolve name).lookups = []) →
          ended.1.lookups = queries.map Query.source) ∧
        ∀ other : Store,
          (∀ query ∈ queries, store.resolve query.source = other.resolve query.source) →
            ended.2 = ((start (.onStore other) files).run steps).2) ∧
    ∀ (first : Store) (visits : List (Store × Step)), Handled 1 (visits.map Prod.snd) →
      let ended := (start (.onStore first) files).runOnStores visits
      ended.1.lookups = visits.flatMap (fun visit => visit.1.askedBy limit visit.2) ∧
        ((∀ visit ∈ visits, ∀ name, (visit.1.resolve name).lookups = []) →
          ended.1.lookups =
            ((visits.map Prod.snd).filterMap (Step.executed? limit)).map Query.source) := by
  intro limit
  have changing : ∀ (first : Store) (visits : List (Store × Step)),
      Handled 1 (visits.map Prod.snd) →
      ((start (.onStore first) files).runOnStores visits).2.map Traced.lookups =
          visits.map (fun visit => visit.1.askedBy limit visit.2) ∧
        ((start (.onStore first) files).runOnStores visits).1.lookups =
          visits.flatMap (fun visit => visit.1.askedBy limit visit.2) :=
    fun first visits handled => lookups_runOnStores handled
  refine ⟨?_, ?_⟩
  · intro store steps handled queries ended
    have host : (start (.onStore store) files).engine = ⟨.host store, .standard⟩ := rfl
    have visited : (steps.map fun step => (store, step)).map Prod.snd = steps := by
      simp [Function.comp_def]
    have fixed := changing store (steps.map fun step => (store, step)) (visited.symm ▸ handled)
    rw [runOnStores_eq_run host handled, List.map_map, List.flatMap_map] at fixed
    obtain ⟨answers, lookups⟩ := fixed
    have sources : ended.1.lookups = queries.flatMap store.asked :=
      lookups.trans (store.flatMap_askedBy limit steps)
    refine ⟨sources, answers, ?_, ?_⟩
    · intro silent
      have alone : store.asked = fun query => [query.source] := by
        funext query
        rw [Store.asked, silent]
      rw [sources, alone, List.map_eq_flatMap]
    · intro other same
      exact answers_congr host rfl rfl handled same
  · intro first visits handled ended
    refine ⟨(changing first visits handled).2, fun silent => ?_⟩
    rw [(changing first visits handled).2]
    exact flatMap_askedBy_of_silent silent

/-- A table that is there, texts that are rejected or refused, a registration that fails, and a
    table that is not there; then one table twice, lost in between. -/
theorem lookups_onStore_mixed :
    let found : Store := ⟨fun name =>
      .ofExcept (if name = "t" then .ok [] else .error (.tableNotFound name))⟩
    let lost : Store := ⟨fun name => .ofExcept (.error (.tableNotFound name))⟩
    let select : Step := .act 0 (.query "SELECT * FROM t")
    let steps := [select, .act 0 .clone, .act 1 (.query "DROP TABLE t"), .act 1 (.query " "),
      .act 0 (.recognize "SELECT * FROM t"), .act 0 (.insert "t" []),
      .act 1 (.execute ⟨.all, "u", none⟩)]
    ((start (.onStore found) .empty).run steps).1.lookups = ["t", "u"] ∧
    ((start (.onStore found) .empty).runOnStores [(found, select), (lost, select)]).1.lookups =
      ["t", "t"] := by
  intro found lost select steps
  obtain ⟨fixed, changing⟩ := lookups_onStore .empty
  constructor
  · have handled : Handled 1 steps := by
      simp [steps, select, Handled, Step.Through, Step.handlesAfter]
    exact (fixed found steps handled).2.2.1 fun name => rfl
  · have handled : Handled 1 [select, select] := by
      simp [select, Handled, Step.Through, Step.handlesAfter]
    refine (changing found [(found, select), (lost, select)] handled).2 fun visit member name => ?_
    rcases List.mem_cons.mp member with rfl | member
    · rfl
    · obtain rfl := List.mem_singleton.mp member
      rfl

end Session

end TableQuery
