import TableQuery.Engine.Basic
import TableQuery.Proofs.Delimited.LineOrder
import TableQuery.Proofs.Delimited.UniformTable
import TableQuery.Proofs.Query.Meaning

/-! # What a query reports

The events of a query say how far it came and with what numbers. A stage reports once it is done,
so a failure ends the report at the stage before, and only a query with an answer reports that it
is complete. What a table file reports while it is read stands between the start of the query and
the rows that were loaded.
-/

namespace TableQuery

/-- What a filter reports. Without a condition there is none. -/
def filterReport (condition? : Option Condition) (before after : Nat) : List Event :=
  condition?.toList.map fun condition => .filtered condition before after

/-- What is reported on the way to an answer. Only counting reports anything. -/
def Selection.report : Selection → Answer → List Event
  | .count aggregate, .count n => [.counted aggregate n]
  | _, _ => []

/-- The messages of the stages that a query goes through, in order. -/
def Query.stageMessages (query : Query) : List String :=
  ["loaded table"] ++ (if query.condition.isSome then ["filtered rows"] else []) ++
    (if query.isAggregate then ["aggregated rows"] else []) ++ ["query complete"]

/-- What a query reports after its table was asked for, and how it ends, by what came of that. -/
inductive Query.Course (query : Query) :
    Except Failure (List Row) → List Event → Except Failure Answer → Prop where
  | notLoaded (failure : Failure) : Course query (.error failure) [] (.error failure)
  | notFiltered {rows : List Row} {failure : Failure}
      (fails : keptRows query.condition rows = .error failure) :
      Course query (.ok rows) [.tableLoaded query.source rows.length] (.error failure)
  | notSelected {rows kept : List Row} {failure : Failure}
      (keeps : keptRows query.condition rows = .ok kept)
      (fails : query.selection.meaning kept = .error failure) :
      Course query (.ok rows)
        (.tableLoaded query.source rows.length ::
          filterReport query.condition rows.length kept.length) (.error failure)
  | completed {rows kept : List Row} {answer : Answer}
      (keeps : keptRows query.condition rows = .ok kept)
      (answers : query.selection.meaning kept = .ok answer) :
      Course query (.ok rows)
        (.tableLoaded query.source rows.length ::
          filterReport query.condition rows.length kept.length ++
            query.selection.report answer ++ [.completed answer.size]) (.ok answer)

theorem filterRows_eq (condition? : Option Condition) (rows : List Row) :
    filterRows condition? rows =
      ⟨match keptRows condition? rows with
        | .ok kept => filterReport condition? rows.length kept.length
        | .error _ => [], [], keptRows condition? rows⟩ := by
  rw [← result_filterRows]
  cases condition? with
  | none => rfl
  | some condition =>
      rw [filterRows]
      cases condition.filter rows with
      | error failure => rfl
      | ok kept => rfl

theorem Selection.answer_eq (selection : Selection) (rows : List Row) :
    selection.answer rows =
      ⟨match selection.meaning rows with
        | .ok answer => selection.report answer
        | .error _ => [], [], selection.meaning rows⟩ := by
  rw [← result_answer]
  cases selection with
  | all => rfl
  | columns names =>
      rw [answer]
      cases (Selection.columns names).project rows with
      | error failure => rfl
      | ok projected => rfl
  | count aggregate =>
      rw [answer, Aggregate.count]
      cases aggregate.counted.count rows with
      | error failure => rfl
      | ok n => rfl

namespace Query

variable {query : Query} {loaded : Except Failure (List Row)} {stages : List Event}
  {outcome : Except Failure Answer}

/-- Each stage of a query reports what it did, up to the one that fails. -/
theorem exists_course (query : Query) (store : Store) :
    let resolved := store.resolve query.source
    ∃ stages outcome, query.Course resolved.result stages outcome ∧
      query.execute store = ⟨.executing query :: (resolved.events ++ stages),
        query.source :: resolved.lookups, outcome⟩ := by
  intro resolved
  have loads : store.load query.source = (do
      Traced.lookup query.source
      let rows ← resolved
      Traced.emit (.tableLoaded query.source rows.length)
      return rows) := rfl
  rw [execute, loads]
  obtain ⟨events, lookups, failure | rows⟩ := resolved
  · exact ⟨[], _, .notLoaded failure, by simp [Traced.emit, Traced.lookup]⟩
  cases keeps : keptRows query.condition rows with
  | error failure =>
      refine ⟨_, _, .notFiltered keeps, ?_⟩
      simp [Traced.emit, Traced.lookup, filterRows_eq, keeps]
  | ok kept =>
      cases answers : query.selection.meaning kept with
      | error failure =>
          refine ⟨_, _, .notSelected keeps answers, ?_⟩
          simp [Traced.emit, Traced.lookup, filterRows_eq, keeps, Selection.answer_eq, answers]
      | ok answer =>
          refine ⟨_, _, .completed keeps answers, ?_⟩
          simp [Traced.emit, Traced.lookup, filterRows_eq, keeps, Selection.answer_eq, answers]

theorem map_message_filterReport (condition? : Option Condition) (before after : Nat) :
    (filterReport condition? before after).map Event.message =
      if condition?.isSome then ["filtered rows"] else [] := by
  cases condition? with
  | none => rfl
  | some condition => rfl

theorem map_message_report {rows : List Row} {answer : Answer}
    (answers : query.selection.meaning rows = .ok answer) :
    (query.selection.report answer).map Event.message =
      if query.isAggregate then ["aggregated rows"] else [] := by
  rw [isAggregate]
  cases selected : query.selection with
  | all | columns names => rfl
  | count aggregate =>
      obtain ⟨counted, expression⟩ := aggregate
      rw [selected] at answers
      cases counted with
      | rows => cases answers; rfl
      | column name =>
          obtain ⟨-, rfl⟩ := Result.errorOr_eq_ok_iff.mp answers
          rfl

theorem Course.messages_prefix (course : query.Course loaded stages outcome) :
    stages.map Event.message <+: query.stageMessages := by
  cases course with
  | notLoaded failure => exact List.nil_prefix
  | notFiltered fails => exact List.prefix_append ["loaded table"] _
  | notSelected keeps fails =>
      simp [stageMessages, map_message_filterReport, Event.message]
  | completed keeps answers =>
      simp [stageMessages, map_message_filterReport, map_message_report answers, Event.message]

theorem completed_not_mem_filterReport (condition? : Option Condition) (before after n : Nat) :
    .completed n ∉ filterReport condition? before after := by
  simp [filterReport]

theorem completed_not_mem_report (selection : Selection) (answer : Answer) (n : Nat) :
    .completed n ∉ selection.report answer := by
  unfold Selection.report
  split <;> simp

theorem Course.completed_mem_iff (course : query.Course loaded stages outcome) (n : Nat) :
    .completed n ∈ stages ↔ ∃ answer, outcome = .ok answer ∧ answer.size = n := by
  cases course with
  | notLoaded failure => simp
  | notFiltered fails => simp
  | notSelected keeps fails => simp [completed_not_mem_filterReport]
  | completed keeps answers =>
      simp [completed_not_mem_filterReport, completed_not_mem_report, eq_comm]

theorem Course.getLast?_eq {answer : Answer} (course : query.Course loaded stages (.ok answer)) :
    stages.getLast? = some (.completed answer.size) := by
  cases course with
  | completed keeps answers => exact List.getLast?_concat

end Query

namespace Delimited

theorem pairwise_lines_ragged {delimiter : Char} {text : List Char} {records : List Record}
    (read : readRecords delimiter text = .ok records) :
    ((ragged records).map Record.line).Pairwise (· < ·) := by
  have kept : (ragged records).Sublist records :=
    List.filter_sublist.trans (List.tail_sublist records)
  exact (pairwise_lines_of_readRecords read).sublist (kept.map Record.line)

end Delimited

namespace TableFiles

open Delimited

variable {files : TableFiles} {view : Files.View} {name : String}

/-- What comes of asking for a table file, and what is reported on the way. -/
inductive Reported (files : TableFiles) (view : Files.View) (name : String) :
    Traced Failure (List Row) → Prop where
  | nameRejected {failure : Failure} (refused : validateTableName name = .error failure) :
      Reported files view name ⟨[.nameRejected failure], [], .error failure⟩
  | notRead {failure : Failure} (accepted : validateTableName name = .ok ())
      (unread : files.readText view name = .error failure) :
      Reported files view name ⟨[], [], .error failure⟩
  | malformed {text : String} {fault : Fault} (accepted : validateTableName name = .ok ())
      (read : files.readText view name = .ok text)
      (broken : readRecords (Char.ofNat files.delimiter.toNat) (dropByteOrderMark text.toList) =
        .error fault) :
      Reported files view name ⟨[.fileRead (files.path name) text.utf8ByteSize], [],
        .error (.malformedTable name fault.line fault.reason)⟩
  | loaded {text : String} {records : List Record} (accepted : validateTableName name = .ok ())
      (read : files.readText view name = .ok text)
      (recorded : readRecords (Char.ofNat files.delimiter.toNat) (dropByteOrderMark text.toList) =
        .ok records)
      (increasing : ((ragged records).map Record.line).Pairwise (· < ·)) :
      Reported files view name
        ⟨.fileRead (files.path name) text.utf8ByteSize :: raggedReport name records, [],
          .ok (records.tail.map fun record => rowOf (headerOf records) record.fields)⟩

theorem resolve_of_refused {failure : Failure} (refused : validateTableName name = .error failure) :
    files.resolve view name = ⟨[.nameRejected failure], [], .error failure⟩ := by
  rw [resolve, refused]
  rfl

theorem reported_resolve (files : TableFiles) (view : Files.View) (name : String) :
    files.Reported view name (files.resolve view name) := by
  cases validated : validateTableName name with
  | error failure =>
      rw [resolve_of_refused validated]
      exact .nameRejected validated
  | ok accepted =>
      rw [resolve, validated]
      cases read : files.readText view name with
      | error failure => exact .notRead validated read
      | ok text =>
          cases recorded : readRecords (Char.ofNat files.delimiter.toNat)
              (dropByteOrderMark text.toList) with
          | error fault =>
              have broken := Reported.malformed validated read recorded
              simpa [Traced.ofExcept, Traced.emit, readTable, recorded, Traced.fail] using broken
          | ok records =>
              have whole := Reported.loaded validated read recorded (pairwise_lines_ragged recorded)
              simpa [Traced.ofExcept, Traced.emit, readTable_of_records recorded] using whole

theorem Reported.completed_not_mem {resolved : Traced Failure (List Row)}
    (reported : files.Reported view name resolved) (n : Nat) :
    .completed n ∉ resolved.events := by
  cases reported with
  | nameRejected refused => simp
  | notRead accepted unread => simp
  | malformed accepted read broken => simp
  | loaded accepted read recorded increasing => simp [raggedReport]

end TableFiles

/-- What a recognized query reports, given what came of asking for its table. -/
structure Query.Traces (query : Query) (resolved : Traced Failure (List Row))
    (traced : Traced Error Answer) (stages : List Event) (outcome : Except Failure Answer) :
    Prop where
  /-- The store reports between the start and the stages. -/
  events : traced.events = .recognized query :: .executing query :: (resolved.events ++ stages)
  texts : ∀ event ∈ traced.events.take 2, event.fields = [("query", query.text)]
  result : traced.result = outcome.mapError .failed
  course : query.Course resolved.result stages outcome
  ordered : stages.map Event.message <+: query.stageMessages
  completed : ∀ n, .completed n ∈ traced.events ↔
    .completed n ∈ resolved.events ∨ ∃ answer, traced.result = .ok answer ∧ answer.size = n
  last : ∀ answer, traced.result = .ok answer →
    traced.events.getLast? = some (.completed answer.size)

theorem Query.Course.traces {query : Query} {resolved : Traced Failure (List Row)}
    {stages : List Event} {outcome : Except Failure Answer}
    (course : query.Course resolved.result stages outcome) (lookups : List String) :
    query.Traces resolved ⟨.recognized query :: .executing query :: (resolved.events ++ stages),
      lookups, outcome.mapError .failed⟩ stages outcome where
  events := rfl
  texts := by simp [Event.fields]
  result := rfl
  course := course
  ordered := course.messages_prefix
  completed n := by
    simp [course.completed_mem_iff, Result.mapError_eq_ok_iff]
  last answer := by
    intro done
    obtain rfl := Result.mapError_eq_ok_iff.mp done
    have whole : Event.recognized query :: .executing query :: (resolved.events ++ stages) =
        (.recognized query :: .executing query :: resolved.events) ++ stages := rfl
    rw [whole, List.getLast?_append, course.getLast?_eq]
    rfl

namespace Engine

theorem query_of_refused {engine : Engine} {text : String} {error : Error} (view : Files.View)
    (refused : validateQueryText text engine.config.maxQueryLength = .error error) :
    engine.query view text = ⟨[.textRejected error], [], .error error⟩ := by
  rw [query, recognize, refused]
  rfl

theorem query_of_rejected {engine : Engine} {text : String} {rejection : Rejection}
    (view : Files.View) (accepted : validateQueryText text engine.config.maxQueryLength = .ok ())
    (rejected : Query.recognize text = .error rejection) :
    engine.query view text = ⟨[], [], .error (.rejected rejection)⟩ := by
  rw [query, recognize, accepted]
  simp only [Query.recognizeTraced, rejected]
  rfl

theorem query_of_recognized {engine : Engine} {text : String} {query : Query}
    (view : Files.View) (accepted : validateQueryText text engine.config.maxQueryLength = .ok ())
    (recognized : Query.recognize text = .ok query) :
    let executed := query.execute (engine.backend.store view)
    engine.query view text = ⟨.recognized query :: executed.events, executed.lookups,
      executed.result.mapError .failed⟩ := by
  rw [Engine.query, recognize, accepted]
  simp only [Query.recognizeTraced, recognized]
  rfl

end Engine

end TableQuery
