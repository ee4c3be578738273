import Mathlib.Data.Fintype.EquivFin
import Mathlib.Data.Set.Finite.List
import TableQuery.Engine.Basic
import TableQuery.Proofs.Query.Meaning

/-! # Engines that agree

What an engine answers depends on its tables through one lookup only, that of the query's source.
So two engines that find the same there give the same answer, whatever kind of tables they have.
Tables in memory that mirror table files are found as the files are, as long as a file is missing
or loads; a refused name or a broken file is a failure that tables in memory do not know.
-/

namespace TableQuery

namespace TableFiles

variable {files : TableFiles} {view : Files.View} {name : String}

/-- The tables are those of the files that load, each registered under its name. -/
def MirroredBy (files : TableFiles) (view : Files.View) (tables : MemoryTables) : Prop :=
  ∀ name rows, tables.get? name = some rows ↔
    validateTableName name = .ok () ∧ (files.resolve view name).result = .ok rows

/-- The name can be that of a table file, and the file is missing or loads. -/
structure MissingOrLoads (files : TableFiles) (view : Files.View) (name : String) : Prop where
  accepted : validateTableName name = .ok ()
  found : view.read (files.path name) = .error .notFound ∨
    ∃ rows, (files.resolve view name).result = .ok rows

theorem exists_tables_of_names (files : TableFiles) (view : Files.View) (names : List String) :
    ∃ tables : MemoryTables, ∀ name rows, tables.get? name = some rows ↔
      name ∈ names ∧ validateTableName name = .ok () ∧
        (files.resolve view name).result = .ok rows := by
  induction names with
  | nil => exact ⟨Keyed.empty, by simp⟩
  | cons first names ih =>
      obtain ⟨tables, registered⟩ := ih
      by_cases loads : ∃ rows, validateTableName first = .ok () ∧
          (files.resolve view first).result = .ok rows
      · obtain ⟨loaded, accepted, resolved⟩ := loads
        refine ⟨tables.set first loaded, fun name rows => ?_⟩
        rw [Keyed.get?_set]
        by_cases here : name = first
        · simp [here, accepted, resolved]
        · simp [here, registered]
      · refine ⟨tables, fun name rows => ?_⟩
        rw [registered]
        by_cases here : name = first
        · have never : ¬(validateTableName name = .ok () ∧
              (files.resolve view name).result = .ok rows) := fun loaded =>
            loads ⟨rows, here ▸ loaded⟩
          simp [never]
        · simp [here]

theorem size_le_of_accepted (accepted : validateTableName name = .ok ()) :
    name.utf8ByteSize ≤ maxTableNameSize := by
  refine Nat.not_lt.mp fun long => ?_
  have fault : tableNameFault? name ≠ none := by
    rw [tableNameFault?, if_pos long]
    split <;> simp
  rw [validateTableName] at accepted
  split at accepted
  · cases accepted
  next none => exact fault none

/-- There are only so many names of at most so many bytes. -/
theorem finite_accepted : {name : String | validateTableName name = .ok ()}.Finite := by
  have : Finite UInt8 := Finite.of_injective UInt8.toFin fun a b => UInt8.toFin_inj.mp
  have short := List.finite_length_le UInt8 maxTableNameSize
  have injective : Function.Injective Text.bytes := fun a b => Text.bytes_inj.mp
  refine (short.preimage injective.injOn).subset fun name accepted => ?_
  have size : (Text.bytes name).length = name.utf8ByteSize := by simp [Text.bytes]
  have fits := size_le_of_accepted accepted
  rwa [← size] at fits

theorem exists_mirroredBy (files : TableFiles) (view : Files.View) :
    ∃ tables, files.MirroredBy view tables := by
  obtain ⟨tables, registered⟩ := files.exists_tables_of_names view finite_accepted.toFinset.toList
  refine ⟨tables, fun name rows => ?_⟩
  rw [registered, Finset.mem_toList, Set.Finite.mem_toFinset]
  exact and_iff_right_of_imp And.left

theorem resolve_of_missing (accepted : validateTableName name = .ok ())
    (missing : view.read (files.path name) = .error .notFound) :
    (files.resolve view name).result = .error (.tableNotFound name) := by
  rw [resolve, accepted, readText, missing]
  rfl

theorem MirroredBy.resolve_eq {tables : MemoryTables} (mirrored : files.MirroredBy view tables)
    (decided : files.MissingOrLoads view name) :
    tables.resolve name = (files.resolve view name).result := by
  obtain ⟨accepted, missing | ⟨rows, loaded⟩⟩ := decided
  · have absent : tables.get? name = none := by
      cases found : tables.get? name with
      | none => rfl
      | some rows =>
          have loaded := ((mirrored name rows).mp found).2
          rw [resolve_of_missing accepted missing] at loaded
          cases loaded
    rw [resolve_of_missing accepted missing, MemoryTables.resolve, absent]
  · rw [loaded, MemoryTables.resolve, (mirrored name rows).mpr ⟨accepted, loaded⟩]

end TableFiles

theorem Query.result_execute_congr {query : Query} {one other : Store}
    (same : (one.resolve query.source).result = (other.resolve query.source).result) :
    (query.execute one).result = (query.execute other).result := by
  rw [result_execute_stages, result_execute_stages, same]

namespace Engine

theorem queryTextFault?_congr {text : String} {limit other : Nat}
    (fits : text.utf8ByteSize ≤ limit) (fitsOther : text.utf8ByteSize ≤ other) :
    queryTextFault? text limit = queryTextFault? text other := by
  unfold queryTextFault?
  rw [if_neg (Nat.not_lt.mpr fits), if_neg (Nat.not_lt.mpr fitsOther)]

variable {one other : Engine} {text : String}

theorem recognize_congr (fits : text.utf8ByteSize ≤ one.config.maxQueryLength)
    (fitsOther : text.utf8ByteSize ≤ other.config.maxQueryLength) :
    one.recognize text = other.recognize text := by
  unfold recognize validateQueryText
  rw [queryTextFault?_congr fits fitsOther]

theorem result_query (engine : Engine) (view : Files.View) (text : String) :
    (engine.query view text).result = (engine.recognize text).result >>= fun query =>
      (query.execute (engine.backend.store view)).result.mapError Error.failed := by
  rw [query, Traced.result_bind]
  rfl

theorem result_query_congr {view otherView : Files.View}
    (fits : text.utf8ByteSize ≤ one.config.maxQueryLength)
    (fitsOther : text.utf8ByteSize ≤ other.config.maxQueryLength)
    (same : ∀ query, (one.recognize text).result = .ok query →
      ((one.backend.store view).resolve query.source).result =
        ((other.backend.store otherView).resolve query.source).result) :
    (one.query view text).result = (other.query otherView text).result := by
  rw [result_query, result_query, ← recognize_congr fits fitsOther]
  cases recognized : (one.recognize text).result with
  | error error => rfl
  | ok query =>
      rw [Result.ok_bind, Result.ok_bind, Query.result_execute_congr (same query recognized)]

/-- Every collection of table files is mirrored by tables in memory, and an engine on those
    answers as the engine on the files does: to a text that is no query, and to a query from a
    table whose file is missing or loads. An engine on a store of its host that finds what the files
    give for the source answers the same, and so does any query on two stores that find the same
    for its source. -/
theorem answers_agree :
    (∀ (files : TableFiles) (view : Files.View),
      (∃ tables, files.MirroredBy view tables) ∧
      ∀ (text : String) (onFiles : EngineConfig), text.utf8ByteSize ≤ onFiles.maxQueryLength →
        (∀ (tables : MemoryTables) (inMemory : EngineConfig) (otherView : Files.View),
          files.MirroredBy view tables → text.utf8ByteSize ≤ inMemory.maxQueryLength →
          ((∃ error, (recognize ⟨.files files, onFiles⟩ text).result = .error error) ∨
            ∃ query, (recognize ⟨.files files, onFiles⟩ text).result = .ok query ∧
              files.MissingOrLoads view query.source) →
          (Engine.query ⟨.files files, onFiles⟩ view text).result =
            (Engine.query ⟨.memory tables, inMemory⟩ otherView text).result) ∧
        ∀ (store : Store) (onStore : EngineConfig) (otherView : Files.View),
          text.utf8ByteSize ≤ onStore.maxQueryLength →
          (∀ query, (recognize ⟨.files files, onFiles⟩ text).result = .ok query →
            (store.resolve query.source).result = (files.resolve view query.source).result) →
          (Engine.query ⟨.files files, onFiles⟩ view text).result =
            (Engine.query ⟨.host store, onStore⟩ otherView text).result) ∧
    ∀ (query : Query) (one other : Store),
      (one.resolve query.source).result = (other.resolve query.source).result →
        (query.execute one).result = (query.execute other).result := by
  refine ⟨?_, fun query one other => Query.result_execute_congr⟩
  intro files view
  refine ⟨files.exists_mirroredBy view, fun text onFiles fits => ⟨?_, ?_⟩⟩
  · intro tables inMemory otherView mirrored fitsMemory outcome
    refine result_query_congr fits fitsMemory fun query recognized => ?_
    obtain ⟨error, rejected⟩ | ⟨found, same, decided⟩ := outcome
    · rw [rejected] at recognized
      cases recognized
    · obtain rfl := Except.ok.inj (same.symm.trans recognized)
      exact (mirrored.resolve_eq decided).symm
  · intro store onStore otherView fitsStore same
    exact result_query_congr fits fitsStore fun query recognized => (same query recognized).symm

/-- A folder with one table file, a query from it and one from a file that is not there. -/
theorem answers_agree_lone :
    ∃ tables : MemoryTables,
      TableFiles.standard.MirroredBy
        (Files.Tree.view ⟨[["data"]], [(["data", "t.csv"], "a\n1".toUTF8)]⟩) tables ∧
      (Engine.query ⟨.memory tables, EngineConfig.standard⟩ Files.Tree.empty.view
        "SELECT a FROM t").result = .ok (.rows [⟨[("a", some "1")], by decide⟩]) ∧
      (Engine.query ⟨.memory tables, EngineConfig.standard⟩ Files.Tree.empty.view
        "SELECT a FROM u").result = .error (.failed (.tableNotFound "u")) := by
  obtain ⟨⟨tables, mirrored⟩, agree⟩ := answers_agree.1 TableFiles.standard
    (Files.Tree.view ⟨[["data"]], [(["data", "t.csv"], "a\n1".toUTF8)]⟩)
  refine ⟨tables, mirrored, ?_, ?_⟩
  · have loads := (agree "SELECT a FROM t" EngineConfig.standard (by decide)).1 tables
      EngineConfig.standard Files.Tree.empty.view mirrored (by decide)
      (.inr ⟨_, by rfl, by rfl, .inr ⟨_, by rfl⟩⟩)
    rw [← loads]
    rfl
  · have missing := (agree "SELECT a FROM u" EngineConfig.standard (by decide)).1 tables
      EngineConfig.standard Files.Tree.empty.view mirrored (by decide)
      (.inr ⟨_, by rfl, by rfl, .inl (by rfl)⟩)
    rw [← missing]
    rfl

end Engine

end TableQuery
