import TableQuery.Proofs.Engine.Lookups
import TableQuery.Proofs.Files.Path
import TableQuery.Proofs.Store.TableName

/-! # Tables stay in their folder

The file of a table is one component below the folder of the tables, whatever is written for the
table in a query, and nothing but reading that file has a say in what comes of it. A name that could
lead elsewhere is refused before any file is looked at.
-/

namespace TableQuery

namespace TableFiles

variable {files : TableFiles} {name other : String}

def fileName (files : TableFiles) (name : String) : String := name ++ "." ++ files.extension

/-- The extension can be part of a file's name. -/
structure PlainExtension (files : TableFiles) : Prop where
  undivided : '/' ∉ files.extension.toList
  unbroken : '\x00' ∉ files.extension.toList

/-- A file in the folder of the tables. The component is the folder above for one name alone. -/
structure Inside (files : TableFiles) (name : String) : Prop where
  path : files.path name =
    files.dataDir ++ Files.separator files.dataDir ++ files.fileName name
  components : Files.components (files.path name) =
    Files.components files.dataDir ++ [files.fileName name]
  absolute : Files.isAbsolute (files.path name) = Files.isAbsolute files.dataDir
  undivided : '/' ∉ (files.fileName name).toList
  unbroken : '\x00' ∉ (files.fileName name).toList
  moves : files.fileName name ≠ "."
  above : files.fileName name = ".." ↔ name = "." ∧ files.extension = ""

theorem toList_fileName (files : TableFiles) (name : String) :
    (files.fileName name).toList = name.toList ++ '.' :: files.extension.toList := by
  simp [fileName]

theorem not_mem_fileName {c : Char} (dot : c ≠ '.') (named : c ∉ name.toList)
    (extended : c ∉ files.extension.toList) : c ∉ (files.fileName name).toList := by
  rw [toList_fileName, List.mem_append, List.mem_cons, not_or, not_or]
  exact ⟨named, dot, extended⟩

theorem fileName_injective (same : files.fileName name = files.fileName other) : name = other := by
  rw [← String.toList_inj, toList_fileName, toList_fileName] at same
  exact String.toList_inj.mp (List.append_cancel_right same)

theorem two_le_length_fileName (named : name ≠ "") :
    2 ≤ (files.fileName name).toList.length := by
  have begun : 0 < name.toList.length := by
    rw [List.length_pos_iff]
    exact fun nothing => named (String.toList_eq_nil_iff.mp nothing)
  rw [toList_fileName, List.length_append, List.length_cons]
  omega

theorem fileName_eq_above_iff (named : name ≠ "") :
    files.fileName name = ".." ↔ name = "." ∧ files.extension = "" := by
  constructor
  · intro same
    obtain ⟨first, rest, text⟩ :=
      List.exists_cons_of_ne_nil fun nothing => named (String.toList_eq_nil_iff.mp nothing)
    rw [← String.toList_inj, toList_fileName, text] at same
    obtain ⟨rfl, tail⟩ := List.cons.inj same
    rcases List.append_eq_singleton_iff.mp tail with ⟨rfl, bare⟩ | ⟨-, nothing⟩
    · exact ⟨String.toList_inj.mp text, String.toList_eq_nil_iff.mp (List.cons.inj bare).2⟩
    · cases nothing
  · rintro ⟨rfl, bare⟩
    rw [fileName, bare]
    rfl

theorem inside_of_accepted (plain : files.PlainExtension)
    (accepted : validateTableName name = .ok ()) : files.Inside name := by
  have proper := validateTableName_eq_ok_iff.mp accepted
  simp only [Improper, not_or] at proper
  obtain ⟨named, -, undivided, -, -, unbroken⟩ := proper
  have single : '/' ∉ (files.fileName name).toList :=
    not_mem_fileName (by decide) undivided plain.undivided
  have long : ∀ short : String, short.toList.length < 2 → files.fileName name ≠ short := by
    rintro short few rfl
    exact absurd (two_le_length_fileName named) (Nat.not_le.mpr few)
  have component : Files.IsComponent (files.fileName name) :=
    ⟨single, long "" (by decide), long "." (by decide)⟩
  exact {
    path := Files.joinPath_eq single
    components := component.components_joinPath
    absolute := Files.isAbsolute_joinPath single
    undivided := single
    unbroken := not_mem_fileName (by decide) unbroken plain.unbroken
    moves := component.named.2
    above := fileName_eq_above_iff named }

theorem path_injective (inside : files.Inside name) (insideToo : files.Inside other)
    (same : files.path name = files.path other) : name = other :=
  fileName_injective (Files.joinPath_injective inside.undivided insideToo.undivided same)

theorem resolve_congr {one another : Files.View}
    (same : one.read (files.path name) = another.read (files.path name)) :
    files.resolve one name = files.resolve another name := by
  simp only [resolve, readText, same]

theorem Reported.lookups_eq {view : Files.View} {resolved : Traced Failure (List Row)}
    (reported : files.Reported view name resolved) : resolved.lookups = [] := by
  cases reported <;> rfl

theorem resolve_of_improper (files : TableFiles) (improper : Improper name) :
    ∃ reason, ∀ view, files.resolve view name =
      ⟨[.nameRejected (.invalidTableName name reason)], [],
        .error (.invalidTableName name reason)⟩ := by
  obtain ⟨reason, refused⟩ := exists_validateTableName_eq_error improper
  exact ⟨reason, fun view => resolve_of_refused refused⟩

end TableFiles

namespace Engine

variable {files : TableFiles} {config : EngineConfig} {text : String} {query : Query}

theorem query_congr_of_read {one another : Files.View}
    (accepted : accepted? config.maxQueryLength text = some query)
    (same : one.read (files.path query.source) = another.read (files.path query.source)) :
    Engine.query ⟨.files files, config⟩ one text =
      Engine.query ⟨.files files, config⟩ another text := by
  have executes : query.execute (files.store one) = query.execute (files.store another) :=
    Query.execute_congr (TableFiles.resolve_congr same)
  rw [query_of_accepted accepted, query_of_accepted accepted]
  simp only [Backend.store, executes]

theorem query_of_improper (accepted : accepted? config.maxQueryLength text = some query)
    (improper : Improper query.source) :
    ∃ reason, ∀ view, Engine.query ⟨.files files, config⟩ view text =
      ⟨[.recognized query, .executing query,
          .nameRejected (.invalidTableName query.source reason)], [query.source],
        .error (.failed (.invalidTableName query.source reason))⟩ := by
  obtain ⟨reason, refused⟩ := files.resolve_of_improper improper
  refine ⟨reason, fun view => ?_⟩
  have resolved : (files.store view).resolve query.source = _ := refused view
  obtain ⟨stages, outcome, course, executed⟩ := query.exists_course (files.store view)
  rw [resolved] at course executed
  cases course with
  | notLoaded =>
      rw [query_of_accepted accepted]
      simp only [Backend.store, executed]
      rfl

/-- A table that may be the name of a file is one component below the folder of the tables, and its
    own one. That component is divided by no slash, holds no NUL, and is the folder itself for no
    table and the folder above for one alone. What comes of asking for the table depends on reading
    that file and on no other. Any other name is refused alike whatever files there are. So it is
    for the source of a query text, and a text that is no accepted query has nothing to do with
    files. -/
theorem names_confined (files : TableFiles) (plain : files.PlainExtension) :
    (∀ name, validateTableName name = .ok () ↔ ¬Improper name) ∧
    (∀ name, validateTableName name = .ok () →
      files.Inside name ∧
      (∀ other, validateTableName other = .ok () → files.path name = files.path other →
        name = other) ∧
      ∀ one another : Files.View,
        one.read (files.path name) = another.read (files.path name) →
          files.resolve one name = files.resolve another name) ∧
    (∀ name, Improper name → ∃ reason, ∀ view, files.resolve view name =
      ⟨[.nameRejected (.invalidTableName name reason)], [],
        .error (.invalidTableName name reason)⟩) ∧
    ∀ (config : EngineConfig) (text : String),
      (accepted? config.maxQueryLength text = none → ∃ events error, ∀ view,
        Engine.query ⟨.files files, config⟩ view text = ⟨events, [], .error error⟩) ∧
      ∀ query, accepted? config.maxQueryLength text = some query →
        (validateTableName query.source = .ok () → ∀ one another : Files.View,
          one.read (files.path query.source) = another.read (files.path query.source) →
            Engine.query ⟨.files files, config⟩ one text =
              Engine.query ⟨.files files, config⟩ another text) ∧
        (Improper query.source → ∃ reason, ∀ view,
          Engine.query ⟨.files files, config⟩ view text =
            ⟨[.recognized query, .executing query,
                .nameRejected (.invalidTableName query.source reason)], [query.source],
              .error (.failed (.invalidTableName query.source reason))⟩) := by
  refine ⟨fun name => validateTableName_eq_ok_iff, ?_, fun name => files.resolve_of_improper, ?_⟩
  · intro name accepted
    have inside := TableFiles.inside_of_accepted plain accepted
    refine ⟨inside, fun other acceptedToo same => ?_, fun one another => TableFiles.resolve_congr⟩
    exact TableFiles.path_injective inside (TableFiles.inside_of_accepted plain acceptedToo) same
  · intro config text
    constructor
    · intro refused
      obtain ⟨events, error, ends⟩ := query_of_not_accepted refused
      exact ⟨events, error, ends (.files files)⟩
    · intro query accepted
      exact ⟨fun _ one another => query_congr_of_read accepted, query_of_improper accepted⟩

/-- The one name that leads above, a query that cannot, and one whose answer is the same beside
    other files. -/
theorem names_confined_dot :
    let bare : TableFiles := ⟨"data/", "", 44⟩
    let one := Files.Tree.view ⟨[["data"]], [(["data", "t."], "a\n1".toUTF8)]⟩
    let another := Files.Tree.view
      ⟨[["data"]], [(["data", "t."], "a\n1".toUTF8), (["data", "u."], "b".toUTF8)]⟩
    Files.components (bare.path ".") = ["data", ".."] ∧
    (∃ reason, ∀ view, (Engine.query ⟨.files bare, .standard⟩ view "SELECT * FROM ../t").result =
      .error (.failed (.invalidTableName "../t" reason))) ∧
    Engine.query ⟨.files bare, .standard⟩ one "SELECT * FROM t" =
      Engine.query ⟨.files bare, .standard⟩ another "SELECT * FROM t" := by
  intro bare one another
  obtain ⟨-, inside, -, texts⟩ := names_confined bare ⟨by decide, by decide⟩
  refine ⟨?_, ?_, ?_⟩
  · have single := (inside "." (by rfl)).1
    rw [single.components, single.above.mpr ⟨rfl, rfl⟩]
    decide
  · have refused := ((texts .standard "SELECT * FROM ../t").2 ⟨.all, "../t", none⟩ (by rfl)).2
    obtain ⟨reason, always⟩ := refused (by unfold Improper; decide)
    exact ⟨reason, fun view => by rw [always]⟩
  · have same := ((texts .standard "SELECT * FROM t").2 ⟨.all, "t", none⟩ (by rfl)).1
    exact same (by rfl) one another (by simp only [one, another, bare]; rfl)

end Engine

end TableQuery
