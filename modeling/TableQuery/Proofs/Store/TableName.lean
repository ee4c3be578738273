import TableQuery.Store.TableName

/-! # Names that are kept from the files

A name is refused for one of six reasons and otherwise accepted. None of the reasons looks at the
files, so whether a name is refused is the same everywhere.
-/

namespace TableQuery

/-- A name that is empty, too long, divided, leads out of its folder, or holds a NUL. -/
def Improper (name : String) : Prop :=
  name = "" ∨ 256 < name.utf8ByteSize ∨ '/' ∈ name.toList ∨ '\\' ∈ name.toList ∨
    ['.', '.'] <:+: name.toList ∨ '\x00' ∈ name.toList

theorem hasTwoDots_iff (name : List Char) : hasTwoDots name ↔ ['.', '.'] <:+: name := by
  induction name with
  | nil => simp [hasTwoDots]
  | cons first rest ih =>
      cases rest with
      | nil => simp [hasTwoDots, List.infix_cons_iff]
      | cons second rest =>
          have here : hasTwoDots (first :: second :: rest) =
              (('.', '.') == (first, second) || hasTwoDots (second :: rest)) := rfl
          have starts : ['.', '.'] <+: first :: second :: rest ↔ ('.', '.') == (first, second) := by
            simp [List.cons_prefix_cons]
          have later : ['.', '.'] <:+: first :: second :: rest ↔
              ['.', '.'] <+: first :: second :: rest ∨ ['.', '.'] <:+: second :: rest :=
            List.infix_cons_iff
          rw [here, Bool.or_eq_true, ih, later, starts]

variable {name : String}

theorem tableNameFault?_eq_none_iff : tableNameFault? name = none ↔ ¬Improper name := by
  have nothing : name.toList.isEmpty ↔ name = "" := by simp
  simp only [tableNameFault?, Improper, maxTableNameSize, ← hasTwoDots_iff, nothing,
    List.contains_iff_mem, Bool.or_eq_true, gt_iff_lt]
  grind

theorem validateTableName_eq_ok_iff : validateTableName name = .ok () ↔ ¬Improper name := by
  rw [← tableNameFault?_eq_none_iff, validateTableName]
  cases tableNameFault? name <;> simp

theorem exists_validateTableName_eq_error (improper : Improper name) :
    ∃ reason, validateTableName name = .error (.invalidTableName name reason) := by
  rw [validateTableName]
  cases fault : tableNameFault? name with
  | none => exact absurd improper (tableNameFault?_eq_none_iff.mp fault)
  | some reason => exact ⟨reason, rfl⟩

end TableQuery
