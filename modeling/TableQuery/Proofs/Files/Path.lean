import TableQuery.Files.Path

/-! # Files in folders

A file's path is that of its folder with one component more, as long as the name of the file is a
single component. So names that differ are paths that differ, and neither leads anywhere but into
the folder.
-/

namespace TableQuery.Files

/-- What stands between the path of a folder and the name of a file in it. -/
def separator (folder : String) : String :=
  if folder.isEmpty || folder.toList.getLast? == some '/' then "" else "/"

/-- A name that a path has as one of its components. -/
structure IsComponent (name : String) : Prop where
  undivided : '/' ∉ name.toList
  named : name ≠ "" ∧ name ≠ "."

variable {folder file : String}

theorem isAbsolute_of_undivided (undivided : '/' ∉ file.toList) : isAbsolute file = false := by
  rw [isAbsolute, beq_eq_false_iff_ne]
  exact fun first => undivided (List.mem_of_mem_head? first)

theorem joinPath_eq (undivided : '/' ∉ file.toList) :
    joinPath folder file = folder ++ separator folder ++ file := by
  rw [joinPath, isAbsolute_of_undivided undivided, Bool.false_or, separator]
  by_cases nothing : folder = ""
  · simp [nothing]
  · by_cases closed : folder.toList.getLast? == some '/'
    · simp [nothing, closed]
    · simp [nothing, closed]

theorem joinPath_injective {one other : String} (undivided : '/' ∉ one.toList)
    (undividedToo : '/' ∉ other.toList) (same : joinPath folder one = joinPath folder other) :
    one = other := by
  rw [joinPath_eq undivided, joinPath_eq undividedToo] at same
  exact (String.append_right_inj _).mp same

theorem isAbsolute_joinPath (undivided : '/' ∉ file.toList) :
    isAbsolute (joinPath folder file) = isAbsolute folder := by
  by_cases nothing : folder = ""
  · rw [joinPath_eq undivided, nothing]
    exact isAbsolute_of_undivided undivided
  · have begun : folder.toList ≠ [] := fun h => nothing (String.toList_eq_nil_iff.mp h)
    obtain ⟨first, rest, text⟩ := List.exists_cons_of_ne_nil begun
    rw [joinPath_eq undivided, isAbsolute, isAbsolute, String.append_assoc, String.toList_append,
      text]
    rfl

theorem components_append_slash (left right : String) :
    components (left ++ "/" ++ right) = components left ++ components right := by
  have slash : (left ++ "/" ++ right).toList = left.toList ++ '/' :: right.toList := by simp
  rw [components, pieces, slash, List.splitOn_append_cons_self, List.map_append,
    List.filter_append]
  rfl

theorem components_empty : components "" = [] := rfl

theorem IsComponent.components_eq (single : IsComponent file) : components file = [file] := by
  obtain ⟨undivided, named⟩ := single
  rw [components, pieces, List.splitOn_eq_singleton undivided]
  simp [named]

theorem IsComponent.components_joinPath (single : IsComponent file) :
    components (joinPath folder file) = components folder ++ [file] := by
  rw [joinPath_eq single.undivided, separator]
  split
  next closed =>
    rw [String.append_empty]
    rcases Bool.or_eq_true_iff.mp closed with nothing | slash
    · obtain rfl := String.isEmpty_iff.mp nothing
      rw [String.empty_append, single.components_eq, components_empty, List.nil_append]
    · obtain ⟨inner, ends⟩ := List.getLast?_eq_some_iff.mp (beq_iff_eq.mp slash)
      obtain rfl : folder = String.ofList inner ++ "/" := by
        rw [← String.toList_inj, ends]
        simp
      have bare := components_append_slash (String.ofList inner) ""
      rw [String.append_empty, components_empty, List.append_nil] at bare
      rw [components_append_slash, bare, single.components_eq]
  next =>
    rw [components_append_slash, single.components_eq]

end TableQuery.Files
