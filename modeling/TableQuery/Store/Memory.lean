import TableQuery.Store.Basic

/-! # Tables in memory

Named tables, each registered under its name as it is. Registering a name again replaces the
table.
-/

namespace TableQuery

abbrev MemoryTables := Keyed (List Row)

namespace MemoryTables

/-- The names of the tables in the order of their code points. -/
def sortedNames (tables : MemoryTables) : List String :=
  tables.keys.mergeSort fun a b => a ≤ b

def resolve (tables : MemoryTables) (name : String) : Except Failure (List Row) :=
  match tables.get? name with
  | some rows => .ok rows
  | none => .error (.tableNotFound name)

def store (tables : MemoryTables) : Store where
  resolve name := .ofExcept (tables.resolve name)

end MemoryTables

end TableQuery
