import TableQuery.Row
import TableQuery.Traced

/-! # Stores

A store gives the rows of a table by its name, or the failure to do so. Queries read a store and
never change it.
-/

namespace TableQuery

structure Store where
  resolve : String → Traced Failure (List Row)

/-- Asks the store for a table, once. -/
def Store.load (store : Store) (table : String) : Traced Failure (List Row) := do
  Traced.lookup table
  let rows ← store.resolve table
  Traced.emit (.tableLoaded table rows.length)
  return rows

end TableQuery
