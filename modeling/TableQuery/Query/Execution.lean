import TableQuery.Query.Recognition
import TableQuery.Query.Stages
import TableQuery.Store.Basic

/-! # Running a query

The stages of a query in order, each reporting what it did once it has done it: the table is
loaded, filtered, and projected or counted.
-/

namespace TableQuery

/-- Recognizes a query and reports it. -/
def Query.recognizeTraced (text : String) : Traced Rejection Query := do
  let query ← Traced.ofExcept (Query.recognize text)
  Traced.emit (.recognized query)
  return query

/-- The rows that satisfy the condition, if there is one. -/
def filterRows (condition : Option Condition) (rows : List Row) : Traced Failure (List Row) :=
  match condition with
  | none => return rows
  | some condition => do
      let kept ← Traced.ofExcept (condition.filter rows)
      Traced.emit (.filtered condition rows.length kept.length)
      return kept

def Aggregate.count (aggregate : Aggregate) (rows : List Row) : Traced Failure Nat := do
  let count ← Traced.ofExcept (aggregate.counted.count rows)
  Traced.emit (.counted aggregate count)
  return count

/-- The answer made of the rows that were kept. -/
def Selection.answer (selection : Selection) (rows : List Row) : Traced Failure Answer :=
  match selection with
  | .count aggregate => do return .count (← aggregate.count rows)
  | .all | .columns _ => do return .rows (← Traced.ofExcept (selection.project rows))

def Query.execute (query : Query) (store : Store) : Traced Failure Answer := do
  Traced.emit (.executing query)
  let rows ← store.load query.source
  let kept ← filterRows query.condition rows
  let answer ← query.selection.answer kept
  Traced.emit (.completed answer.size)
  return answer

end TableQuery
