import TableQuery.Query.Literal
import TableQuery.Text.Search

/-! # Recognizing queries

A query text is cut by keywords and not by tokens: the selection ends at the first FROM, inside
a word or not, and the source at the first WHERE that stands as a word. What is between the
cuts is taken as it is, without its blanks at either end. Quotes protect nothing.
-/

namespace TableQuery

open Text (trim trimStart afterKeyword? cutAtKeyword? cutAtWord? firstPlace?)

/-- The comparison whose symbol starts a text, the longer symbol first, and what follows it. -/
def Comparison.leading? : List Char → Option (Comparison × List Char)
  | '<' :: '=' :: rest => some (.le, rest)
  | '>' :: '=' :: rest => some (.ge, rest)
  | '!' :: '=' :: rest => some (.ne, rest)
  | '=' :: rest => some (.eq, rest)
  | '<' :: rest => some (.lt, rest)
  | '>' :: rest => some (.gt, rest)
  | _ => none

/-- The text before the leftmost comparison, the comparison, and the text after it. -/
def Comparison.find? (text : List Char) : Option (List Char × Comparison × List Char) :=
  firstPlace? (fun _ rest => Comparison.leading? rest) [] text

def Condition.recognize (text : List Char) : Except Rejection Condition :=
  match Comparison.find? text with
  | none => .error .noComparison
  | some (left, comparison, right) => do
      let literal ← Literal.read right
      return ⟨String.ofList (trim left), comparison, literal⟩

/-- What a count counts. -/
def Counted.recognize (argument : List Char) : Counted :=
  if argument = ['*'] then .rows else .column (String.ofList argument)

/-- Reads a selection as a count. A selection that is not COUNT and an opening parenthesis, such
    as a column called `country`, is none. -/
def Aggregate.recognize? (selection : List Char) : Except Rejection (Option Aggregate) :=
  match (afterKeyword? "COUNT".toList selection).map trimStart with
  | some ('(' :: inner) =>
      let argument := trim inner.dropLast
      if inner.getLast? = some ')' ∧ argument ≠ [] then
        .ok (some ⟨Counted.recognize argument, String.ofList selection⟩)
      else .error (.invalidAggregate (String.ofList selection))
  | _ => .ok none

def Selection.recognize (text : List Char) : Except Rejection Selection := do
  match ← Aggregate.recognize? text with
  | some aggregate => return .count aggregate
  | none =>
      if text = ['*'] then return .all
      else return .columns ((text.splitOn ',').map fun name => String.ofList (trim name))

/-- The source and the text of the condition. A WHERE with nothing after it asks for nothing. -/
def splitCondition (text : List Char) : List Char × Option (List Char) :=
  match cutAtWord? "WHERE".toList text with
  | none => (text, none)
  | some (before, after) =>
      let condition := trim after
      (trim before, if condition.isEmpty then none else some condition)

/-- The statement of a text: no blanks at its ends and no semicolons after it. -/
def statement (text : List Char) : List Char :=
  Text.dropEndWhile (· == ';') (trim text)

/-- The query that a text states. A fault in the selection is reported before one in the
    condition. -/
def Query.recognizeChars (text : List Char) : Except Rejection Query :=
  match afterKeyword? "SELECT".toList (statement text) with
  | none => .error .notSelect
  | some body =>
      match cutAtKeyword? "FROM".toList body with
      | none => .error .noFrom
      | some (selected, rest) => do
          let (source, condition) := splitCondition (trim rest)
          let selection ← Selection.recognize (trim selected)
          let condition ← condition.mapM Condition.recognize
          return ⟨selection, String.ofList source, condition⟩

def Query.recognize (text : String) : Except Rejection Query :=
  Query.recognizeChars text.toList

end TableQuery
