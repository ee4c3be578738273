import TableQuery.Answer
import TableQuery.Json.Reader
import TableQuery.Number.Shortest
import TableQuery.Query.Basic

/-! # Shipping rows and answers

Rows, answers and literals are shipped as JSON. A row is an object of its columns and its values,
or an array of the two; an answer and a literal are an object of one member named for the case.
What is read must be whole: the first fault in the text decides.
-/

namespace TableQuery.Shipping

/-- Why a text is not the form of anything shipped. -/
inductive Fault where
  | malformed
  /-- A row whose columns and values differ in number. -/
  | widths (columns values : Nat)
  deriving DecidableEq, Repr

def Fault.message? : Fault → Option String
  | .malformed => none
  | .widths columns values => some s!"row has {columns} columns but {values} values"

def cellForm : Cell → Json
  | none => .null
  | some text => .string text

def rowForm (row : Row) : Json :=
  .object [(some "columns", .array (row.keys.map .string)),
    (some "values", .array (row.values.map cellForm))]

def answerForm : Answer → Json
  | .count n => .object [(some "Count", .number (.ofInt n))]
  | .rows rows => .object [(some "Rows", .array (rows.map rowForm))]

/-- A double as its shortest decimal, marked as no integer by its exponent. Infinities and NaN
    have no form but null. -/
def floatForm (value : Float) : Json :=
  match Number.Binary64.ofFloat value with
  | .nan | .infinite _ => .null
  | .finite negative coefficient power closerBelow =>
      let decimal :=
        if coefficient = 0 then ⟨0, 0⟩ else Number.shortest coefficient power closerBelow
      .number ⟨negative, decimal.coefficient, [], some decimal.exponent⟩

def literalForm : Literal → Json
  | .string text => .object [(some "String", .string text)]
  | .integer value => .object [(some "Integer", .number (.ofInt value.toInt))]
  | .float value => .object [(some "Float", floatForm value)]

def string? : Json → Except Fault String
  | .string text => .ok text
  | _ => .error .malformed

def cell? : Json → Except Fault Cell
  | .null => .ok none
  | .string text => .ok (some text)
  | _ => .error .malformed

/-- Reads each item of an array. -/
def list? {α : Type} (item : Json → Except Fault α) : Json → Except Fault (List α)
  | .array items => items.mapM item
  | _ => .error .malformed

/-- The columns and values of a row before they are put together. -/
structure RawRow where
  columns : List String
  values : List Cell

/-- The row of as many columns as values. A column that comes twice has its last value. -/
def RawRow.toRow (raw : RawRow) : Except Fault Row :=
  if raw.columns.length = raw.values.length then .ok (Keyed.ofPairs (raw.columns.zip raw.values))
  else .error (.widths raw.columns.length raw.values.length)

/-- Takes in one member of a row's object. Members with other names are passed over; the same
    one may not come twice. -/
def readMember (found : Option (List String) × Option (List Cell))
    (member : Option String × Json) : Except Fault (Option (List String) × Option (List Cell)) :=
  match member, found with
  | (some "columns", value), (none, values) => do return (some (← list? string? value), values)
  | (some "values", value), (columns, none) => do return (columns, some (← list? cell? value))
  | (some name, value), _ =>
      match value with
      | .broken => .error .malformed
      | _ => if name = "columns" ∨ name = "values" then .error .malformed else .ok found
  | (none, _), _ => .error .malformed

def rawRow? : Json → Except Fault RawRow
  | .object members => do
      match ← members.foldlM readMember (none, none) with
      | (some columns, some values) => return ⟨columns, values⟩
      | _ => throw .malformed
  | .array [columns, values] => do return ⟨← list? string? columns, ← list? cell? values⟩
  | _ => .error .malformed

def row? (form : Json) : Except Fault Row := do (← rawRow? form).toRow

/-- Reads the single member of an object that names a case. -/
def case? {α : Type} (read : String → Json → Except Fault α) : Json → Except Fault α
  | .object ((some name, value) :: others) => do
      let result ← read name value
      if others.isEmpty then return result else throw .malformed
  | _ => .error .malformed

def integer? (low high : Int) : Json → Except Fault Int
  | .number number =>
      match number.toInt? with
      | some value => if low ≤ value ∧ value ≤ high then .ok value else .error .malformed
      | none => .error .malformed
  | _ => .error .malformed

def float? : Json → Except Fault Float
  | .number number =>
      match number.toFloat? with
      | some value => .ok value
      | none => .error .malformed
  | _ => .error .malformed

def answer? : Json → Except Fault Answer :=
  case? fun name value =>
    match name with
    | "Count" => do return .count (← integer? 0 (UInt64.size - 1) value).toNat
    | "Rows" => do return .rows (← list? row? value)
    | _ => .error .malformed

def literal? : Json → Except Fault Literal :=
  case? fun name value =>
    match name with
    | "String" => do return .string (← string? value)
    | "Integer" => do
        return .integer (Int64.ofInt
          (← integer? Int64.minValue.toInt Int64.maxValue.toInt value))
    | "Float" => do return .float (← float? value)
    | _ => .error .malformed

/-- Reads a form that is all of a text but for blanks. -/
def ofText? {α : Type} (read : Json → Except Fault α) (text : String) : Except Fault α := do
  let (form, rest) := Json.read text.toList
  let value ← read form
  if (Json.skipBlanks rest).isEmpty then return value else throw .malformed

end TableQuery.Shipping
