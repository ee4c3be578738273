/-! # Records in delimited text

A text holds records, one a line, of fields between delimiters. A field may be put between
double quotes and may then hold delimiters, line ends and, doubled, quotes. A line ends with a
line feed, with a carriage return before it or not; empty lines hold no record.

The reader takes one character at a time and never looks ahead: where the meaning of a quote or
a carriage return depends on the character after it, the place says so and the next character
decides.
-/

namespace TableQuery.Delimited

/-- The fields of one record and the line it starts on. -/
structure Record where
  line : Nat
  fields : List String
  deriving DecidableEq, Repr

/-- Where a text stops being readable: the line on which the broken record starts. -/
structure Fault where
  line : Nat
  reason : String
  deriving DecidableEq, Repr

/-- Where the reader stands in a field. -/
inductive Place where
  /-- Outside quotes. -/
  | plain
  /-- Between quotes. -/
  | quoted
  /-- Just after a quote between quotes: it closes them, or is the first of a doubled one. -/
  | closing
  /-- Just after a carriage return outside quotes: it belongs to the line end, or to the field. -/
  | afterReturn
  deriving DecidableEq, Repr

structure Reader where
  records : Array Record
  /-- The finished fields of the current record. -/
  fields : Array String
  field : String
  place : Place
  /-- Whether the current record holds anything, be it an empty field. -/
  begun : Bool
  line : Nat
  /-- The line on which the current record starts. -/
  startLine : Nat
  deriving DecidableEq, Repr

namespace Reader

def start : Reader := ⟨#[], #[], "", .plain, false, 1, 1⟩

def put (r : Reader) (c : Char) : Reader := { r with field := r.field.push c, begun := true }

def endField (r : Reader) : Reader :=
  { r with fields := r.fields.push r.field, field := "", begun := true }

/-- Closes the current record unless it holds nothing. -/
def endRecord (r : Reader) : Reader :=
  if r.begun then
    { r with
      records := r.records.push ⟨r.startLine, (r.fields.push r.field).toList⟩
      fields := #[]
      field := ""
      begun := false }
  else r

def endLine (r : Reader) : Reader :=
  let r := r.endRecord
  { r with line := r.line + 1, startLine := r.line + 1 }

/-- Reads a character outside quotes. Quotes open only at the very start of a field; elsewhere a
    quote is a character like any other. -/
def stepPlain (delimiter : Char) (r : Reader) (c : Char) : Reader :=
  if c = '"' ∧ r.field = "" then { r with place := .quoted, begun := true }
  else if c = delimiter then r.endField
  else if c = '\r' then { r with place := .afterReturn }
  else if c = '\n' then r.endLine
  else r.put c

def step (delimiter : Char) (r : Reader) (c : Char) : Reader :=
  match r.place with
  | .plain => r.stepPlain delimiter c
  | .quoted =>
      if c = '"' then { r with place := .closing }
      else if c = '\n' then { r.put c with line := r.line + 1 }
      else r.put c
  | .closing =>
      if c = '"' then { r.put c with place := .quoted }
      else { r with place := .plain }.stepPlain delimiter c
  | .afterReturn =>
      let r := { r with place := .plain }
      if c = '\n' then r.stepPlain delimiter c else (r.put '\r').stepPlain delimiter c

/-- What is left at the end of the text: quotes still open are a fault, a carriage return
    belongs to the last field, and a record begun is a record. -/
def finish (r : Reader) : Except Fault (List Record) :=
  match r.place with
  | .quoted => .error ⟨r.startLine, "unterminated quoted field"⟩
  | .plain | .closing => .ok r.endRecord.records.toList
  | .afterReturn => .ok (r.put '\r').endRecord.records.toList

end Reader

/-- The records of a text, in order. -/
def readRecords (delimiter : Char) (text : List Char) : Except Fault (List Record) :=
  (text.foldl (Reader.step delimiter) Reader.start).finish

end TableQuery.Delimited
