import TableQuery.Query.Recognition
import TableQuery.Text.ByteSearch

/-! # Recognizing queries by byte offsets

The same recognition on texts in their UTF-8 form. Keywords and comparisons are found as byte
offsets, sizes are added to them, and what lies between two offsets is taken as a slice. A slice
that is refused would end the recognition without an answer.
-/

namespace TableQuery

open Text (Sliced Slice byteSize utf8 byteOffset? opensWith wordSearch trim trimStart)

namespace Comparison

/-- The symbols of two characters come before those that they start with. -/
def scanOrder : List Comparison := [.le, .ge, .ne, .eq, .lt, .gt]

/-- Looks for a symbol at each character of `ahead`, which starts at the offset. -/
def scanFrom {ε : Type} (text : List Char) :
    (offset : Nat) → (ahead : List Char) → Sliced ε (Option (Nat × Comparison))
  | _, [] => return none
  | offset, c :: ahead => do
      let rest ← .take ⟨text, offset, byteSize text⟩
      match scanOrder.find? fun comparison => comparison.symbol.toList.isPrefixOf rest with
      | some comparison => return some (offset, comparison)
      | none => scanFrom text (offset + c.utf8Size) ahead

/-- The byte offset of the leftmost comparison, and the comparison. -/
def scan {ε : Type} (text : List Char) : Sliced ε (Option (Nat × Comparison)) :=
  scanFrom text 0 text

end Comparison

def Literal.readSliced (text : List Char) : Sliced Rejection Literal :=
  let text := trim text
  let opens := text.head? == some '\''
  let closes := text.getLast? == some '\''
  if opens && closes && 2 ≤ byteSize text then do
    let content ← .take ⟨text, 1, byteSize text - 1⟩
    return .string (String.ofList content)
  else if opens || closes then
    .fail (.unterminatedString (String.ofList text))
  else
    return (readNumber? text).getD (.string (String.ofList text))

def Condition.recognizeSliced (text : List Char) : Sliced Rejection Condition := do
  match ← Comparison.scan text with
  | none => .fail .noComparison
  | some (offset, comparison) =>
      let column ← .take ⟨text, 0, offset⟩
      let right ← .take ⟨text, offset + comparison.symbol.utf8ByteSize, byteSize text⟩
      let literal ← Literal.readSliced right
      return ⟨String.ofList (trim column), comparison, literal⟩

def Aggregate.recognizeSliced? (selection : List Char) : Sliced Rejection (Option Aggregate) :=
  if opensWith "COUNT".toList selection then do
    let rest ← .take ⟨selection, byteSize "COUNT".toList, byteSize selection⟩
    match trimStart rest with
    | '(' :: inner =>
        let argument := trim inner.dropLast
        if inner.getLast? = some ')' ∧ argument ≠ [] then
          return some ⟨Counted.recognize argument, String.ofList selection⟩
        else .fail (.invalidAggregate (String.ofList selection))
    | _ => return none
  else return none

def Selection.recognizeSliced (text : List Char) : Sliced Rejection Selection := do
  match ← Aggregate.recognizeSliced? text with
  | some aggregate => return .count aggregate
  | none =>
      if text = ['*'] then return .all
      else return .columns ((text.splitOn ',').map fun name => String.ofList (trim name))

def splitConditionSliced (text : List Char) :
    Sliced Rejection (List Char × Option (List Char)) := do
  match (← wordSearch "WHERE".toList text 0).found? with
  | none => return (text, none)
  | some offset =>
      let before ← .take ⟨text, 0, offset⟩
      let after ← .take ⟨text, offset + byteSize "WHERE".toList, byteSize text⟩
      let condition := trim after
      return (trim before, if condition.isEmpty then none else some condition)

/-- Both keywords are looked for in the whole statement. A FROM before the end of SELECT would be
    no FROM. -/
def Query.recognizeSliced (text : List Char) : Sliced Rejection Query :=
  let statement := statement text
  if !opensWith "SELECT".toList statement then .fail .notSelect
  else
    match byteOffset? "SELECT".toList statement, byteOffset? "FROM".toList statement with
    | none, _ => .fail .notSelect
    | some _, none => .fail .noFrom
    | some select, some fromStart =>
        let selectEnd := select + byteSize "SELECT".toList
        if fromStart < selectEnd then .fail .noFrom
        else do
          let selected ← .take ⟨statement, selectEnd, fromStart⟩
          let rest ← .take
            ⟨statement, fromStart + byteSize "FROM".toList, byteSize statement⟩
          let (source, condition) ← splitConditionSliced (trim rest)
          let selection ← Selection.recognizeSliced (trim selected)
          let condition ← condition.mapM Condition.recognizeSliced
          return ⟨selection, String.ofList source, condition⟩

end TableQuery
