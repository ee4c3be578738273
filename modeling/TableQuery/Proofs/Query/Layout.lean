import TableQuery.Query.Canonical
import TableQuery.Query.Recognition
import TableQuery.Proofs.Text.Occurrence

/-! # Layouts of a query

A layout is a text that states a query: its keywords in either case of their letters, its parts
with any blanks between them. A layout escapes nothing, so it can be read back only when the
parts keep clear of what separates them; such a query is separable.

The text of a literal is left open here, as a relation that says how literals are written.
-/

namespace TableQuery

open Text

/-- A selection that starts so is a count, or an attempt at one. -/
def OpensCount (text : List Char) : Prop :=
  ∃ keyword gap rest, Spells "COUNT".toList keyword ∧ Blanks gap ∧
    text = keyword ++ gap ++ '(' :: rest

def Selectable (name : String) : Prop :=
  Trimmed name.toList ∧ ¬Occurs "FROM".toList name.toList

inductive Selection.Separable : Selection → Prop where
  | all : Separable .all
  | columns {names : List String} (nonempty : names ≠ []) (notAll : names ≠ ["*"])
      (selectable : ∀ name ∈ names, Selectable name) (noComma : ∀ name ∈ names, ',' ∉ name.toList)
      (noCount : ∀ name ∈ names.head?, ¬OpensCount name.toList) : Separable (.columns names)
  | countRows {expression : String} : Separable (.count ⟨.rows, expression⟩)
  | countColumn {name expression : String} (selectable : Selectable name) (nonempty : name ≠ "")
      (notAll : name ≠ "*") : Separable (.count ⟨.column name, expression⟩)

/-- A column whose condition can be cut at its comparison. -/
structure Condition.Separable (condition : Condition) : Prop where
  trimmed : Trimmed condition.column.toList
  noComparison : ∀ c ∈ condition.column.toList, c ≠ '=' ∧ c ≠ '<' ∧ c ≠ '>'

structure Query.Separable (query : Query) : Prop where
  selection : query.selection.Separable
  sourceTrimmed : Trimmed query.source.toList
  noWhere : ¬OccursAsWord "WHERE".toList query.source.toList
  condition : ∀ condition ∈ query.condition, condition.Separable

/-- A source that is read back with nothing after it but the end of the query. -/
structure PlainSource (source : String) : Prop where
  trimmed : Trimmed source.toList
  noWhere : ¬OccursAsWord "WHERE".toList source.toList
  noSemicolon : source.toList.getLast? ≠ some ';'

/-- A separable query that still says the same when semicolons are put after it. -/
structure Query.Expressible (query : Query) : Prop extends query.Separable where
  noSemicolon : query.condition = none → query.source.toList.getLast? ≠ some ';'

def Padded (text padded : List Char) : Prop :=
  ∃ left right, Blanks left ∧ Blanks right ∧ padded = left ++ text ++ right

/-- Names between commas, with blanks anywhere around a name. -/
inductive ColumnsLayout : List String → List Char → Prop where
  | last {name : String} {piece : List Char} (padded : Padded name.toList piece) :
      ColumnsLayout [name] piece
  | cons {name : String} {names : List String} {piece text : List Char}
      (padded : Padded name.toList piece) (rest : ColumnsLayout names text) :
      ColumnsLayout (name :: names) (piece ++ ',' :: text)

inductive Selection.Layout : Selection → List Char → Prop where
  | all : Layout .all ['*']
  | columns {names : List String} {text : List Char} (listed : ColumnsLayout names text) :
      Layout (.columns names) text
  | count {aggregate : Aggregate} {keyword gap left right : List Char}
      (spelled : Spells "COUNT".toList keyword) (gapBlank : Blanks gap) (leftBlank : Blanks left)
      (rightBlank : Blanks right) :
      Layout (.count aggregate)
        (keyword ++ gap ++ '(' :: (left ++ aggregate.counted.text.toList ++ right ++ [')']))

abbrev LiteralForm := Literal → List Char → Prop

/-- A string stands between single quotes and an integer in decimal digits. -/
inductive Literal.Layout : LiteralForm where
  | string {text : String} : Layout (.string text) ('\'' :: (text.toList ++ ['\'']))
  | integer {value : Int64} : Layout (.integer value) (Number.intText value.toInt)

inductive Condition.Layout (form : LiteralForm) (condition : Condition) : List Char → Prop where
  | mk {left right literal : List Char} (leftGap : Gap left) (rightGap : Gap right)
      (written : form condition.literal literal) :
      Layout form condition
        (condition.column.toList ++ left ++
          (condition.comparison.symbol.toList ++ right ++ literal))

/-- What follows FROM: the source, and the condition after WHERE if there is one. -/
inductive ClauseLayout (form : LiteralForm) (source : String) :
    Option Condition → List Char → Prop where
  | plain : ClauseLayout form source none source.toList
  | filtered {condition : Condition} {before keyword after text : List Char}
      (beforeGap : Gap before) (spelled : Spells "WHERE".toList keyword) (afterGap : Gap after)
      (written : condition.Layout form text) :
      ClauseLayout form source (some condition)
        (source.toList ++ before ++ (keyword ++ after ++ text))

/-- What may follow a query: blanks, a row of semicolons, blanks again. -/
structure Ending where
  blanks : List Char
  semicolons : Nat
  trailing : List Char
  blank : Blanks blanks
  trailingBlank : Blanks trailing

def Ending.text (ending : Ending) : List Char :=
  ending.blanks ++ List.replicate ending.semicolons ';' ++ ending.trailing

/-- A text that states the query, with `selected` as its selection. -/
inductive Query.Layout (form : LiteralForm) (query : Query) (selected : List Char)
    (ending : Ending) : List Char → Prop where
  | mk {leading select first second fromWord third clause : List Char}
      (leadingBlank : Blanks leading) (spellsSelect : Spells "SELECT".toList select)
      (firstGap : Gap first) (chosen : query.selection.Layout selected) (secondGap : Gap second)
      (spellsFrom : Spells "FROM".toList fromWord) (thirdGap : Gap third)
      (stated : ClauseLayout form query.source query.condition clause) :
      Layout form query selected ending
        (leading ++ (select ++ (first ++ selected ++ second ++ fromWord ++ (third ++ clause))) ++
          ending.text)

section Mono

variable {form wider : LiteralForm}

theorem Condition.Layout.mono (sub : ∀ literal text, form literal text → wider literal text)
    {condition : Condition} {text : List Char} (h : condition.Layout form text) :
    condition.Layout wider text := by
  cases h with
  | mk leftGap rightGap written => exact .mk leftGap rightGap (sub _ _ written)

theorem ClauseLayout.mono (sub : ∀ literal text, form literal text → wider literal text)
    {source : String} {condition? : Option Condition} {text : List Char}
    (h : ClauseLayout form source condition? text) :
    ClauseLayout wider source condition? text := by
  cases h with
  | plain => exact .plain
  | filtered beforeGap spelled afterGap written =>
      exact .filtered beforeGap spelled afterGap (written.mono sub)

theorem Query.Layout.mono (sub : ∀ literal text, form literal text → wider literal text)
    {query : Query} {selected text : List Char} {ending : Ending}
    (h : query.Layout form selected ending text) : query.Layout wider selected ending text := by
  cases h with
  | mk leadingBlank spellsSelect firstGap chosen secondGap spellsFrom thirdGap stated =>
      exact .mk leadingBlank spellsSelect firstGap chosen secondGap spellsFrom thirdGap
        (stated.mono sub)

end Mono

/-- The selection with the text by which it was written, which only a count keeps. -/
def Selection.labelled (selected : List Char) : Selection → Selection
  | .count aggregate => .count { aggregate with expression := String.ofList selected }
  | selection => selection

def Query.labelled (query : Query) (selected : List Char) : Query :=
  { query with selection := query.selection.labelled selected }

end TableQuery
