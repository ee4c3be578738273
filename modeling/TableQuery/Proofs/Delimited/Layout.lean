import TableQuery.Delimited.Table

/-! # Layouts of a table

A layout is a text that a table may be written as. Each field stands between quotes or, if none
of its characters would be taken for something else, as it is; lines end with a line feed or a
carriage return and a line feed; empty lines may stand anywhere between records.
-/

namespace TableQuery.Delimited

/-- A character that is no delimiter, no line end and no quote. The reader needs it to be so for
    the delimiter itself. -/
structure Separator (delimiter : Char) : Prop where
  notQuote : delimiter ≠ '"'
  notReturn : delimiter ≠ '\r'
  notNewline : delimiter ≠ '\n'

/-- A character that stands for itself outside quotes. -/
def Ordinary (delimiter c : Char) : Prop := c ≠ '"' ∧ c ≠ delimiter ∧ c ≠ '\r' ∧ c ≠ '\n'

/-- The characters between the quotes, each quote doubled. -/
def escape : List Char → List Char
  | [] => []
  | c :: rest => if c = '"' then '"' :: '"' :: escape rest else c :: escape rest

inductive FieldLayout (delimiter : Char) (field : String) : List Char → Prop where
  | bare (ordinary : ∀ c ∈ field.toList, Ordinary delimiter c) :
      FieldLayout delimiter field field.toList
  | quoted : FieldLayout delimiter field ('"' :: (escape field.toList ++ ['"']))

inductive FieldsLayout (delimiter : Char) : List String → List Char → Prop where
  | last {field : String} {text : List Char} (written : FieldLayout delimiter field text) :
      FieldsLayout delimiter [field] text
  | cons {field : String} {fields : List String} {text rest : List Char}
      (written : FieldLayout delimiter field text) (others : FieldsLayout delimiter fields rest) :
      FieldsLayout delimiter (field :: fields) (text ++ delimiter :: rest)

/-- The fields of a record. A single empty field needs its quotes, for nothing at all would be an
    empty line. -/
structure RecordLayout (delimiter : Char) (fields : List String) (text : List Char) : Prop where
  written : FieldsLayout delimiter fields text
  visible : text ≠ []

inductive LineEnd : List Char → Prop where
  | newline : LineEnd ['\n']
  | returnNewline : LineEnd ['\r', '\n']

inductive EmptyLines : List Char → Prop where
  | nil : EmptyLines []
  | cons {ending rest : List Char} (ended : LineEnd ending) (others : EmptyLines rest) :
      EmptyLines (ending ++ rest)

/-- Records on lines of their own. The text may end with the last record or go on to the end of
    its line and to further empty lines. -/
inductive RecordsLayout (delimiter : Char) : List (List String) → List Char → Prop where
  | nil {empty : List Char} (lines : EmptyLines empty) : RecordsLayout delimiter [] empty
  | last {fields : List String} {empty text : List Char} (lines : EmptyLines empty)
      (record : RecordLayout delimiter fields text) :
      RecordsLayout delimiter [fields] (empty ++ text)
  | cons {fields : List String} {records : List (List String)} {empty text ending rest : List Char}
      (lines : EmptyLines empty) (record : RecordLayout delimiter fields text)
      (ended : LineEnd ending) (others : RecordsLayout delimiter records rest) :
      RecordsLayout delimiter (fields :: records) (empty ++ (text ++ (ending ++ rest)))

/-- Records with a byte order mark before them or not. A text that begins with that character
    anyway needs one more. -/
inductive TableLayout (delimiter : Char) (records : List (List String)) : List Char → Prop where
  | marked {text : List Char} (written : RecordsLayout delimiter records text) :
      TableLayout delimiter records ('\uFEFF' :: text)
  | unmarked {text : List Char} (written : RecordsLayout delimiter records text)
      (start : text.head? ≠ some '\uFEFF') : TableLayout delimiter records text

/-- A row that has the columns of the header in order and in each of them the field at its place
    in the record, absent where the record is too short. -/
structure Aligned (header fields : List String) (row : Row) : Prop where
  columns : row.columns = header
  cells : ∀ (i : Nat) (column : String), header[i]? = some column →
    row.cell? column = some fields[i]?

end TableQuery.Delimited
