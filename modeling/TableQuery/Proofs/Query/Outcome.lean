import TableQuery.Proofs.Query.LayoutReading
import TableQuery.Proofs.Query.Splitting
import TableQuery.Proofs.Result

/-! # What becomes of a text

A text is recognized as a query or rejected for one of five reasons, and the grammar alone says
which. It cuts the statement at its first keywords and looks at the parts from left to right: a
fault of the selection hides any fault of the condition.

No part of the grammar searches or counts. A keyword is found where none stands before it, a
comparison where none stands before it and none longer at its place.
-/

namespace TableQuery

open Text

namespace Text

/-- The first occurrence of the keyword stands between the two parts of the text. -/
def FirstBetween (keyword before after text : List Char) : Prop :=
  OccursBetween keyword before after text ∧
    ∀ left right, OccursBetween keyword left right text → before.length ≤ left.length

def FirstWordBetween (keyword before after text : List Char) : Prop :=
  (OccursBetween keyword before after text ∧ WordBreak before after) ∧
    ∀ left right, OccursBetween keyword left right text → WordBreak left right →
      before.length ≤ left.length

section First

variable {keyword before after text head body : List Char}

theorem exists_firstBetween (letters : Letters keyword) (occurs : Occurs keyword text) :
    ∃ before after, FirstBetween keyword before after text := by
  cases cut : cutAtKeyword? keyword text with
  | none => exact absurd occurs ((cutAtKeyword?_eq_none_iff letters).mp cut)
  | some parts => exact ⟨parts.1, parts.2, (cutAtKeyword?_eq_some_iff letters).mp cut⟩

theorem OccursBetween.exists_before_eq_append {first : Char}
    (h : OccursBetween (first :: keyword) before after (head ++ body))
    (foreign : ∀ c ∈ head, c.toLower ≠ first.toLower) :
    ∃ rest, before = head ++ rest ∧ OccursBetween (first :: keyword) rest after body := by
  obtain ⟨spelling, eq, spells⟩ := h
  rw [List.append_assoc] at eq
  rcases List.append_eq_append_iff.mp eq with ⟨rest, rfl, inner⟩ | ⟨excess, rfl, inner⟩
  · exact ⟨rest, rfl, spelling, by rw [inner, List.append_assoc], spells⟩
  · cases excess with
    | nil => exact ⟨[], by simp, spelling, by simpa using inner.symm, spells⟩
    | cons c excess =>
        cases spelling with
        | nil => cases spells
        | cons d spelling =>
            -- The occurrence would start inside the head.
            obtain ⟨rfl, -⟩ := List.cons.inj inner
            have letter : d.toLower = first.toLower := (List.cons.inj spells).1
            exact absurd letter (foreign d (by simp))

end First

end Text

def Query.Selects (statement body : List Char) : Prop :=
  ∃ select, Spells "SELECT".toList select ∧ statement = select ++ body

/-- The selection stands between SELECT and the first FROM, the clause after that FROM, and the
    blanks around them belong to neither. -/
def Query.Parts (statement selection clause : List Char) : Prop :=
  ∃ select between after, Spells "SELECT".toList select ∧
    FirstBetween "FROM".toList (select ++ between) after statement ∧
    selection = trim between ∧ clause = trim after

/-- An attempt at a count that is left open or counts nothing. -/
def Selection.BrokenCount (selection : List Char) : Prop :=
  ∃ keyword gap inner, Spells "COUNT".toList keyword ∧ Blanks gap ∧
    selection = keyword ++ gap ++ '(' :: inner ∧
    (inner.getLast? ≠ some ')' ∨ ∃ argument, Blanks argument ∧ inner = argument ++ [')'])

/-- What the clause says after its first WHERE, without the blanks around it. -/
def Query.Conditional (clause condition : List Char) : Prop :=
  ∃ before after, FirstWordBetween "WHERE".toList before after clause ∧ condition = trim after

/-- A quote stands at an end of the text, but not one at each end. -/
def Literal.HalfQuoted (text : List Char) : Prop :=
  (text.head? = some '\'' ∨ text.getLast? = some '\'') ∧
    ¬(2 ≤ byteSize text ∧ text.head? = some '\'' ∧ text.getLast? = some '\'')

/-- Why a statement is no query. -/
def Query.Rejected (statement : List Char) : Rejection → Prop
  | .notSelect => ¬∃ body, Selects statement body
  | .noFrom => (∃ body, Selects statement body) ∧ ¬Occurs "FROM".toList statement
  | .invalidAggregate expression =>
      ∃ selection clause, Parts statement selection clause ∧ Selection.BrokenCount selection ∧
        expression = String.ofList selection
  | .noComparison =>
      ∃ selection clause condition, Parts statement selection clause ∧
        ¬Selection.BrokenCount selection ∧ Conditional clause condition ∧ condition ≠ [] ∧
        ∀ c ∈ condition, c ≠ '=' ∧ c ≠ '<' ∧ c ≠ '>'
  | .unterminatedString literal =>
      ∃ selection clause condition left comparison right, Parts statement selection clause ∧
        ¬Selection.BrokenCount selection ∧ Conditional clause condition ∧
        Comparison.Splits condition left comparison right ∧ Literal.HalfQuoted (trim right) ∧
        literal = String.ofList (trim right)

/-- A statement with both its keywords, no broken count, and a literal with no quote left open if
    it states a condition at all. -/
def Query.Accepted (statement : List Char) : Prop :=
  ∃ selection clause, Parts statement selection clause ∧ ¬Selection.BrokenCount selection ∧
    ∀ condition, Conditional clause condition → condition ≠ [] →
      ∃ left comparison right, Comparison.Splits condition left comparison right ∧
        ¬Literal.HalfQuoted (trim right)

namespace Query

variable {text statement selection clause condition : List Char}

theorem afterKeyword?_select_eq_some_iff {body : List Char} :
    afterKeyword? "SELECT".toList statement = some body ↔ Selects statement body := by
  rw [afterKeyword?_eq_some_iff]
  exact exists_congr fun select => And.comm

theorem recognizeChars_of_not_selects (h : ¬∃ body, Selects (TableQuery.statement text) body) :
    recognizeChars text = .error .notSelect := by
  have none : afterKeyword? "SELECT".toList (TableQuery.statement text) = none := by
    rw [Option.eq_none_iff_forall_ne_some]
    exact fun body found => h ⟨body, afterKeyword?_select_eq_some_iff.mp found⟩
  rw [recognizeChars, none]

theorem toLower_ne_of_spells_select {select : List Char} (spells : Spells "SELECT".toList select) :
    ∀ c ∈ select, c.toLower ≠ 'F'.toLower := by
  intro c member same
  have lower : 'F'.toLower ∈ "SELECT".toList.map Char.toLower := by
    rw [← spells, ← same]
    exact List.mem_map_of_mem member
  exact absurd lower (by decide)

/-- FROM occurs in a statement where it occurs after SELECT. -/
theorem occursBetween_from_iff {select body before after : List Char}
    (spells : Spells "SELECT".toList select) :
    OccursBetween "FROM".toList before after (select ++ body) ↔
      ∃ rest, before = select ++ rest ∧ OccursBetween "FROM".toList rest after body := by
  constructor
  · exact fun h => h.exists_before_eq_append (toLower_ne_of_spells_select spells)
  · rintro ⟨rest, rfl, between⟩
    simpa using between.extend select []

theorem recognizeChars_of_not_occurs_from {body : List Char}
    (selects : Selects (TableQuery.statement text) body)
    (absent : ¬Occurs "FROM".toList (TableQuery.statement text)) :
    recognizeChars text = .error .noFrom := by
  have start := afterKeyword?_select_eq_some_iff.mpr selects
  obtain ⟨select, spells, eq⟩ := selects
  have none : cutAtKeyword? "FROM".toList body = none := by
    rw [cutAtKeyword?_eq_none_iff letters_from]
    rintro ⟨before, after, between⟩
    apply absent
    rw [eq]
    exact ⟨_, _, (occursBetween_from_iff spells).mpr ⟨before, rfl, between⟩⟩
  rw [recognizeChars, start]
  simp only [none]

theorem recognizeChars_of_parts (parts : Parts (TableQuery.statement text) selection clause) :
    recognizeChars text = do
      let chosen ← Selection.recognize selection
      let condition ← (splitCondition clause).2.mapM Condition.recognize
      return ⟨chosen, String.ofList (splitCondition clause).1, condition⟩ := by
  obtain ⟨select, between, after, spells, ⟨occurs, earliest⟩, rfl, rfl⟩ := parts
  obtain ⟨body, eq⟩ : ∃ body, TableQuery.statement text = select ++ body := by
    obtain ⟨spelling, eq, -⟩ := occurs
    exact ⟨between ++ spelling ++ after, by simp [eq]⟩
  have start := afterKeyword?_select_eq_some_iff.mpr ⟨select, spells, eq⟩
  rw [eq] at occurs earliest
  have cut : cutAtKeyword? "FROM".toList body = some (between, after) := by
    rw [cutAtKeyword?_eq_some_iff letters_from]
    constructor
    · obtain ⟨rest, same, inner⟩ := (occursBetween_from_iff spells).mp occurs
      rwa [List.append_cancel_left same]
    · intro left right other
      have later := earliest _ right ((occursBetween_from_iff spells).mpr ⟨left, rfl, other⟩)
      simpa using later
  rw [recognizeChars, start]
  simp only [cut]

theorem exists_parts {body : List Char} (selects : Selects statement body)
    (occurs : Occurs "FROM".toList statement) :
    ∃ selection clause, Parts statement selection clause := by
  obtain ⟨select, spells, rfl⟩ := selects
  obtain ⟨before, after, first⟩ := exists_firstBetween letters_from occurs
  obtain ⟨between, rfl, -⟩ := (occursBetween_from_iff spells).mp first.1
  exact ⟨_, _, select, between, after, spells, first, rfl, rfl⟩

theorem splitCondition_of_conditional (h : Conditional clause condition)
    (present : condition ≠ []) : (splitCondition clause).2 = some condition := by
  obtain ⟨before, after, first, rfl⟩ := h
  rw [splitCondition, (cutAtWord?_eq_some_iff letters_where).mpr first]
  simp [present]

theorem splitCondition_of_forall (h : ∀ condition, Conditional clause condition → condition = []) :
    (splitCondition clause).2 = none := by
  cases cut : cutAtWord? "WHERE".toList clause with
  | none => rw [splitCondition, cut]
  | some parts =>
      have first := (cutAtWord?_eq_some_iff letters_where).mp cut
      have empty := h (trim parts.2) ⟨parts.1, parts.2, first, rfl⟩
      rw [splitCondition, cut]
      simp [empty]

end Query

namespace Literal

variable {text : List Char}

theorem two_le_byteSize_iff (first : text.head? = some '\'') :
    2 ≤ byteSize text ↔ 2 ≤ text.length := by
  cases text with
  | nil => cases first
  | cons c rest =>
      obtain rfl : c = '\'' := by simpa using first
      have quote : '\''.utf8Size = 1 := by decide
      cases rest with
      | nil => simp [quote]
      | cons d rest =>
          have filled := d.utf8Size_pos
          simp only [byteSize_cons, quote, List.length_cons]
          omega

theorem read_of_halfQuoted (h : HalfQuoted (trim text)) :
    read text = .error (.unterminatedString (String.ofList (trim text))) := by
  obtain ⟨quoted, half⟩ := h
  have unclosed : ¬((trim text).head? = some '\'' ∧ (trim text).getLast? = some '\'' ∧
      2 ≤ (trim text).length) := by
    intro closed
    exact half ⟨(two_le_byteSize_iff closed.1).mpr closed.2.2, closed.1, closed.2.1⟩
  simp_all [read]

theorem exists_quoted (long : 2 ≤ byteSize text) (opens : text.head? = some '\'')
    (closes : text.getLast? = some '\'') : ∃ content, text = '\'' :: (content ++ ['\'']) := by
  obtain ⟨rest, rfl⟩ := List.head?_eq_some_iff.mp opens
  have filled : rest ≠ [] := by
    rintro rfl
    exact absurd ((two_le_byteSize_iff opens).mp long) (by simp)
  rw [List.getLast?_cons_of_ne_nil filled] at closes
  obtain ⟨content, rfl⟩ := List.getLast?_eq_some_iff.mp closes
  exact ⟨content, rfl⟩

theorem exists_quoted_of_not_halfQuoted
    (quote : text.head? = some '\'' ∨ text.getLast? = some '\'') (whole : ¬HalfQuoted text) :
    ∃ content, text = '\'' :: (content ++ ['\'']) := by
  have closed : 2 ≤ byteSize text ∧ text.head? = some '\'' ∧ text.getLast? = some '\'' :=
    Classical.not_not.mp fun unclosed => whole ⟨quote, unclosed⟩
  exact exists_quoted closed.1 closed.2.1 closed.2.2

theorem exists_read_of_not_halfQuoted (h : ¬HalfQuoted (trim text)) :
    ∃ literal, read text = .ok literal := by
  by_cases quote : (trim text).head? = some '\'' ∨ (trim text).getLast? = some '\''
  · obtain ⟨content, form⟩ := exists_quoted_of_not_halfQuoted quote h
    exact ⟨_, read_of_quoted form⟩
  · rw [not_or] at quote
    exact ⟨_, read_of_unquoted quote.1 quote.2⟩

end Literal

namespace Condition

variable {text left right : List Char} {comparison : Comparison}

theorem recognize_of_clear (clear : ∀ c ∈ text, c ≠ '=' ∧ c ≠ '<' ∧ c ≠ '>') :
    recognize text = .error .noComparison := by
  rw [recognize, Comparison.find?_eq_none_iff.mpr clear]

theorem recognize_of_splits (splits : Comparison.Splits text left comparison right) :
    recognize text = do
      let literal ← Literal.read right
      return ⟨String.ofList (trim left), comparison, literal⟩ := by
  rw [recognize, Comparison.find?_eq_some_iff.mpr splits]

end Condition

namespace Selection

variable {selection : List Char}

theorem brokenCount_iff :
    BrokenCount selection ↔
      ∃ inner, (afterKeyword? "COUNT".toList selection).map trimStart = some ('(' :: inner) ∧
        ¬(inner.getLast? = some ')' ∧ trim inner.dropLast ≠ []) := by
  have fails : ∀ inner : List Char, ¬(inner.getLast? = some ')' ∧ trim inner.dropLast ≠ []) ↔
      (inner.getLast? ≠ some ')' ∨ ∃ argument, Blanks argument ∧ inner = argument ++ [')']) := by
    intro inner
    by_cases last : inner.getLast? = some ')'
    · obtain ⟨argument, rfl⟩ := List.getLast?_eq_some_iff.mp last
      simp [trim_eq_nil_iff]
    · simp [last]
  simp only [fails, afterCount_eq_some_iff]
  constructor
  · rintro ⟨keyword, gap, inner, spells, blank, eq, broken⟩
    exact ⟨inner, ⟨keyword, gap, spells, blank, eq⟩, broken⟩
  · rintro ⟨inner, ⟨keyword, gap, spells, blank, eq⟩, broken⟩
    exact ⟨keyword, gap, inner, spells, blank, eq, broken⟩

theorem recognize_of_brokenCount (h : BrokenCount selection) :
    recognize selection = .error (.invalidAggregate (String.ofList selection)) := by
  obtain ⟨inner, opened, broken⟩ := brokenCount_iff.mp h
  rw [recognize, Aggregate.recognize?, opened]
  simp only [broken, if_false]
  rfl

theorem exists_recognize_of_not_brokenCount (h : ¬BrokenCount selection) :
    ∃ chosen, recognize selection = .ok chosen := by
  obtain ⟨aggregate?, counted⟩ :
      ∃ aggregate?, Aggregate.recognize? selection = .ok aggregate? := by
    by_cases opens : OpensCount selection
    · obtain ⟨inner, opened⟩ := opensCount_iff.mp opens
      have counts : inner.getLast? = some ')' ∧ trim inner.dropLast ≠ [] :=
        Classical.not_not.mp fun broken => h (brokenCount_iff.mpr ⟨inner, opened, broken⟩)
      rw [Aggregate.recognize?, opened]
      exact ⟨_, if_pos counts⟩
    · exact ⟨none, Aggregate.recognize?_eq_none_iff.mpr opens⟩
  rw [recognize, counted, Result.ok_bind]
  cases aggregate? with
  | some aggregate => exact ⟨_, rfl⟩
  | none =>
      by_cases all : selection = ['*']
      · exact ⟨_, if_pos all⟩
      · exact ⟨_, if_neg all⟩

end Selection

namespace Query

variable {text statement : List Char} {rejection : Rejection}

theorem recognizeChars_of_rejected (h : Rejected (TableQuery.statement text) rejection) :
    recognizeChars text = .error rejection := by
  cases rejection with
  | notSelect => exact recognizeChars_of_not_selects h
  | noFrom =>
      obtain ⟨⟨body, selects⟩, absent⟩ := h
      exact recognizeChars_of_not_occurs_from selects absent
  | invalidAggregate expression =>
      obtain ⟨selection, clause, parts, broken, rfl⟩ := h
      rw [recognizeChars_of_parts parts, Selection.recognize_of_brokenCount broken,
        Result.error_bind]
  | noComparison =>
      obtain ⟨selection, clause, condition, parts, whole, stated, present, clear⟩ := h
      obtain ⟨chosen, recognized⟩ := Selection.exists_recognize_of_not_brokenCount whole
      rw [recognizeChars_of_parts parts, recognized, splitCondition_of_conditional stated present]
      simp [Condition.recognize_of_clear clear]
  | unterminatedString literal =>
      obtain ⟨selection, clause, condition, left, comparison, right, parts, whole, stated, splits,
        half, rfl⟩ := h
      obtain ⟨chosen, recognized⟩ := Selection.exists_recognize_of_not_brokenCount whole
      rw [recognizeChars_of_parts parts, recognized,
        splitCondition_of_conditional stated splits.ne_nil]
      simp [Condition.recognize_of_splits splits, Literal.read_of_halfQuoted half]

theorem exists_recognizeChars_of_accepted (h : Accepted (TableQuery.statement text)) :
    ∃ query, recognizeChars text = .ok query := by
  obtain ⟨selection, clause, parts, whole, closed⟩ := h
  obtain ⟨chosen, recognized⟩ := Selection.exists_recognize_of_not_brokenCount whole
  rw [recognizeChars_of_parts parts, recognized, Result.ok_bind]
  by_cases stated : ∃ condition, Conditional clause condition ∧ condition ≠ []
  · obtain ⟨condition, stated, present⟩ := stated
    obtain ⟨left, comparison, right, splits, unbroken⟩ := closed condition stated present
    obtain ⟨literal, read⟩ := Literal.exists_read_of_not_halfQuoted unbroken
    rw [splitCondition_of_conditional stated present]
    simp [Condition.recognize_of_splits splits, read]
  · have nothing : ∀ condition, Conditional clause condition → condition = [] :=
      fun condition stands =>
        Classical.not_not.mp fun present => stated ⟨condition, stands, present⟩
    rw [splitCondition_of_forall nothing]
    simp

theorem rejected_or_accepted (statement : List Char) :
    (∃ rejection, Rejected statement rejection) ∨ Accepted statement := by
  by_cases selects : ∃ body, Selects statement body
  case neg => exact .inl ⟨.notSelect, selects⟩
  by_cases occurs : Occurs "FROM".toList statement
  case neg => exact .inl ⟨.noFrom, selects, occurs⟩
  obtain ⟨body, selects⟩ := selects
  obtain ⟨selection, clause, parts⟩ := exists_parts selects occurs
  by_cases broken : Selection.BrokenCount selection
  case pos => exact .inl ⟨.invalidAggregate _, selection, clause, parts, broken, rfl⟩
  by_cases stated : ∃ condition, Conditional clause condition ∧ condition ≠ []
  case neg =>
    refine .inr ⟨selection, clause, parts, broken, ?_⟩
    exact fun condition stands present => absurd ⟨condition, stands, present⟩ stated
  obtain ⟨condition, stated, present⟩ := stated
  cases found : Comparison.find? condition with
  | none =>
      have clear := Comparison.find?_eq_none_iff.mp found
      exact .inl ⟨.noComparison, selection, clause, condition, parts, broken, stated, present,
        clear⟩
  | some split =>
      obtain ⟨left, comparison, right⟩ := split
      have splits := Comparison.find?_eq_some_iff.mp found
      by_cases half : Literal.HalfQuoted (trim right)
      case pos =>
        exact .inl ⟨.unterminatedString _, selection, clause, condition, left, comparison, right,
          parts, broken, stated, splits, half, rfl⟩
      refine .inr ⟨selection, clause, parts, broken, ?_⟩
      intro other stands otherPresent
      -- The clause has one condition only.
      have same := splitCondition_of_conditional stands otherPresent
      rw [splitCondition_of_conditional stated present] at same
      exact ⟨left, comparison, right, Option.some.inj same ▸ splits, half⟩

end Query

end TableQuery
