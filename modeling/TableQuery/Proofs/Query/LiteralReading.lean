import Mathlib.Data.List.TakeWhile
import TableQuery.Proofs.Query.Outcome

/-! # What a literal is read as

The form of a text decides its kind. Quotes at its two ends make it a string of what is between
them. Without them a sign and digits are a whole number, which is an integer if it fits into 64
bits and a double otherwise; what else a double is written as is a double, and all the rest is a
string of itself. Underscores may part the digits of a number, one at a time; anywhere else they
make the text a string.
-/

namespace TableQuery

open Text Number

/-- Every underscore stands directly between two ASCII digits. -/
def SeparatesDigits (text : List Char) : Prop :=
  ∀ before after, text = before ++ '_' :: after →
    before.getLast?.any Char.isDigit ∧ after.head?.any Char.isDigit

section Separators

variable {text : List Char}

theorem forall_cut_cons_iff {α : Type} {P : List α → List α → Prop} {x y : α} {rest : List α} :
    (∀ before after, x :: rest = before ++ y :: after → P before after) ↔
      (x = y → P [] rest) ∧
        ∀ before after, rest = before ++ y :: after → P (x :: before) after := by
  constructor
  · intro all
    refine ⟨fun here => all [] rest (by rw [here]; rfl), fun before after later => ?_⟩
    exact all (x :: before) after (by rw [later]; rfl)
  · rintro ⟨first, later⟩ before after cut
    cases before with
    | nil =>
        obtain ⟨here, rfl⟩ := List.cons.inj cut
        exact first here
    | cons z before =>
        obtain ⟨rfl, inRest⟩ := List.cons.inj cut
        exact later before after inRest

theorem separatesDigits_iff_after (passed text : List Char) :
    separatesDigits (passed.getLast?.any Char.isDigit) text ↔
      ∀ before after, text = before ++ '_' :: after →
        (passed ++ before).getLast?.any Char.isDigit ∧ after.head?.any Char.isDigit := by
  induction text generalizing passed with
  | nil => simp [separatesDigits]
  | cons c rest ih =>
      have later := ih (passed ++ [c])
      simp only [List.getLast?_concat, Option.any_some, List.append_assoc,
        List.singleton_append] at later
      rw [forall_cut_cons_iff, ← later, separatesDigits, List.append_nil]
      by_cases underscore : c = '_'
      · have noDigit : '_'.isDigit = false := by decide
        simp [underscore, noDigit]
      · simp [underscore]

theorem separatesDigits_iff : separatesDigits false text ↔ SeparatesDigits text :=
  separatesDigits_iff_after [] text

theorem SeparatesDigits.head?_ne (h : SeparatesDigits text) : text.head? ≠ some '_' := by
  intro first
  obtain ⟨rest, rfl⟩ := List.head?_eq_some_iff.mp first
  simpa using (h [] rest rfl).1

theorem SeparatesDigits.getLast?_ne (h : SeparatesDigits text) : text.getLast? ≠ some '_' := by
  intro last
  obtain ⟨rest, rfl⟩ := List.getLast?_eq_some_iff.mp last
  simpa using (h rest [] rfl).2

theorem SeparatesDigits.not_doubled (h : SeparatesDigits text) : ¬['_', '_'] <:+: text := by
  rintro ⟨before, after, rfl⟩
  have adjacent := (h before ('_' :: after) (by simp)).2
  exact Bool.false_ne_true adjacent

theorem dropSeparators?_eq_some_iff {digits : List Char} :
    dropSeparators? text = some digits ↔
      SeparatesDigits text ∧ text.filter (· != '_') = digits := by
  rw [dropSeparators?, ← separatesDigits_iff]
  split <;> simp_all

end Separators

namespace Number

/-- What may stand before the digits of a number. -/
inductive Sign : (negative : Bool) → (sign : List Char) → Prop where
  | none : Sign false []
  | plus : Sign false ['+']
  | minus : Sign true ['-']

/-- One or more ASCII digits, with underscores directly between some of them. -/
structure SeparatedDigits (written : List Char) : Prop where
  nonempty : written ≠ []
  digits : ∀ c ∈ written, c.isDigit ∨ c = '_'
  separated : SeparatesDigits written

def signedValue (negative : Bool) (digits : List Char) : Int :=
  let size : Int := Nat.ofDigitChars 10 digits 0
  if negative then -size else size

/-- A text that writes a whole number of any size. The underscores do not count. -/
inductive WholeNumeral : (text : List Char) → (value : Int) → Prop where
  | mk {negative : Bool} {sign written : List Char} (signed : Sign negative sign)
      (digits : SeparatedDigits written) :
      WholeNumeral (sign ++ written) (signedValue negative (written.filter (· != '_')))

section Signs

variable {text digits : List Char} {negative : Bool} {sign written : List Char}

theorem exists_sign_takeSign (text : List Char) :
    ∃ sign, Sign (takeSign text).1 sign ∧ text = sign ++ (takeSign text).2 := by
  unfold takeSign
  split
  next => exact ⟨_, .minus, rfl⟩
  next => exact ⟨_, .plus, rfl⟩
  next => exact ⟨_, .none, rfl⟩

theorem Sign.takeSign_append (signed : Sign negative sign)
    (digit : ∀ c ∈ text.head?, c.isDigit) : takeSign (sign ++ text) = (negative, text) := by
  cases signed with
  | none => exact takeSign_of_isDigit digit
  | plus | minus => rfl

theorem Sign.filter_append (signed : Sign negative sign) (text : List Char) :
    (sign ++ text).filter (· != '_') = sign ++ text.filter (· != '_') := by
  cases signed with
  | none | plus | minus => rfl

theorem Sign.separatesDigits_append_iff (signed : Sign negative sign) :
    SeparatesDigits (sign ++ text) ↔ SeparatesDigits text := by
  cases signed with
  | none => rfl
  | plus | minus =>
      rw [← separatesDigits_iff, ← separatesDigits_iff]
      rfl

theorem isDigits_iff : isDigits digits ↔ digits ≠ [] ∧ ∀ c ∈ digits, c.isDigit := by
  simp [isDigits]

theorem isDigit_head?_of_isDigits (h : isDigits digits) : ∀ c ∈ digits.head?, c.isDigit :=
  fun c member => (isDigits_iff.mp h).2 c (List.mem_of_mem_head? member)

theorem isDigits_filter_iff (separated : SeparatesDigits written) :
    isDigits (written.filter (· != '_')) ↔ SeparatedDigits written := by
  rw [isDigits_iff]
  constructor
  · rintro ⟨nonempty, digits⟩
    refine ⟨?_, fun c member => ?_, separated⟩
    · rintro rfl
      exact nonempty rfl
    · by_cases underscore : c = '_'
      · exact .inr underscore
      · exact .inl (digits c (List.mem_filter.mpr ⟨member, by simpa using underscore⟩))
  · intro h
    constructor
    · cases written with
      | nil => exact absurd rfl h.nonempty
      | cons c rest =>
          have kept : c ≠ '_' := fun same => separated.head?_ne (congrArg some same)
          simp [kept]
    · intro c member
      obtain ⟨inside, kept⟩ := List.mem_filter.mp member
      exact (h.digits c inside).resolve_right (by simpa using kept)

theorem Sign.exists_of_filter_eq (signed : Sign negative sign) (separated : SeparatesDigits text)
    (left : text.filter (· != '_') = sign ++ digits) :
    ∃ written, text = sign ++ written ∧ written.filter (· != '_') = digits := by
  cases signed with
  | none => exact ⟨text, rfl, left⟩
  | plus | minus =>
      obtain ⟨skipped, written, eq, underscores, -, rest⟩ := List.filter_eq_cons_iff.mp left
      cases skipped with
      | nil => exact ⟨written, eq, rest⟩
      | cons c skipped =>
          -- An underscore before the sign would have no digit before it.
          have underscore : c = '_' := by simpa using underscores c List.mem_cons_self
          exact absurd (by rw [eq, underscore]; rfl) separated.head?_ne

theorem readInt?_eq_some_iff {value : Int} :
    readInt? text = some value ↔
      ∃ negative sign digits, Sign negative sign ∧ isDigits digits ∧ text = sign ++ digits ∧
        signedValue negative digits = value := by
  constructor
  · intro read
    obtain ⟨sign, signed, eq⟩ := exists_sign_takeSign text
    simp only [readInt?, readSigned?, digitsValue_eq, Option.ite_none_right_eq_some,
      Option.some.injEq] at read
    exact ⟨_, sign, _, signed, read.1, eq, read.2⟩
  · rintro ⟨negative, sign, digits, signed, are, rfl, rfl⟩
    simp only [readInt?, readSigned?, digitsValue_eq,
      signed.takeSign_append (isDigit_head?_of_isDigits are), are, if_true, signedValue]

end Signs

/-- A text is a whole number where underscores only separate digits and the digits with their sign
    are read as one. -/
theorem wholeNumeral_iff {text : List Char} {value : Int} :
    WholeNumeral text value ↔
      SeparatesDigits text ∧ readInt? (text.filter (· != '_')) = some value := by
  rw [readInt?_eq_some_iff]
  constructor
  · rintro ⟨signed, digits⟩
    refine ⟨signed.separatesDigits_append_iff.mpr digits.separated, _, _, _, signed, ?_,
      signed.filter_append _, rfl⟩
    exact (isDigits_filter_iff digits.separated).mpr digits
  · rintro ⟨separated, negative, sign, digits, signed, are, left, rfl⟩
    obtain ⟨written, rfl, rfl⟩ := signed.exists_of_filter_eq separated left
    have separated := signed.separatesDigits_append_iff.mp separated
    exact .mk signed ((isDigits_filter_iff separated).mp are)

theorem readInt64?_eq_some_iff {text : List Char} {value : Int64} :
    readInt64? text = some value ↔ readInt? text = some value.toInt := by
  rw [readInt64?, Int64.toInt_minValue, Int64.toInt_maxValue]
  constructor
  · intro read
    obtain ⟨whole, same, fits⟩ := Option.bind_eq_some_iff.mp read
    rw [Option.ite_none_right_eq_some, Option.some.injEq] at fits
    obtain ⟨⟨low, high⟩, rfl⟩ := fits
    rw [Int64.toInt_ofInt_of_le low (by omega), same]
  · intro read
    have low := value.le_toInt
    have high := value.toInt_lt
    have fits : -2 ^ 63 ≤ value.toInt ∧ value.toInt ≤ 2 ^ 63 - 1 := by omega
    rw [read, Option.bind_eq_bind, Option.bind_some, if_pos fits, Int64.ofInt_toInt]

theorem exists_readDecimal?_of_isDigits {digits : List Char} (are : isDigits digits) :
    ∃ decimal, readDecimal? digits = some decimal := by
  obtain ⟨nonempty, all⟩ := isDigits_iff.mp are
  have whole : digits.takeWhile Char.isDigit = digits := List.takeWhile_eq_self_iff.mpr all
  have rest : digits.dropWhile Char.isDigit = [] := List.dropWhile_eq_nil_iff.mpr all
  have filled : digits.isEmpty = false := by simpa using nonempty
  simp [readDecimal?, whole, rest, filled, readExponent?]

theorem exists_readFloat?_of_readInt? {text : List Char} {value : Int}
    (read : readInt? text = some value) : ∃ number, readFloat? text = some number := by
  obtain ⟨negative, sign, digits, signed, are, rfl, -⟩ := readInt?_eq_some_iff.mp read
  obtain ⟨decimal, decimalRead⟩ := exists_readDecimal?_of_isDigits are
  unfold readFloat?
  dsimp only
  rw [signed.takeSign_append (isDigit_head?_of_isDigits are), decimalRead]
  split
  · exact ⟨_, rfl⟩
  · split
    · exact ⟨_, rfl⟩
    · exact ⟨_, rfl⟩

end Number

namespace Literal

variable {text : List Char}

theorem readNumber?_of_not_separatesDigits (mixed : ¬SeparatesDigits text) :
    readNumber? text = none := by
  have none : dropSeparators? text = none := by
    rw [Option.eq_none_iff_forall_ne_some]
    exact fun digits dropped => mixed (dropSeparators?_eq_some_iff.mp dropped).1
  rw [readNumber?, none]
  rfl

theorem readNumber?_of_integer {value : Int64} (whole : WholeNumeral text value.toInt) :
    readNumber? text = some (.integer value) := by
  obtain ⟨separated, read⟩ := wholeNumeral_iff.mp whole
  rw [readNumber?, dropSeparators?_eq_some_iff.mpr ⟨separated, rfl⟩, Option.bind_eq_bind,
    Option.bind_some, readInt64?_eq_some_iff.mpr read]

theorem readNumber?_of_no_integer (separated : SeparatesDigits text)
    (none : ∀ value : Int64, ¬WholeNumeral text value.toInt) :
    readNumber? text = (readFloat? (text.filter (· != '_'))).map .float := by
  have unread : readInt64? (text.filter (· != '_')) = .none := by
    rw [Option.eq_none_iff_forall_ne_some]
    intro value read
    exact none value (wholeNumeral_iff.mpr ⟨separated, readInt64?_eq_some_iff.mp read⟩)
  rw [readNumber?, dropSeparators?_eq_some_iff.mpr ⟨separated, rfl⟩, Option.bind_eq_bind,
    Option.bind_some, unread]

theorem readNumber?_eq_some_integer_iff {value : Int64} :
    readNumber? text = some (.integer value) ↔ WholeNumeral text value.toInt := by
  refine ⟨fun read => ?_, readNumber?_of_integer⟩
  by_cases separated : SeparatesDigits text
  case neg => simp [readNumber?_of_not_separatesDigits separated] at read
  by_cases whole : ∃ other : Int64, WholeNumeral text other.toInt
  · obtain ⟨other, whole⟩ := whole
    rw [readNumber?_of_integer whole] at read
    cases read
    exact whole
  · rw [readNumber?_of_no_integer separated (not_exists.mp whole)] at read
    simp at read

theorem readNumber?_eq_some_float_iff {number : Float} :
    readNumber? text = some (.float number) ↔
      (∀ value : Int64, ¬WholeNumeral text value.toInt) ∧ SeparatesDigits text ∧
        readFloat? (text.filter (· != '_')) = some number := by
  constructor
  · intro read
    have none : ∀ value : Int64, ¬WholeNumeral text value.toInt := by
      intro value whole
      rw [readNumber?_of_integer whole] at read
      cases read
    by_cases separated : SeparatesDigits text
    case neg => simp [readNumber?_of_not_separatesDigits separated] at read
    rw [readNumber?_of_no_integer separated none] at read
    exact ⟨none, separated, by simpa using read⟩
  · rintro ⟨none, separated, read⟩
    rw [readNumber?_of_no_integer separated none, read]
    rfl

theorem exists_string_of_quote {literal : Literal}
    (quote : (trim text).head? = some '\'' ∨ (trim text).getLast? = some '\'')
    (read : Literal.read text = .ok literal) : ∃ content, literal = .string content := by
  by_cases half : HalfQuoted (trim text)
  · rw [read_of_halfQuoted half] at read
    cases read
  · obtain ⟨content, form⟩ := exists_quoted_of_not_halfQuoted quote half
    rw [read_of_quoted form] at read
    cases read
    exact ⟨_, rfl⟩

theorem exists_string_of_not_separatesDigits {literal : Literal}
    (mixed : ¬SeparatesDigits (trim text)) (read : Literal.read text = .ok literal) :
    ∃ content, literal = .string content := by
  by_cases quote : (trim text).head? = some '\'' ∨ (trim text).getLast? = some '\''
  · exact exists_string_of_quote quote read
  · rw [not_or] at quote
    rw [read_of_unquoted quote.1 quote.2, readNumber?_of_not_separatesDigits mixed] at read
    cases read
    exact ⟨_, rfl⟩

section Unquoted

variable (opens : (trim text).head? ≠ some '\'') (closes : (trim text).getLast? ≠ some '\'')

include opens closes

theorem read_eq_ok_iff_of_numeric {literal : Literal} (numeric : literal.isNumeric) :
    read text = .ok literal ↔ readNumber? (trim text) = some literal := by
  rw [read_of_unquoted opens closes]
  cases readNumber? (trim text) with
  | none =>
      simp only [Option.getD_none, Except.ok.injEq, reduceCtorEq, iff_false]
      rintro rfl
      cases numeric
  | some other => simp

theorem exists_read_float_of_out_of_range {value : Int} (whole : WholeNumeral (trim text) value)
    (out : value < Int64.minValue.toInt ∨ Int64.maxValue.toInt < value) :
    ∃ number, read text = .ok (.float number) := by
  obtain ⟨separated, wholeRead⟩ := wholeNumeral_iff.mp whole
  have none : ∀ other : Int64, ¬WholeNumeral (trim text) other.toInt := by
    intro other fits
    have same := Option.some.inj (wholeRead.symm.trans (wholeNumeral_iff.mp fits).2)
    have low := other.minValue_le_toInt
    have high := other.toInt_le
    omega
  obtain ⟨number, floatRead⟩ := exists_readFloat?_of_readInt? wholeRead
  refine ⟨number, (read_eq_ok_iff_of_numeric opens closes rfl).mpr ?_⟩
  exact readNumber?_eq_some_float_iff.mpr ⟨none, separated, floatRead⟩

theorem read_of_no_number (none : ∀ value : Int64, ¬WholeNumeral (trim text) value.toInt)
    (unread : SeparatesDigits (trim text) → readFloat? ((trim text).filter (· != '_')) = .none) :
    read text = .ok (.string (String.ofList (trim text))) := by
  have unnumbered : readNumber? (trim text) = .none := by
    by_cases separated : SeparatesDigits (trim text)
    · rw [readNumber?_of_no_integer separated none, unread separated]
      rfl
    · exact readNumber?_of_not_separatesDigits separated
  rw [read_of_unquoted opens closes, unnumbered]
  rfl

end Unquoted

/-- A text of two bytes or more between quotes is the string between them, and a quote at one end
    alone is a fault. Without quotes at its ends a text is an integer if it writes a whole number of
    64 bits with sign, and of that value; any other whole number is a double. What is no such
    integer is a double where underscores stand directly between digits only and the rest is read
    as one, and a string of itself otherwise. A text with a quote at an end, or with an underscore
    elsewhere than directly between two digits, is never a number. -/
theorem read_by_form (text : List Char) :
    (2 ≤ byteSize (trim text) → (trim text).head? = some '\'' →
      (trim text).getLast? = some '\'' → ∃ content, trim text = '\'' :: (content ++ ['\'']) ∧
        read text = .ok (.string (String.ofList content))) ∧
    (HalfQuoted (trim text) →
      read text = .error (.unterminatedString (String.ofList (trim text)))) ∧
    ((trim text).head? ≠ some '\'' → (trim text).getLast? ≠ some '\'' →
      (∀ value : Int64,
        read text = .ok (.integer value) ↔ WholeNumeral (trim text) value.toInt) ∧
      (∀ value, WholeNumeral (trim text) value →
        value < Int64.minValue.toInt ∨ Int64.maxValue.toInt < value →
        ∃ number, read text = .ok (.float number)) ∧
      (∀ number, read text = .ok (.float number) ↔
        (∀ value : Int64, ¬WholeNumeral (trim text) value.toInt) ∧
          SeparatesDigits (trim text) ∧
          readFloat? ((trim text).filter (· != '_')) = some number) ∧
      ((∀ value : Int64, ¬WholeNumeral (trim text) value.toInt) →
        (SeparatesDigits (trim text) → readFloat? ((trim text).filter (· != '_')) = none) →
        read text = .ok (.string (String.ofList (trim text))))) ∧
    ((trim text).head? = some '\'' ∨ (trim text).getLast? = some '\'' ∨
        (trim text).head? = some '_' ∨ (trim text).getLast? = some '_' ∨
        ['_', '_'] <:+: trim text ∨ ¬SeparatesDigits (trim text) →
      ∀ literal, read text = .ok literal → literal.isNumeric = false) := by
  refine ⟨fun long opens closes => ?_, read_of_halfQuoted, fun opens closes => ⟨?_, ?_, ?_, ?_⟩, ?_⟩
  · obtain ⟨content, form⟩ := exists_quoted long opens closes
    exact ⟨content, form, read_of_quoted form⟩
  · intro value
    rw [read_eq_ok_iff_of_numeric opens closes rfl, readNumber?_eq_some_integer_iff]
  · exact fun value whole out => exists_read_float_of_out_of_range opens closes whole out
  · intro number
    rw [read_eq_ok_iff_of_numeric opens closes rfl, readNumber?_eq_some_float_iff]
  · exact read_of_no_number opens closes
  · intro form literal read
    obtain ⟨content, rfl⟩ : ∃ content, literal = .string content := by
      by_cases quote : (trim text).head? = some '\'' ∨ (trim text).getLast? = some '\''
      · exact exists_string_of_quote quote read
      · -- Each of the remaining forms has an underscore without a digit beside it.
        refine exists_string_of_not_separatesDigits (fun separated => ?_) read
        rcases form with opens | closes | leading | trailing | doubled | mixed
        · exact quote (.inl opens)
        · exact quote (.inr closes)
        · exact separated.head?_ne leading
        · exact separated.getLast?_ne trailing
        · exact separated.not_doubled doubled
        · exact mixed separated
    rfl

/-- The smallest integer, the first whole number that is too large for one, and digits that are
    parted twice or quoted. -/
theorem read_by_form_limits :
    read " -9_223_372_036_854_775_808".toList = .ok (.integer (-9223372036854775808)) ∧
    (∃ number, read "0009223372036854775808".toList = .ok (.float number)) ∧
    read "1__0".toList = .ok (.string "1__0") ∧
    (∃ content, trim "'1_0'".toList = '\'' :: (content ++ ['\'']) ∧
      read "'1_0'".toList = .ok (.string (String.ofList content))) := by
  have smallest : WholeNumeral "-9_223_372_036_854_775_808".toList (-9223372036854775808) :=
    wholeNumeral_iff.mpr ⟨separatesDigits_iff.mp rfl, rfl⟩
  have large : WholeNumeral "0009223372036854775808".toList 9223372036854775808 :=
    wholeNumeral_iff.mpr ⟨separatesDigits_iff.mp rfl, rfl⟩
  have parted : ¬SeparatesDigits "1__0".toList := by
    rw [← separatesDigits_iff]
    decide
  have whole : ∀ value : Int64, ¬WholeNumeral "1__0".toList value.toInt :=
    fun value numeral => parted (wholeNumeral_iff.mp numeral).1
  refine ⟨?_, ?_, ?_, ?_⟩
  · exact (((read_by_form _).2.2.1 (by decide) (by decide)).1 _).mpr smallest
  · exact ((read_by_form _).2.2.1 (by decide) (by decide)).2.1 _ large (.inr (by decide))
  · exact ((read_by_form _).2.2.1 (by decide) (by decide)).2.2.2 whole fun separated =>
      absurd separated parted
  · exact (read_by_form _).1 (by decide) (by decide) (by decide)

end Literal

end TableQuery
