import TableQuery.Json.Basic

/-! # Reading JSON

A value is read from the start of a text and the rest of the text is given back. After a break
there is no rest, so every array and object around it is broken as well.
-/

namespace TableQuery.Json

/-- The blanks of JSON, fewer than those of a query text. -/
def isBlank (c : Char) : Bool := c == ' ' || c == '\n' || c == '\t' || c == '\r'

def skipBlanks (text : List Char) : List Char := text.dropWhile isBlank

def hexDigit? (c : Char) : Option Nat :=
  if '0' ≤ c ∧ c ≤ '9' then some (c.toNat - '0'.toNat)
  else if 'a' ≤ c ∧ c ≤ 'f' then some (c.toNat - 'a'.toNat + 10)
  else if 'A' ≤ c ∧ c ≤ 'F' then some (c.toNat - 'A'.toNat + 10)
  else none

/-- The value of four hexadecimal digits. -/
def hexUnit? (a b c d : Char) : Option Nat := do
  return ((← hexDigit? a) * 16 + (← hexDigit? b)) * 256 + ((← hexDigit? c) * 16 + (← hexDigit? d))

/-- The character that a one-letter escape stands for. -/
def escaped? : Char → Option Char
  | '"' => some '"'
  | '\\' => some '\\'
  | '/' => some '/'
  | 'b' => some '\x08'
  | 'f' => some '\x0c'
  | 'n' => some '\n'
  | 'r' => some '\r'
  | 't' => some '\t'
  | _ => none

/-- What has been read of a string: its characters, last first, and the first half of a surrogate
    pair that waits for its second. -/
structure StringState where
  chars : List Char
  high : Option Nat
  /-- No half of a pair has been left alone. -/
  whole : Bool

namespace StringState

def start : StringState := ⟨[], none, true⟩

def put (s : StringState) (c : Char) : StringState :=
  ⟨c :: s.chars, none, s.whole && s.high.isNone⟩

/-- Takes in a sixteen-bit unit: a character, or half of one. -/
def putUnit (s : StringState) (unit : Nat) : StringState :=
  if 0xD800 ≤ unit ∧ unit < 0xDC00 then
    { s with high := some unit, whole := s.whole && s.high.isNone }
  else if 0xDC00 ≤ unit ∧ unit < 0xE000 then
    match s.high with
    | some high =>
        ⟨Char.ofNat (0x10000 + (high - 0xD800) * 0x400 + (unit - 0xDC00)) :: s.chars, none, s.whole⟩
    | none => { s with whole := false }
  else s.put (Char.ofNat unit)

/-- The text of the string, none with half of a pair left alone. -/
def text? (s : StringState) : Option String :=
  if s.whole && s.high.isNone then some (String.ofList s.chars.reverse) else none

end StringState

/-- Reads a string from after its opening quote. -/
def readString (s : StringState) : List Char → Option (Option String × List Char)
  | '"' :: rest => some (s.text?, rest)
  | '\\' :: 'u' :: a :: b :: c :: d :: rest =>
      match hexUnit? a b c d with
      | some unit => readString (s.putUnit unit) rest
      | none => none
  | '\\' :: letter :: rest =>
      match escaped? letter with
      | some c => readString (s.put c) rest
      | none => none
  | c :: rest => if c.toNat < 0x20 || c == '\\' then none else readString (s.put c) rest
  | [] => none

/-- Digits of which there has to be at least one, and the rest. -/
def readDigits? (text : List Char) : Option (List Char × List Char) :=
  let digits := text.takeWhile Char.isDigit
  if digits.isEmpty then none else some (digits, text.dropWhile Char.isDigit)

def readFraction? : List Char → Option (List Char × List Char)
  | '.' :: rest => readDigits? rest
  | rest => some ([], rest)

def readExponent? : List Char → Option (Option Int × List Char)
  | mark :: rest =>
      if mark == 'e' || mark == 'E' then do
        let (negative, rest) := Number.takeSign rest
        let (digits, rest) ← readDigits? rest
        let size : Int := Number.digitsValue digits
        return (some (if negative then -size else size), rest)
      else some (none, mark :: rest)
  | [] => some (none, [])

/-- Reads a number. A zero at its start is the whole part by itself. -/
def readNumber? (text : List Char) : Option (JsonNumber × List Char) := do
  let (negative, text) : Bool × List Char :=
    match text with
    | '-' :: rest => (true, rest)
    | _ => (false, text)
  let (whole, rest) ←
    match text with
    | '0' :: rest => some (['0'], rest)
    | _ => readDigits? text
  let (fraction, rest) ← readFraction? rest
  let (exponent, rest) ← readExponent? rest
  return (⟨negative, Number.digitsValue whole, fraction, exponent⟩, rest)

mutual

/-- Reads a value, with fuel for each value, item and member inside it. -/
def readValue : Nat → List Char → Json × List Char
  | 0, _ => (.broken, [])
  | fuel + 1, text =>
      match skipBlanks text with
      | 'n' :: 'u' :: 'l' :: 'l' :: rest => (.null, rest)
      | 't' :: 'r' :: 'u' :: 'e' :: rest => (.bool true, rest)
      | 'f' :: 'a' :: 'l' :: 's' :: 'e' :: rest => (.bool false, rest)
      | '"' :: rest =>
          match readString .start rest with
          | some (some text, rest) => (.string text, rest)
          | some (none, rest) => (.loneSurrogate, rest)
          | none => (.broken, [])
      | '[' :: rest =>
          match skipBlanks rest with
          | ']' :: rest => (.array [], rest)
          | rest =>
              let (items, rest) := readItems fuel rest
              (.array items, rest)
      | '\x7b' :: rest =>
          match skipBlanks rest with
          | '\x7d' :: rest => (.object [], rest)
          | rest =>
              let (members, rest) := readMembers fuel rest
              (.object members, rest)
      | text =>
          match readNumber? text with
          | some (value, rest) => (.number value, rest)
          | none => (.broken, [])

/-- Reads the items of an array up to its end. -/
def readItems : Nat → List Char → List Json × List Char
  | 0, _ => ([.broken], [])
  | fuel + 1, text =>
      let (item, rest) := readValue fuel text
      match skipBlanks rest with
      | ',' :: rest =>
          let (items, rest) := readItems fuel rest
          (item :: items, rest)
      | ']' :: rest => ([item], rest)
      | _ => ([item, .broken], [])

/-- Reads the members of an object up to its end. -/
def readMembers : Nat → List Char → List (Option String × Json) × List Char
  | 0, _ => ([(none, .broken)], [])
  | fuel + 1, text =>
      let broken : List (Option String × Json) × List Char := ([(none, .broken)], [])
      match skipBlanks text with
      | '"' :: rest =>
          match readString .start rest with
          | some (name, rest) =>
              match skipBlanks rest with
              | ':' :: rest =>
                  let (value, rest) := readValue fuel rest
                  match skipBlanks rest with
                  | ',' :: rest =>
                      let (members, rest) := readMembers fuel rest
                      ((name, value) :: members, rest)
                  | '\x7d' :: rest => ([(name, value)], rest)
                  | _ => ([(name, value), (none, .broken)], [])
              | _ => broken
          | none => broken
      | _ => broken

end

/-- The value at the start of a text and the rest of the text. -/
def read (text : List Char) : Json × List Char := readValue (2 * text.length + 2) text

end TableQuery.Json
