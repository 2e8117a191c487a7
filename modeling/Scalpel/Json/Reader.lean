import Scalpel.Json.Basic
import Scalpel.Decimal.Numeral
import Scalpel.Text.Half

/-!
JSON read from text. Besides the standard grammar the three words for values that are no decimal
numbers are numbers; a whole number is one written without a point and without an exponent. A text
that is no JSON is refused with the reason and the place of the first character that does not fit, and
so are values that nest too deeply and whole numbers that are too long.
-/

set_option autoImplicit false

namespace Scalpel

theorem exists_of_bind_ok {ε α β : Type} {first : Except ε α} {next : α → Except ε β} {value : β}
    (done : first >>= next = .ok value) :
    ∃ middle, first = .ok middle ∧ next middle = .ok value := by
  cases first with
  | error failure => cases done
  | ok middle => exact ⟨middle, rfl, done⟩

end Scalpel

namespace Scalpel.Json

variable [Halves]

/-- What is wrong at the place where reading stopped. -/
inductive Defect where
  | byteOrderMark
  | noValue
  | extraData
  | noName
  | noColon
  | noComma
  | openText
  | controlCharacter
  | badEscape
  | badUnit
  | tooDeep
  | tooLong (digits : Nat)
deriving DecidableEq, Repr

def Defect.message : Defect → String
  | .byteOrderMark => "Unexpected UTF-8 BOM (decode using utf-8-sig)"
  | .noValue => "Expecting value"
  | .extraData => "Extra data"
  | .noName => "Expecting property name enclosed in double quotes"
  | .noColon => "Expecting ':' delimiter"
  | .noComma => "Expecting ',' delimiter"
  | .openText => "Unterminated string starting at"
  | .controlCharacter => "Invalid control character at"
  | .badEscape => "Invalid \\escape"
  | .badUnit => "Invalid \\uXXXX escape"
  | .tooDeep => "Nested too deeply"
  | .tooLong digits => Decimal.tooManyDigits digits

/-- Why a text is no JSON: the defect and the place, as a line, a column and an offset. -/
structure Unreadable where
  defect : Defect
  line : Nat
  column : Nat
  offset : Nat
deriving DecidableEq, Repr

def Unreadable.message (u : Unreadable) : String :=
  u.defect.message ++ ": line " ++ toString u.line ++ " column " ++ toString u.column ++ " (char "
    ++ toString u.offset ++ ")"

/-- What is left of a text, and the offset at which it begins. -/
structure Cursor where
  rest : List Char
  offset : Nat

abbrev Reading (α : Type) := Except (Defect × Nat) α

def isSpace (c : Char) : Bool :=
  c = ' ' || c = '\t' || c = '\n' || c = '\r'

def Cursor.skip (at_ : Cursor) : Cursor :=
  { rest := at_.rest.dropWhile isSpace
    offset := at_.offset + (at_.rest.takeWhile isSpace).length }

def hexDigit? (c : Char) : Option Nat :=
  if '0' ≤ c && c ≤ '9' then some (c.toNat - 48)
  else if 'a' ≤ c && c ≤ 'f' then some (c.toNat - 87)
  else if 'A' ≤ c && c ≤ 'F' then some (c.toNat - 55)
  else none

/-- A UTF-16 unit of four hexadecimal digits at the front of a text. -/
def unit? : List Char → Option (Nat × List Char)
  | a :: b :: c :: d :: rest => do
    let a ← hexDigit? a
    let b ← hexDigit? b
    let c ← hexDigit? c
    let d ← hexDigit? d
    some (((a * 16 + b) * 16 + c) * 16 + d, rest)
  | _ => none

def simpleEscape? (c : Char) : Option Char :=
  if c = '"' || c = '\\' || c = '/' then some c
  else if c = 'b' then some (Char.ofNat 8)
  else if c = 'f' then some (Char.ofNat 12)
  else if c = 'n' then some '\n'
  else if c = 'r' then some '\r'
  else if c = 't' then some '\t'
  else none

def unitChar (unit : Nat) : Char :=
  if 0xD800 ≤ unit && unit ≤ 0xDFFF then Half.ofUnit unit else Char.ofNat unit

/-- The characters of a text up to its closing quote. The text began at the offset `start`; `offset`
is that of the next character. -/
def textBody (start : Nat) : Nat → List Char → Nat → Reading (List Char × Cursor)
  | 0, _, _ => .error (.openText, start)
  | fuel + 1, rest, offset =>
    match rest with
    | [] => .error (.openText, start)
    | c :: rest =>
      if c = '"' then .ok ([], { rest, offset := offset + 1 })
      else if c = '\\' then
        match rest with
        | [] => .error (.openText, start)
        | e :: rest =>
          if e = 'u' then
            -- an escape must end before the text does
            if (rest.drop 4).isEmpty then .error (.badUnit, offset + 1)
            else
              match unit? rest with
              | none => .error (.badUnit, offset + 1)
              | some (unit, rest) => do
                let single := (unitChar unit, rest, offset + 6)
                let (c, rest, offset) ←
                  if 0xD800 ≤ unit && unit ≤ 0xDBFF && !(rest.drop 6).isEmpty then
                    match rest with
                    | '\\' :: 'u' :: more =>
                      match unit? more with
                      | none => .error (.badUnit, offset + 7)
                      | some (second, after) =>
                        if 0xDC00 ≤ second && second ≤ 0xDFFF then
                          .ok (Char.ofNat
                            (0x10000 + (unit - 0xD800) * 0x400 + (second - 0xDC00)), after, offset + 12)
                        else .ok single
                    | _ => .ok single
                  else .ok single
                let (more, cursor) ← textBody start fuel rest offset
                .ok (c :: more, cursor)
          else
            match simpleEscape? e with
            | none => .error (.badEscape, offset)
            | some c => do
              let (more, cursor) ← textBody start fuel rest (offset + 2)
              .ok (c :: more, cursor)
      else if c.toNat < 0x20 then .error (.controlCharacter, offset)
      else do
        let (more, cursor) ← textBody start fuel rest (offset + 1)
        .ok (c :: more, cursor)

def textAt (fuel start : Nat) (rest : List Char) : Reading (String × Cursor) := do
  let (chars, cursor) ← textBody start fuel rest (start + 1)
  .ok (String.ofList chars, cursor)

def fractionPart (text : List Char) : List Char × List Char :=
  match text with
  | '.' :: more =>
    let digits := more.takeWhile Text.isPlainDigit
    if digits.isEmpty then ([], text) else (digits, more.drop digits.length)
  | _ => ([], text)

/-- The exponent at the front of a text with the number of its characters, and what follows it. -/
def exponentPart (text : List Char) : Option (Int × Nat) × List Char :=
  match text with
  | [] => (none, text)
  | mark :: more =>
    let (down, rest) := Decimal.signed more
    let digits := rest.takeWhile Text.isPlainDigit
    if !(mark = 'e' || mark = 'E') || digits.isEmpty then (none, text)
    else
      let size := Int.ofNat (Decimal.ofDigits digits)
      let signs := if more.head? = some '-' || more.head? = some '+' then 1 else 0
      (some (if down then -size else size, 1 + signs + digits.length), rest.drop digits.length)

def numberAt (at_ : Cursor) : Reading (Json × Cursor) :=
  let (negative, body) :=
    match at_.rest with
    | '-' :: rest => (true, rest)
    | rest => (false, rest)
  let whole :=
    match body with
    | '0' :: _ => ['0']
    | body => body.takeWhile Text.isPlainDigit
  let (fraction, rest) := fractionPart (body.drop whole.length)
  let (exponent, rest) := exponentPart rest
  let points := if fraction.isEmpty then 0 else 1
  let used := (if negative then 1 else 0) + whole.length + points + fraction.length
    + (exponent.map (·.2)).getD 0
  let cursor : Cursor := { rest, offset := at_.offset + used }
  if whole.isEmpty then .error (.noValue, at_.offset)
  else if fraction.isEmpty && exponent.isNone then
    if Decimal.digitLimit < whole.length then .error (.tooLong whole.length, at_.offset)
    else
      let n := Int.ofNat (Decimal.ofDigits whole)
      .ok (.int (if negative then -n else n), cursor)
  else
    let x := Decimal.scientific (Decimal.ofDigits (whole ++ fraction))
      ((exponent.map (·.1)).getD 0 - Int.ofNat fraction.length)
    .ok (.float (if negative then -x else x), cursor)

def words : List (List Char × Json) :=
  [("null".toList, .null), ("true".toList, .bool true), ("false".toList, .bool false),
    ("NaN".toList, .float (0.0 / 0.0)), ("Infinity".toList, .float (1.0 / 0.0)),
    ("-Infinity".toList, .float (-1.0 / 0.0))]

def plainValue (at_ : Cursor) : Reading (Json × Cursor) :=
  match words.find? fun word => word.1.isPrefixOf at_.rest with
  | some (word, value) =>
    .ok (value, { rest := at_.rest.drop word.length, offset := at_.offset + word.length })
  | none => numberAt at_

mutual

/-- The value at a cursor, with so many levels of lists and objects in it at most. Each call uses up
one unit of fuel and every cycle of calls reads a character, so twice the length of the text is
enough. -/
def valueAt : Nat → Nat → Cursor → Reading (Json × Cursor)
  | 0, _, at_ => .error (.noValue, at_.offset)
  | fuel + 1, levels, at_ =>
    match at_.rest, levels with
    | '"' :: rest, _ => do
      let (text, cursor) ← textAt fuel at_.offset rest
      .ok (.str text, cursor)
    | '[' :: rest, levels + 1 =>
      let cursor := Cursor.skip { rest, offset := at_.offset + 1 }
      match cursor.rest with
      | ']' :: rest => .ok (.arr [], { rest, offset := cursor.offset + 1 })
      | _ => do
        let (items, cursor) ← itemsAt fuel levels cursor
        .ok (.arr items, cursor)
    | '\x7b' :: rest, levels + 1 =>
      let cursor := Cursor.skip { rest, offset := at_.offset + 1 }
      match cursor.rest with
      | '\x7d' :: rest => .ok (.obj [], { rest, offset := cursor.offset + 1 })
      | _ => do
        let (fields, cursor) ← fieldsAt fuel levels cursor
        .ok (.obj (Fields.ofList fields), cursor)
    | '[' :: _, 0 | '\x7b' :: _, 0 => .error (.tooDeep, at_.offset)
    | _, _ => plainValue at_

def itemsAt : Nat → Nat → Cursor → Reading (List Json × Cursor)
  | 0, _, at_ => .error (.noValue, at_.offset)
  | fuel + 1, levels, at_ => do
    let (item, cursor) ← valueAt fuel levels at_
    let cursor := cursor.skip
    match cursor.rest with
    | ']' :: rest => .ok ([item], { rest, offset := cursor.offset + 1 })
    | ',' :: rest =>
      let (items, cursor) ← itemsAt fuel levels (Cursor.skip { rest, offset := cursor.offset + 1 })
      .ok (item :: items, cursor)
    | _ => .error (.noComma, cursor.offset)

def fieldsAt : Nat → Nat → Cursor → Reading (List (String × Json) × Cursor)
  | 0, _, at_ => .error (.noName, at_.offset)
  | fuel + 1, levels, at_ =>
    match at_.rest with
    | '"' :: rest => do
      let (name, cursor) ← textAt fuel at_.offset rest
      let cursor := cursor.skip
      match cursor.rest with
      | ':' :: rest =>
        let (value, cursor) ← valueAt fuel levels (Cursor.skip { rest, offset := cursor.offset + 1 })
        let cursor := cursor.skip
        match cursor.rest with
        | '\x7d' :: rest => .ok ([(name, value)], { rest, offset := cursor.offset + 1 })
        | ',' :: rest =>
          let (fields, cursor) ← fieldsAt fuel levels (Cursor.skip { rest, offset := cursor.offset + 1 })
          .ok ((name, value) :: fields, cursor)
        | _ => .error (.noComma, cursor.offset)
      | _ => .error (.noColon, cursor.offset)
    | _ => .error (.noName, at_.offset)

end

def Unreadable.locate (text : List Char) (defect : Defect) (offset : Nat) : Unreadable :=
  let before := text.take offset
  { defect, offset
    line := before.count '\n' + 1
    column := (before.reverse.takeWhile (· ≠ '\n')).length + 1 }

/-- How deep a value may be nested. At most a thousand calls can be under way at a time: each level takes
one of them, and what takes a message apart takes the other thirty. -/
def levelLimit : Nat := 970

def readNested (levels : Nat) (text : String) : Except Unreadable Json :=
  let chars := text.toList
  let result : Reading Json :=
    match chars with
    | '\uFEFF' :: _ => .error (.byteOrderMark, 0)
    | _ => do
      let start := Cursor.skip { rest := chars, offset := 0 }
      let (value, cursor) ← valueAt (2 * chars.length + 2) levels start
      let cursor := cursor.skip
      if cursor.rest.isEmpty then .ok value else .error (.extraData, cursor.offset)
  result.mapError fun (defect, offset) => .locate chars defect offset

def read (text : String) : Except Unreadable Json :=
  readNested levelLimit text

end Scalpel.Json
