import Scalpel.Text.Blank

/-!
Numbers read from text. A numeral may have blanks around it and a sign in front; single underscores
may stand between digits; digits may be of any script.
-/

set_option autoImplicit false

namespace Scalpel.Decimal

open Scalpel.Text

def plain (text : String) : List Char :=
  (trim isNumeralBlank text.toList).map fun c =>
    match digit? c with
    | some d => Char.ofNat (48 + d)
    | none => c

def digitRun : List Char → List Char × List Char
  | [] => ([], [])
  | c :: '_' :: d :: more =>
    if isPlainDigit c then
      if isPlainDigit d then
        let (digits, rest) := digitRun (d :: more)
        (c :: digits, rest)
      else ([c], '_' :: d :: more)
    else ([], c :: '_' :: d :: more)
  | c :: more =>
    if isPlainDigit c then
      let (digits, rest) := digitRun more
      (c :: digits, rest)
    else ([], c :: more)

def ofDigits (digits : List Char) : Nat :=
  digits.foldl (fun n c => 10 * n + (c.toNat - 48)) 0

def signed : List Char → Bool × List Char
  | '-' :: rest => (true, rest)
  | '+' :: rest => (false, rest)
  | text => (false, text)

/-- How many digits are read as a whole number. More are refused, since reading takes time with the square
of their number. -/
def digitLimit : Nat := 4300

def tooManyDigits (count : Nat) : String :=
  "Exceeds the limit (" ++ toString digitLimit ++ " digits) for integer string conversion: value has "
    ++ toString count ++ " digits; use sys.set_int_max_str_digits() to increase the limit"

/-- What a text is as the numeral of a whole number. -/
inductive Whole where
  | number (n : Int)
  | tooLong (digits : Nat)
  | nothing
deriving DecidableEq, Repr

/-- The whole number that a text writes. The digits are counted before the text behind them is looked
at, but a misplaced underscore counts as a fault of the digits. -/
def Whole.ofText (text : String) : Whole :=
  let (negative, body) := signed (plain text)
  match digitRun body with
  | ([], _) => .nothing
  | (digits, rest) =>
    if rest.head? = some '_' then .nothing
    else if digitLimit < digits.length then .tooLong digits.length
    else if rest.isEmpty then
      .number (if negative then -Int.ofNat (ofDigits digits) else Int.ofNat (ofDigits digits))
    else .nothing

def whole? (text : String) : Option Int :=
  match Whole.ofText text with
  | .number n => some n
  | _ => none

/-- The floating-point number nearest to `mantissa · 10 ^ exponent`. -/
def scientific (mantissa : Nat) (exponent : Int) : Float :=
  if mantissa = 0 then 0.0
  else
    let size := Int.ofNat (Nat.toDigits 10 mantissa).length + exponent
    if 400 < size then 1.0 / 0.0
    else if size < -400 then 0.0
    else Float.ofScientific mantissa (exponent < 0) exponent.natAbs

def ofWhole (n : Int) : Float :=
  if n < 0 then -scientific n.natAbs 0 else scientific n.natAbs 0

/-- The exponent part of a decimal numeral, which may be absent. -/
def exponentPart : List Char → Option Int
  | [] => some 0
  | mark :: rest =>
    if mark = 'e' || mark = 'E' then
      let (negative, body) := signed rest
      match digitRun body with
      | ([], _) => none
      | (digits, []) =>
        some (if negative then -Int.ofNat (ofDigits digits) else Int.ofNat (ofDigits digits))
      | (_, _ :: _) => none
    else none

def decimal? (text : List Char) : Option Float :=
  let (before, rest) := digitRun text
  let (after, rest) :=
    match rest with
    | '.' :: tail => digitRun tail
    | _ => ([], rest)
  if before.isEmpty && after.isEmpty then none
  else
    (exponentPart rest).map fun exponent =>
      scientific (ofDigits (before ++ after)) (exponent - Int.ofNat after.length)

/-- The floating-point number that a text writes, a decimal numeral or one of the words for infinity
and for no number. -/
def float? (text : String) : Option Float :=
  let (negative, body) := signed (plain text)
  let word := String.ofList (body.map Char.toLower)
  let size :=
    if word = "inf" || word = "infinity" then some (1.0 / 0.0)
    else if word = "nan" then some (0.0 / 0.0)
    else decimal? body
  size.map fun x => if negative then -x else x

end Scalpel.Decimal
