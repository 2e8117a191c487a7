import Scalpel.Shell.Arithmetic
import Scalpel.Decimal.Numeral
import Scalpel.Decimal.Shortest
import Scalpel.Files.Canonical

/-!
Texts that commands of a shell print: with their escapes undone, and with arguments in the places of a
format. A byte that is no part of a text is kept as half of a character, and sizes are counted in
bytes. What commands read is divided into lines.
-/

set_option autoImplicit false

namespace Scalpel.Shell

open Scalpel

variable [Halves]

def byteChar (n : Nat) : Char :=
  if n % 256 < 0x80 then Char.ofNat (n % 256) else Half.ofUnit (0xDC00 + n % 256)

/-! ### Escapes -/

def letterEscape? (c : Char) : Option Char :=
  match c with
  | '\\' => some '\\'
  | 'a' => some '\x07'
  | 'b' => some '\x08'
  | 'f' => some '\x0c'
  | 'n' => some '\n'
  | 'r' => some '\r'
  | 't' => some '\t'
  | 'v' => some '\x0b'
  | _ => none

def octalOf (limit : Nat) (text : List Char) : Nat × List Char :=
  let digits := (text.take limit).takeWhile fun c => '0' ≤ c && c ≤ '7'
  (digits.foldl (fun n c => n * 8 + (c.toNat - 48)) 0, text.drop digits.length)

def escapeOf (text : List Char) : Char × List Char :=
  match text with
  | [] => ('\\', [])
  | c :: rest =>
    if '0' ≤ c && c ≤ '7' then
      let (n, rest) := octalOf 3 (c :: rest)
      (byteChar n, rest)
    else
      match letterEscape? c with
      | some d => (d, rest)
      | none => ('\\', c :: rest)

/-- A text with its escapes undone, and whether an escape ended it. A zero may stand before the octal
digits of an escape. Fuel: each step takes a character. -/
def unescapeFrom : Nat → List Char → List Char × Bool
  | 0, _ => ([], false)
  | _, [] => ([], false)
  | _ + 1, '\\' :: 'c' :: _ => ([], true)
  | fuel + 1, '\\' :: rest =>
    let (c, rest) :=
      match rest with
      | '0' :: digits =>
        let (n, rest) := octalOf 3 digits
        (byteChar n, rest)
      | rest => escapeOf rest
    let (more, isEnded) := unescapeFrom fuel rest
    (c :: more, isEnded)
  | fuel + 1, c :: rest =>
    let (more, isEnded) := unescapeFrom fuel rest
    (c :: more, isEnded)

def unescape (text : List Char) : List Char × Bool :=
  unescapeFrom (text.length + 1) text

def echoed (arguments : List (List Char)) : List Char :=
  let (quiet, arguments) :=
    match arguments with
    | ['-', 'n'] :: rest => (true, rest)
    | arguments => (false, arguments)
  let (text, isEnded) := unescape ([' '].intercalate arguments)
  if quiet || isEnded then text else text ++ ['\n']

/-- The text that the program `echo` prints, which undoes escapes only when it is told to. -/
def echoedPlainly (arguments : List (List Char)) : List Char :=
  let isOption (text : List Char) : Bool :=
    match text with
    | '-' :: c :: rest => (c :: rest).all fun c => c = 'n' || c = 'e' || c = 'E'
    | _ => false
  let options := (arguments.takeWhile isOption).flatMap (·.drop 1)
  let arguments := arguments.dropWhile isOption
  let undoes := (options.filter fun c => c ≠ 'n').getLast? = some 'e'
  let text := [' '].intercalate arguments
  let (text, isEnded) := if undoes then unescape text else (text, false)
  if options.contains 'n' || isEnded then text else text ++ ['\n']

/-! ### Formats -/

structure Slot where
  flags : List Char := []
  width : Nat := 0
  precision : Option Nat := none

def Slot.padded (slot : Slot) (zeros : Bool) (text : List Char) : List Char :=
  let missing := slot.width - (Path.bytesOf text).length
  if slot.flags.contains '-' then text ++ List.replicate missing ' '
  else if zeros && slot.flags.contains '0' then
    let head := text.takeWhile fun c => c = '-' || c = '+' || c = ' '
    let body := text.drop head.length
    let mark := if ['0', 'x'].isPrefixOf body || ['0', 'X'].isPrefixOf body then body.take 2 else []
    head ++ mark ++ List.replicate missing '0' ++ body.drop mark.length
  else List.replicate missing ' ' ++ text

def Slot.text (slot : Slot) (text : List Char) : List Char :=
  let text :=
    match slot.precision with
    | some count => Path.ofBytes ((Path.bytesOf text).take count)
    | none => text
  slot.padded false text

def Slot.digits (slot : Slot) (base n : Nat) : List Char :=
  let digits := if n = 0 && slot.precision = some 0 then [] else Nat.toDigits base n
  List.replicate (slot.precision.getD 1 - digits.length) '0' ++ digits

def Slot.signed (slot : Slot) (n : Int) : List Char :=
  let sign := if n < 0 then ['-'] else if slot.flags.contains '+' then ['+']
    else if slot.flags.contains ' ' then [' '] else []
  slot.padded slot.precision.isNone (sign ++ slot.digits 10 n.natAbs)

def Slot.unsigned (slot : Slot) (letter : Char) (n : Nat) : List Char :=
  let isMarked := slot.flags.contains '#'
  let text :=
    if letter = 'o' then
      let digits := slot.digits 8 n
      if isMarked && digits.head? ≠ some '0' then '0' :: digits else digits
    else if letter = 'u' then slot.digits 10 n
    else
      let digits := (if isMarked && n ≠ 0 then ['0', 'x'] else []) ++ slot.digits 16 n
      if letter = 'X' then digits.map Char.toUpper else digits
  slot.padded slot.precision.isNone text

/-- A number with decimal places, with an exponent, or in the shorter of both ways. -/
def Slot.decimal (slot : Slot) (letter : Char) (x : Float) : List Char :=
  let precision := slot.precision.getD 6
  let value := Decimal.Exact.ofFloat x
  let body : List Char :=
    (match letter.toLower with
      | 'e' => value.scientific precision
      | 'g' => value.general precision (slot.flags.contains '#')
      | _ => value.fixed precision).toList
  let body := if letter.isUpper then body.map Char.toUpper else body
  let sign := if body.head? = some '-' then [] else if slot.flags.contains '+' then ['+']
    else if slot.flags.contains ' ' then [' '] else []
  slot.padded true (sign ++ body)

inductive NumberFault where
  | notNumeric
  | leftOver
  | outOfRange

def NumberFault.message : NumberFault → String
  | .notNumeric => "expected numeric value"
  | .leftOver => "not completely converted"
  | .outOfRange => "Numerical result out of range"

def withoutBlanks (text : List Char) : List Char :=
  text.dropWhile fun c => c = ' ' || ('\t' ≤ c && c ≤ '\r')

def numberFault? (text rest : List Char) (isRead : Bool) : Option NumberFault :=
  if !isRead then if text.isEmpty then none else some .notNumeric
  else if rest.isEmpty then none
  else some .leftOver

/-- The number that an argument writes, which fits into a word with or without a sign, and what is wrong
with it. -/
def argumentNumber (isSigned : Bool) (text : List Char) : Int × Option NumberFault :=
  match text with
  | '\'' :: c :: _ | '"' :: c :: _ => (((Path.bytesOf [c]).headD 0).toNat, none)
  | text =>
    let body := withoutBlanks text
    let isNegative := body.head? = some '-'
    let digits := if isNegative || body.head? = some '+' then body.drop 1 else body
    if digits.head?.any Char.isDigit then
      let (value, rest) := takeNumber digits
      let n : Int := if isNegative then -value else value
      let (low, high) : Int × Int := if isSigned then (-2 ^ 63, 2 ^ 63 - 1) else (1 - 2 ^ 64, 2 ^ 64 - 1)
      let isOutside := n < low || high < n
      let bound := if isSigned && isNegative then low else high
      let fault := numberFault? text rest true
      (if isOutside then bound else n, fault <|> if isOutside then some .outOfRange else none)
    else (0, numberFault? text body false)

def decimalLength (text : List Char) : Nat :=
  let whole := (text.takeWhile Char.isDigit).length
  let rest := text.drop whole
  let places := if rest.head? = some '.' then ((rest.drop 1).takeWhile Char.isDigit).length else 0
  let point := if rest.head? = some '.' then 1 else 0
  if whole + places = 0 then 0
  else
    let front := whole + point + places
    match text.drop front with
    | e :: rest =>
      let sign := if rest.head? = some '-' || rest.head? = some '+' then 1 else 0
      let power := ((rest.drop sign).takeWhile Char.isDigit).length
      if (e = 'e' || e = 'E') && 0 < power then front + 1 + sign + power else front
    | [] => front

/-- The length of the numeral or of the word for no finite number at the front of a text, behind its
sign. -/
def realLength (text : List Char) : Nat :=
  let lower := (text.take 8).map Char.toLower
  let found := ["infinity", "inf", "nan"].find? fun word => word.toList.isPrefixOf lower
  match found with
  | some word => word.length
  | none => decimalLength text

def argumentReal (text : List Char) : Float × Option NumberFault :=
  let body := withoutBlanks text
  let sign := if body.head? = some '-' || body.head? = some '+' then 1 else 0
  let size := realLength (body.drop sign)
  if size = 0 then (0.0, numberFault? text body false)
  else
    let x := (Decimal.float? (String.ofList (body.take (sign + size)))).getD 0.0
    (x, numberFault? text (body.drop (sign + size)) true)

/-- What a format comes to: the text, the arguments that are left, what is said about arguments that are no
numbers, whether it is over, and what is wrong with the format. -/
structure Formatted where
  text : List Char := []
  arguments : List (List Char)
  complaints : List (List Char) := []
  isOver : Bool := false
  fault : Option (List Char) := none
  usesArguments : Bool := false

def Formatted.noting (f : Formatted) (argument : List Char) (fault : Option NumberFault) : Formatted :=
  match fault with
  | none => f
  | some fault =>
    { f with complaints := f.complaints ++ [argument ++ ": ".toList ++ fault.message.toList] }

def countOf (f : Formatted) (rest : List Char) : Option Int × Formatted × List Char :=
  match rest with
  | '*' :: rest =>
    let argument := f.arguments.headD []
    let (number, fault) := argumentNumber true argument
    (some number, { f with arguments := f.arguments.drop 1 }.noting argument fault, rest)
  | rest =>
    let digits := rest.takeWhile Char.isDigit
    (if digits.isEmpty then none else some (digits.foldl (fun n c => n * 10 + (c.toNat - 48)) 0),
      f, rest.drop digits.length)

def fill? (f : Formatted) (slot : Slot) (letter : Char) : Option Formatted :=
  let argument := f.arguments.headD []
  let f := { f with arguments := f.arguments.drop 1, usesArguments := true }
  let say (f : Formatted) (text : List Char) : Formatted := { f with text := f.text ++ text }
  match letter with
  | 's' => some (say f (slot.text argument))
  | 'c' => some (say f (slot.padded false (Path.ofBytes ((Path.bytesOf argument ++ [0]).take 1))))
  | 'b' =>
    let (text, isOver) := unescape argument
    some { say f (slot.text text) with isOver }
  | 'd' | 'i' =>
    let (number, fault) := argumentNumber true argument
    some (say (f.noting argument fault) (slot.signed number))
  | 'o' | 'u' | 'x' | 'X' =>
    let (number, fault) := argumentNumber false argument
    some (say (f.noting argument fault) (slot.unsigned letter (number % 2 ^ 64).toNat))
  | 'f' | 'F' | 'e' | 'E' | 'g' | 'G' =>
    let (number, fault) := argumentReal argument
    some (say (f.noting argument fault) (slot.decimal letter number))
  | _ => none

def formatOnce : Nat → List Char → Formatted → Formatted
  | 0, _, f => f
  | _, [], f => f
  | fuel + 1, '\\' :: rest, f =>
    let (c, rest) := escapeOf rest
    formatOnce fuel rest { f with text := f.text ++ [c] }
  | fuel + 1, '%' :: '%' :: rest, f => formatOnce fuel rest { f with text := f.text ++ ['%'] }
  | fuel + 1, '%' :: directive, f =>
    let flags := directive.takeWhile fun c => ['#', '-', '+', ' ', '0'].contains c
    let (width, f, rest) := countOf f (directive.drop flags.length)
    let (precision, f, rest) :=
      match rest with
      | '.' :: rest =>
        let (count, f, rest) := countOf f rest
        (some (count.getD 0), f, rest)
      | rest => (none, f, rest)
    let width := width.getD 0
    let slot : Slot :=
      { flags := if width < 0 then '-' :: flags else flags
        width := width.natAbs
        precision := precision.bind fun n => if n < 0 then none else some n.toNat }
    match rest with
    | [] => { f with fault := some "missing format character".toList }
    | letter :: rest =>
      match fill? f slot letter with
      | some f => if f.isOver then f else formatOnce fuel rest f
      | none =>
        let shown := '%' :: directive.take (directive.length - rest.length)
        { f with fault := some (shown ++ ": invalid directive".toList) }
  | fuel + 1, c :: rest, f => formatOnce fuel rest { f with text := f.text ++ [c] }

/-- A format with all its arguments: it is used again while arguments are left. Fuel: each pass takes
an argument. -/
def formatAll (format : List Char) : Nat → Formatted → Formatted
  | 0, f => f
  | fuel + 1, f =>
    let f := formatOnce (format.length + 1) format { f with usesArguments := false }
    if f.fault.isSome || f.isOver || f.arguments.isEmpty || !f.usesArguments then f
    else formatAll format fuel f

def formatted (format : List Char) (arguments : List (List Char)) : Formatted :=
  formatAll format (arguments.length + 1) { arguments }

def Formatted.status (f : Formatted) : Nat :=
  if f.fault.isSome then 2 else if f.complaints.isEmpty then 0 else 1

/-! ### Lines and numbers -/

def digits? (text : List Char) : Option Nat :=
  if text.isEmpty || !text.all Char.isDigit then none
  else some (text.foldl (fun n c => n * 10 + (c.toNat - 48)) 0)

def byteChars (text : List Char) : List Char :=
  (Path.bytesOf text).map fun byte => Char.ofNat byte.toNat

def ofByteChars (chars : List Char) : List Char :=
  Path.ofBytes (chars.map fun c => c.toNat.toUInt8)

def linesOf (bytes : Bytes) : List Bytes :=
  let parts := bytes.splitOn 10
  (parts.dropLast.map (· ++ [10])) ++ (parts.getLast?.toList.filter fun part => !part.isEmpty)

def bareLines (bytes : Bytes) : List Bytes :=
  (linesOf bytes).map fun line => if line.getLast? = some 10 then line.dropLast else line

def endedBy (mark : UInt8) (bytes : Bytes) : List Bytes :=
  let parts := bytes.splitOn mark
  parts.dropLast ++ (parts.getLast?.toList.filter fun part => !part.isEmpty)

def joinedLines (lines : List Bytes) : Bytes :=
  lines.flatMap (· ++ [10])

end Scalpel.Shell
