import Scalpel.Text.Coding.Basic

/-!
The encodings that have bytes for every character: in units of one, two and four bytes. A mark of the
order of bytes at the front may be part of the encoding; places in messages count it.
-/

set_option autoImplicit false

namespace Scalpel.Coding

open Scalpel

variable [Halves]

/-! ### Units of one byte -/

def readUtf8 (bytes : Bytes) : Outcome (List Char) :=
  match Utf8.decodeFrom 0 bytes with
  | .ok chars => .ok chars
  | .error stop => unreadable "utf-8" bytes stop.first stop.count stop.reason.message

def writeUtf8 (text : List Char) : Outcome Bytes :=
  writeWhole "utf-8" (·.flatMap Utf8.encodeChar) text

def mark8 : Bytes := [0xEF, 0xBB, 0xBF]

/-- The characters of UTF-8 after the mark, if it is there. Bytes that are only the beginning of the
mark are no text and no fault. -/
def readMarked (bytes : Bytes) : Outcome (List Char) :=
  if bytes.length < 3 && bytes.isPrefixOf mark8 then .ok []
  else if mark8.isPrefixOf bytes then readUtf8 (bytes.drop 3)
  else readUtf8 bytes

/-! ### Units of two and of four bytes -/

def bytes16 (bigEndian : Bool) (n : Nat) : Bytes :=
  let low := (n % 256).toUInt8
  let high := (n / 256).toUInt8
  if bigEndian then [high, low] else [low, high]

def bytes32 (bigEndian : Bool) (n : Nat) : Bytes :=
  let low := bytes16 bigEndian (n % 65536)
  let high := bytes16 bigEndian (n / 65536)
  if bigEndian then high ++ low else low ++ high

def units16 (c : Char) : List Nat :=
  let n := Half.number c
  if n < 0x10000 then [n]
  else [0xD800 + (n - 0x10000) / 0x400, 0xDC00 + (n - 0x10000) % 0x400]

def pairChar (first second : Nat) : Char :=
  Char.ofNat (0x10000 + (first - 0xD800) * 0x400 + (second - 0xDC00))

def read16 (bigEndian : Bool) (bytes : Bytes) : Nat → Nat → Bytes → List Char →
    Outcome (List Char)
  | 0, _, _, done => .ok done.reverse
  | fuel + 1, offset, rest, done =>
    let label := if bigEndian then "utf-16-be" else "utf-16-le"
    let unit (a b : UInt8) : Nat :=
      if bigEndian then a.toNat * 256 + b.toNat else b.toNat * 256 + a.toNat
    match rest with
    | [] => .ok done.reverse
    | [_] => unreadable label bytes offset 1 "truncated data"
    | a :: b :: rest =>
      let first := unit a b
      if first < 0xD800 || 0xE000 ≤ first then
        read16 bigEndian bytes fuel (offset + 2) rest (Char.ofNat first :: done)
      else if 0xDC00 ≤ first then unreadable label bytes offset 2 "illegal encoding"
      else
        match rest with
        | c :: d :: rest =>
          let second := unit c d
          if 0xDC00 ≤ second && second < 0xE000 then
            read16 bigEndian bytes fuel (offset + 4) rest (pairChar first second :: done)
          else unreadable label bytes offset 2 "illegal UTF-16 surrogate"
        | rest => unreadable label bytes offset (2 + rest.length) "unexpected end of data"

def read32 (bigEndian : Bool) (bytes : Bytes) : Nat → Nat → Bytes → List Char →
    Outcome (List Char)
  | 0, _, _, done => .ok done.reverse
  | fuel + 1, offset, rest, done =>
    let label := if bigEndian then "utf-32-be" else "utf-32-le"
    match rest with
    | [] => .ok done.reverse
    | a :: b :: c :: d :: rest =>
      let digits := if bigEndian then [a, b, c, d] else [d, c, b, a]
      let n := digits.foldl (fun n byte => n * 256 + byte.toNat) 0
      if n.isValidChar then
        read32 bigEndian bytes fuel (offset + 4) rest (Char.ofNat n :: done)
      else if n < 0x110000 then
        unreadable label bytes offset 4 "code point in surrogate code point range(0xd800, 0xe000)"
      else unreadable label bytes offset 4 "code point not in range(0x110000)"
    | rest => unreadable label bytes offset rest.length "truncated data"

inductive UnitSize where
  | two
  | four
deriving DecidableEq, Repr

def writeUnits (label : String) (bytes : List Char → Bytes) (text : List Char) : Outcome Bytes :=
  match firstRun (fun c => !Half.isHalf c) text with
  | some (first, _) => unwritable label text first 1 "surrogates not allowed"
  | none => .ok (bytes text)

namespace UnitSize

def label : UnitSize → String
  | .two => "utf-16"
  | .four => "utf-32"

def bytes : UnitSize → Bool → Nat → Bytes
  | .two => bytes16
  | .four => bytes32

def charBytes (size : UnitSize) (bigEndian : Bool) (c : Char) : Bytes :=
  match size with
  | .two => (units16 c).flatMap (bytes16 bigEndian)
  | .four => bytes32 bigEndian c.toNat

def readFrom (size : UnitSize) (bigEndian : Bool) (offset : Nat) (bytes : Bytes) :
    Outcome (List Char) :=
  match size with
  | .two => read16 bigEndian bytes (bytes.length + 1) offset (bytes.drop offset) []
  | .four => read32 bigEndian bytes (bytes.length + 1) offset (bytes.drop offset) []

/-- Units in the order that the mark at the front gives. Without a mark, units in the usual order
are looked for faults, and a text that has none is refused all the same. -/
def readMarked (size : UnitSize) (bytes : Bytes) : Outcome (List Char) :=
  let mark (bigEndian : Bool) : Bytes := size.bytes bigEndian 0xFEFF
  if (mark false).isPrefixOf bytes then size.readFrom false (mark false).length bytes
  else if (mark true).isPrefixOf bytes then size.readFrom true (mark true).length bytes
  else
    match size.readFrom false 0 bytes with
    | .error failure => .error failure
    | .ok _ =>
      if bytes.isEmpty then .ok []
      else .error (.miscoded (size.label.toUpper ++ " stream does not start with BOM"))

def writeMarked (size : UnitSize) (text : List Char) : Outcome Bytes :=
  writeUnits size.label (fun text =>
    size.bytes false 0xFEFF ++ text.flatMap (size.charBytes false)) text

def writePlain (size : UnitSize) (bigEndian : Bool) (text : List Char) : Outcome Bytes :=
  writeUnits (size.label ++ if bigEndian then "-be" else "-le")
    (·.flatMap (size.charBytes bigEndian)) text

end UnitSize

end Scalpel.Coding

/-! ### Bytes below 128

Most characters of ASCII stand for themselves; the others stand, as UTF-16
units in base 64, between a plus sign and the first character that is no digit of base 64. A minus
sign at that place belongs to the section.
-/

namespace Scalpel.Coding.Seven

open Scalpel

variable [Halves]

def digits : List Char :=
  "ABCDEFGHIJKLMNOPQRSTUVWXYZabcdefghijklmnopqrstuvwxyz0123456789+/".toList

def digit (value : Nat) : Char :=
  digits.getD value 'A'

def value? (byte : UInt8) : Option Nat :=
  digits.idxOf? (Char.ofNat byte.toNat)

def isDirect (c : Char) : Bool :=
  c = '\t' || c = '\n' || c = '\r'
    || (0x20 ≤ c.toNat && c.toNat < 0x7E && c ≠ '+' && c ≠ '\\')

/-! ### Writing -/

/-- A section of base 64 that is being written: bits that make no full digit yet. -/
structure Section where
  bits : Nat := 0
  size : Nat := 0

def takeDigits : Nat → Nat → Nat → List Char × Section
  | 0, bits, size => ([], { bits, size })
  | fuel + 1, bits, size =>
    if size < 6 then ([], { bits, size })
    else
      let (more, rest) := takeDigits fuel (bits % 2 ^ (size - 6)) (size - 6)
      (digit (bits / 2 ^ (size - 6)) :: more, rest)

def Section.add (s : Section) (c : Char) : List Char × Section :=
  let (bits, size) := (units16 c).foldl (fun (bits, size) unit => (bits * 65536 + unit, size + 16))
    (s.bits, s.size)
  takeDigits size bits size

def Section.last (s : Section) : List Char :=
  if s.size = 0 then [] else [digit (s.bits * 2 ^ (6 - s.size))]

def clings (c : Char) : Bool :=
  digits.contains c || c = '-'

def written : Option Section → List Char → List Char
  | none, [] => []
  | some s, [] => s.last ++ ['-']
  | none, c :: rest =>
    if c = '+' then '+' :: '-' :: written none rest
    else if isDirect c then c :: written none rest
    else
      let (text, s) := Section.add {} c
      '+' :: text ++ written (some s) rest
  | some s, c :: rest =>
    if isDirect c then s.last ++ (if clings c then ['-', c] else [c]) ++ written none rest
    else
      let (text, s) := s.add c
      text ++ written (some s) rest

def write (text : List Char) : Bytes :=
  (written none text).map fun c => c.toNat.toUInt8

/-! ### Reading -/

/-- A section that is being read: where it began, its bits, and a half that waits for the other
one. -/
structure Open where
  start : Nat
  bits : Nat := 0
  size : Nat := 0
  half : Option Nat := none

def addUnit (half : Option Nat) (unit : Nat) (done : List Char) : Option Nat × List Char :=
  match half with
  | some first =>
    if 0xDC00 ≤ unit && unit < 0xE000 then (none, pairChar first unit :: done)
    else alone unit (Half.ofUnit first :: done)
  | none => alone unit done
where
  alone (unit : Nat) (done : List Char) : Option Nat × List Char :=
    if 0xD800 ≤ unit && unit < 0xDC00 then (some unit, done)
    else if 0xDC00 ≤ unit && unit < 0xE000 then (none, Half.ofUnit unit :: done)
    else (none, Char.ofNat unit :: done)

/-- The text of bytes from an offset on, inside a section or outside. Fuel: each step takes at least
one byte, but for the step that ends a section. -/
def readFrom (bytes : Bytes) : Nat → Option Open → Nat → Bytes → List Char →
    Outcome (List Char)
  | 0, _, _, _, done => .ok done.reverse
  | fuel + 1, part, offset, rest, done =>
    let fault (start count : Nat) (reason : String) : Outcome (List Char) :=
      unreadable "utf7" bytes start count reason
    match part, rest with
    | none, [] => .ok done.reverse
    | some s, [] =>
      if s.half.isSome || 6 ≤ s.size || s.bits ≠ 0 then
        fault s.start (bytes.length - s.start) "unterminated shift sequence"
      else .ok done.reverse
    | none, byte :: rest =>
      if byte = 43 then
        match rest with
        | 45 :: rest => readFrom bytes fuel none (offset + 2) rest ('+' :: done)
        | next :: more =>
          if (value? next).isNone then fault offset 2 "ill-formed sequence"
          else readFrom bytes fuel (some { start := offset }) (offset + 1) (next :: more) done
        | [] => readFrom bytes fuel (some { start := offset }) (offset + 1) [] done
      else if byte < 0x80 then
        readFrom bytes fuel none (offset + 1) rest (Char.ofNat byte.toNat :: done)
      else fault offset 1 "unexpected special character"
    | some s, byte :: rest =>
      match value? byte with
      | some value =>
        let bits := s.bits * 64 + value
        let size := s.size + 6
        if size < 16 then
          readFrom bytes fuel (some { s with bits, size }) (offset + 1) rest done
        else
          let (half, done) := addUnit s.half (bits / 2 ^ (size - 16)) done
          readFrom bytes fuel
            (some { s with bits := bits % 2 ^ (size - 16), size := size - 16, half })
            (offset + 1) rest done
      | none =>
        let through := offset + 1 - s.start
        if 6 ≤ s.size then fault s.start through "partial character in shift sequence"
        else if s.bits ≠ 0 then fault s.start through "non-zero padding bits in shift sequence"
        else
          let done :=
            match s.half with
            | some first => if byte < 0x80 && byte ≠ 43 then Half.ofUnit first :: done else done
            | none => done
          if byte = 45 then readFrom bytes fuel none (offset + 1) rest done
          else readFrom bytes fuel none offset (byte :: rest) done

def read (bytes : Bytes) : Outcome (List Char) :=
  readFrom bytes (2 * bytes.length + 1) none 0 bytes []

end Scalpel.Coding.Seven
