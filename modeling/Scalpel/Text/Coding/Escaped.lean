import Scalpel.Text.CharName.Lookup
import Scalpel.Text.Coding.Unicode

/-!
Text with escapes. A backslash and a letter stand for a character that has no byte of its own, by its
number or by a name for the letter; all other bytes stand for the characters with their numbers. The
raw form knows only the escapes of four and of eight digits.
-/

set_option autoImplicit false

namespace Scalpel.Coding.Escaped

open Scalpel

variable [Halves]

def byteChar (byte : UInt8) : Char :=
  Char.ofNat byte.toNat

/-! ### Writing -/

/-- A character in the form in which only printable ASCII stands for itself. -/
def writtenChar (c : Char) : List Char :=
  if c = '\\' then ['\\', '\\']
  else if c = '\t' then ['\\', 't']
  else if c = '\n' then ['\\', 'n']
  else if c = '\r' then ['\\', 'r']
  else if 0x20 ≤ c.toNat && c.toNat < 0x7F then [c]
  else Text.numbered (Half.number c)

def writtenRaw (c : Char) : List Char :=
  if c.toNat < 0x100 then [c] else Text.numbered (Half.number c)

def write (raw : Bool) (text : List Char) : Bytes :=
  (text.flatMap (if raw then writtenRaw else writtenChar)).map fun c => c.toNat.toUInt8

/-! ### Reading -/

/-- The number that hexadecimal digits at the front of bytes write, and how many there are, up to a
count. -/
def hexNumber : Nat → Nat → Bytes → Nat × Nat
  | 0, value, _ => (value, 0)
  | _, value, [] => (value, 0)
  | count + 1, value, byte :: rest =>
    match Json.hexDigit? (byteChar byte) with
    | none => (value, 0)
    | some digit =>
      let (value, used) := hexNumber count (value * 16 + digit) rest
      (value, used + 1)

def octalNumber (bytes : Bytes) : Nat × Nat :=
  let digits := (bytes.take 3).takeWhile fun byte => 48 ≤ byte && byte < 56
  (digits.foldl (fun n byte => n * 8 + (byte.toNat - 48)) 0, digits.length)

def simple? (byte : UInt8) : Option Char :=
  let c := byteChar byte
  if c = '\\' || c = '\'' || c = '"' then some c
  else if c = 'b' then some '\x08'
  else if c = 'f' then some '\x0c'
  else if c = 't' then some '\t'
  else if c = 'n' then some '\n'
  else if c = 'r' then some '\r'
  else if c = 'v' then some '\x0b'
  else if c = 'a' then some '\x07'
  else none

def digitCount? (raw : Bool) (byte : UInt8) : Option Nat :=
  if byte = 117 then some 4
  else if byte = 85 then some 8
  else if byte = 120 && !raw then some 2
  else none

def numberChar (n : Nat) : Char :=
  if 0xD800 ≤ n && n < 0xE000 then Half.ofUnit n else Char.ofNat n

/-- What an escape after a backslash comes to: characters and the number of bytes after the
backslash, or a fault that reaches so far. -/
inductive Escape where
  | text (chars : List Char) (count : Nat)
  | fault (reason : String) (count : Nat)

/-- The escape with a number of hexadecimal digits; `rest` follows the letter. -/
def numeric (raw : Bool) (letter : UInt8) (count : Nat) (rest : Bytes) : Escape :=
  let (value, used) := hexNumber count 0 rest
  if used < count then
    .fault ("truncated \\" ++ String.ofList (byteChar letter :: List.replicate count 'X')
      ++ " escape") (used + 1)
  else if 0x10FFFF < value then
    .fault (if raw then "\\Uxxxxxxxx out of range" else "illegal Unicode character") (count + 1)
  else .text [numberChar value] (count + 1)

def named (rest : Bytes) : Escape :=
  match rest with
  | 123 :: text =>
    let name := text.takeWhile (· ≠ 125)
    let size := name.length
    if size < text.length && 0 < size then
      match Text.CharName.char? (name.map byteChar) with
      | some c => .text [c] (size + 3)
      | none => .fault "unknown Unicode character name" (size + 3)
    else .fault "malformed \\N character escape" (size + 2)
  | _ => .fault "malformed \\N character escape" 1

def escape (raw : Bool) : Bytes → Escape
  | [] => if raw then .text ['\\'] 0 else .fault "\\ at end of string" 0
  | letter :: rest =>
    match digitCount? raw letter with
    | some count => numeric raw letter count rest
    | none =>
      if raw then .text ['\\', byteChar letter] 1
      else if letter = 10 then .text [] 1
      else if letter = 78 then named rest
      else
        match simple? letter with
        | some c => .text [c] 1
        | none =>
          let (value, used) := octalNumber (letter :: rest)
          if used = 0 then .text ['\\', byteChar letter] 1 else .text [Char.ofNat value] used

/-- The characters of bytes from an offset on. Fuel: each step takes at least one byte. -/
def readFrom (raw : Bool) (bytes : Bytes) : Nat → Nat → Bytes → List Char →
    Outcome (List Char)
  | 0, _, _, done => .ok done.reverse
  | _, _, [], done => .ok done.reverse
  | fuel + 1, offset, byte :: rest, done =>
    if byte ≠ 92 then readFrom raw bytes fuel (offset + 1) rest (byteChar byte :: done)
    else
      match escape raw rest with
      | .text chars count =>
        readFrom raw bytes fuel (offset + 1 + count) (rest.drop count) (chars.reverse ++ done)
      | .fault reason count =>
        unreadable (if raw then "rawunicodeescape" else "unicodeescape") bytes offset (count + 1)
          reason

def read (raw : Bool) (bytes : Bytes) : Outcome (List Char) :=
  readFrom raw bytes bytes.length 0 bytes []

end Scalpel.Coding.Escaped
