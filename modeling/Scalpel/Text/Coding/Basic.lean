import Scalpel.Failure
import Scalpel.Text.Half

/-!
What all encodings of text as bytes have in common: the words for bytes that cannot be read and for
characters that cannot be written, and the two loops. Reading takes one step after another off the
front of the bytes, writing one character after another off the front of the text; both may carry a
state from step to step.
-/

set_option autoImplicit false

namespace Scalpel.Coding

open Scalpel

variable [Halves]

/-! ### Failures -/

def places (single many : String) (first count : Nat) : String :=
  if count = 1 then single ++ " in position " ++ toString first
  else many ++ " in position " ++ toString first ++ "-" ++ toString (first + count - 1)

def unreadable {α : Type} (label : String) (bytes : Bytes) (first count : Nat)
    (reason : String) : Outcome α :=
  let byte := String.ofList (Text.hex 2 ((bytes.drop first).headD 0).toNat)
  .error (.undecodable ("'" ++ label ++ "' codec can't decode "
    ++ places ("byte 0x" ++ byte) "bytes" first count ++ ": " ++ reason))

def unwritable {α : Type} (label : String) (text : List Char) (first count : Nat)
    (reason : String) : Outcome α :=
  let c := (text.drop first).headD '\x00'
  let character := "character '" ++ String.ofList (Text.numbered (Half.number c)) ++ "'"
  .error (.unencodable ("'" ++ label ++ "' codec can't encode "
    ++ places character "characters" first count ++ ": " ++ reason))

def firstRun (passes : Char → Bool) (text : List Char) : Option (Nat × Nat) :=
  let before := (text.takeWhile passes).length
  let run := ((text.drop before).takeWhile fun c => !passes c).length
  if run = 0 then none else some (before, run)

def whereAll (label reason : String) (passes : Char → Bool) (bytes : List Char → Bytes)
    (text : List Char) : Outcome Bytes :=
  match firstRun passes text with
  | some (first, count) => unwritable label text first count reason
  | none => .ok (bytes text)

def writeEach (label reason : String) (bytes? : Char → Option Bytes) (text : List Char) :
    Outcome Bytes :=
  whereAll label reason (fun c => (bytes? c).isSome)
    (fun text => text.flatMap fun c => (bytes? c).getD []) text

def writeWhole (label : String) (bytes : List Char → Bytes) (text : List Char) : Outcome Bytes :=
  whereAll label "surrogates not allowed" (fun c => !Half.isHalf c) bytes text

/-! ### Steps -/

/-- What stands at the front of bytes: characters in a number of bytes, a number of bytes without
meaning, or the beginning of something that is cut off. -/
inductive Step (σ : Type) where
  | found (text : List Char) (count : Nat) (state : σ)
  | illegal (count : Nat)
  | incomplete

def readSteps {σ : Type} (label : String) (step : σ → Bytes → Step σ) (bytes : Bytes) :
    Nat → σ → Nat → Bytes → List Char → Outcome (List Char)
  | 0, _, _, _, done => .ok done.reverse
  | _, _, _, [], done => .ok done.reverse
  | fuel + 1, state, offset, rest, done =>
    match step state rest with
    | .found text count state =>
      readSteps label step bytes fuel state (offset + count) (rest.drop count)
        (text.reverse ++ done)
    | .illegal count => unreadable label bytes offset count "illegal multibyte sequence"
    | .incomplete =>
      unreadable label bytes offset rest.length "incomplete multibyte sequence"

def readBy {σ : Type} (label : String) (start : σ) (step : σ → Bytes → Step σ) (bytes : Bytes) :
    Outcome (List Char) :=
  readSteps label step bytes bytes.length start 0 bytes []

/-- The bytes of characters that are written after the bytes that are done, in reverse order. A step sees
the character that follows, and says whether it has written that one as well. -/
def writeSteps {σ : Type} (label : String)
    (step : σ → Char → Option Char → Option (Bytes × σ × Bool)) (text : List Char) :
    σ → Bool → Nat → List Char → List Bytes → Outcome Bytes
  | _, _, _, [], done => .ok done.reverse.flatten
  | state, true, place, _ :: rest, done => writeSteps label step text state false (place + 1) rest done
  | state, false, place, c :: rest, done =>
    match step state c rest.head? with
    | some (bytes, state, both) =>
      writeSteps label step text state both (place + 1) rest (bytes :: done)
    | none => unwritable label text place 1 "illegal multibyte sequence"

def writeAhead {σ : Type} (label : String) (start : σ)
    (step : σ → Char → Option Char → Option (Bytes × σ × Bool)) (text : List Char) :
    Outcome Bytes :=
  writeSteps label step text start false 0 text []

def writeBy {σ : Type} (label : String) (start : σ) (step : σ → Char → Option (Bytes × σ))
    (text : List Char) : Outcome Bytes :=
  writeAhead label start (fun state c _ => (step state c).map fun (bytes, state) =>
    (bytes, state, false)) text

def asciiChar? (byte : UInt8) : Option Char :=
  if byte < 0x80 then some (Char.ofNat byte.toNat) else none

def asciiByte? (c : Char) : Option UInt8 :=
  if c.toNat < 0x80 then some c.toNat.toUInt8 else none

/-! ### One byte for each character -/

def outOfRange (limit : Nat) : String :=
  "ordinal not in range(" ++ toString limit ++ ")"

def writeBelow (label : String) (limit : Nat) (text : List Char) : Outcome Bytes :=
  writeEach label (outOfRange limit)
    (fun c => if c.toNat < limit then some [c.toNat.toUInt8] else none) text

def readAscii (bytes : Bytes) : Outcome (List Char) :=
  let before := (bytes.takeWhile (· < 0x80)).length
  if before = bytes.length then .ok (bytes.filterMap asciiChar?)
  else unreadable "ascii" bytes before 1 (outOfRange 128)

end Scalpel.Coding

/-! ### Planes of characters

A plane has numbered rows with numbered cells; most standards have 94 of each,
counted from one. An encoding says which bytes stand for a row and which for a cell.
-/

namespace Scalpel.Coding

/-- A plane: the numbers of its rows and the characters of their cells from the first one on. -/
structure Plane where
  rows : List (Nat × String)

namespace Plane

def nothing : Char := '\ufffd'

def char? (plane : Plane) (row cell : Nat) : Option Char :=
  match plane.rows.lookup row, cell with
  | some text, cell + 1 => (text.toList[cell]?).bind fun c => if c = nothing then none else some c
  | _, _ => none

def cell? (plane : Plane) (c : Char) : Option (Nat × Nat) :=
  if c = nothing then none
  else plane.rows.findSome? fun (row, text) => (text.toList.idxOf? c).map fun i => (row, i + 1)

def lastCell? (plane : Plane) (passes : Nat × Nat → Bool) (c : Char) : Option (Nat × Nat) :=
  let cells := plane.rows.flatMap fun (row, text) =>
    (text.toList.zipIdx.filter fun (d, _) => d = c).map fun (_, i) => (row, i + 1)
  if c = nothing then none else (cells.filter passes).getLast?

/-- The characters of a block that a plane does not have, in order. -/
def unlisted (plane : Plane) (first count : Nat) : Array Char :=
  let listed := plane.rows.foldl (fun (listed : Array Bool) row =>
    row.2.toList.foldl (fun (listed : Array Bool) c =>
      if first ≤ c.toNat then listed.setIfInBounds (c.toNat - first) true else listed) listed)
    (Array.replicate count false)
  (((List.range count).filter fun i => !listed.getD i false).map fun i =>
    Char.ofNat (first + i)).toArray

end Plane

/-- Characters that follow one another in a row: the row, the cell of the first one and the
characters. -/
abbrev Run := Nat × Nat × String

def runChar? (runs : List Run) (row cell : Nat) : Option Char :=
  runs.findSome? fun (at_, first, text) =>
    if at_ = row && first ≤ cell then text.toList[cell - first]? else none

def runCell? (runs : List Run) (c : Char) : Option (Nat × Nat) :=
  runs.findSome? fun (row, first, text) => (text.toList.idxOf? c).map fun i => (row, first + i)

end Scalpel.Coding
