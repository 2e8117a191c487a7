import Scalpel.Text.Coding.Japanese
import Scalpel.Text.Coding.Korean

/-!
Encodings in bytes below 128 in which escapes change the set of characters. An escape designates a
set to one of three places; the bytes that follow are read by the set at the first place, or by the one
at the second place between two shift bytes. The set at the third place is for a single character
behind an escape of its own.
-/

set_option autoImplicit false

namespace Scalpel.Coding

open Scalpel

inductive Repertoire where
  | ascii
  | roman
  | narrow
  | japanese
  | japaneseOld
  | japaneseFurther
  | japaneseLevels (edition : Japanese.Edition)
  | japaneseFourth (edition : Japanese.Edition)
  | chinese
  | korean
  | western
  | greek
deriving DecidableEq, Repr

namespace Repertoire

def isWide : Repertoire → Bool
  | .japanese | .japaneseOld | .japaneseFurther | .japaneseLevels _ | .japaneseFourth _ | .chinese
  | .korean => true
  | .ascii | .roman | .narrow | .western | .greek => false

def final : Repertoire → Char
  | .ascii | .japanese => 'B'
  | .roman => 'J'
  | .narrow => 'I'
  | .japaneseOld => '@'
  | .japaneseFurther => 'D'
  | .japaneseLevels .first => 'O'
  | .japaneseLevels .second => 'Q'
  | .japaneseFourth _ => 'P'
  | .chinese | .western => 'A'
  | .korean => 'C'
  | .greek => 'F'

def plane : Repertoire → Plane
  | .japaneseFurther => Coding.japaneseFurther
  | .chinese => Coding.chinese
  | .korean => Coding.korean
  | _ => Coding.japanese

def text? (set : Repertoire) (bytes : Bytes) : Option (List Char) :=
  match set, bytes with
  | .ascii, byte :: _ => Japanese.alone (asciiChar? byte)
  | .roman, byte :: _ =>
    if byte = 0x5C then some ['\xa5']
    else if byte = 0x7E then some ['\u203e']
    else Japanese.alone (asciiChar? byte)
  | .narrow, byte :: _ => Japanese.alone (Japanese.narrowChar? (byte + 0x80))
  | .western, _ | .greek, _ => none
  | set, first :: second :: _ =>
    let row := first.toNat - 0x20
    let cell := second.toNat - 0x20
    match set with
    | .japaneseLevels edition =>
      -- the wide tilde is read as the narrow one
      if (row, cell) = (2, 18) then some ['~'] else edition.firstText? row cell
    | .japaneseFourth _ => Japanese.alone (Coding.japaneseFourth.char? row cell)
    | set => Japanese.alone (set.plane.char? row cell)
  | _, _ => none

def cellBytes (place : Nat × Nat) : Bytes :=
  [(0x20 + place.1).toUInt8, (0x20 + place.2).toUInt8]

def bytes? (set : Repertoire) (c : Char) : Option Bytes :=
  match set with
  | .ascii => (asciiByte? c).map ([·])
  | .roman =>
    match Japanese.romanByte? c, asciiByte? c with
    | some byte, _ => some [byte]
    | none, some byte => if byte = 0x5C || byte = 0x7E then none else some [byte]
    | none, none => none
  | .narrow => (Japanese.narrowByte? c).map fun byte => [byte - 0x80]
  | .western | .greek => none
  | .japaneseLevels edition =>
    -- the cell of the wide tilde is only read
    if edition.refuses c || c = '\uff5e' then none else (edition.thirdCell? c).map cellBytes
  | .japaneseFourth edition =>
    if edition.refuses c then none else (edition.fourthCell? c).map cellBytes
  | set => (set.plane.cell? c).map cellBytes

end Repertoire

/-- An encoding with escapes: its sets in the order in which a character is looked for, and what else
it knows. -/
structure Designated where
  label : String
  sets : List Repertoire
  /-- Wide sets stand at the second place, between shift bytes. -/
  shifts : Bool := false
  /-- Sets can be designated to the third place. -/
  singles : Bool := false
  /-- An escape can announce a revision of the set that the next one designates. -/
  revisions : Bool := false
deriving DecidableEq, Repr

namespace Designated

/-- The sets at the places, whether bytes stand between shifts, and whether they belong to an escape
that designates nothing. -/
structure State where
  first : Repertoire := .ascii
  second : Repertoire := .ascii
  third : Repertoire := .ascii
  shifted : Bool := false
  escaped : Bool := false

/-! ### Reading -/

def isFinal (byte : UInt8) : Bool :=
  64 ≤ byte && byte ≤ 90

/-- The length of the escape whose bytes from `count` on follow: nothing where they are cut off, zero
where no end is near. Fuel: no escape is longer. -/
def escapeLength (d : Designated) : Nat → Nat → Bytes → Option Nat
  | 0, _, _ => some 0
  | _, _, [] => none
  | fuel + 1, count, byte :: rest =>
    if 16 ≤ count then some 0
    else if isFinal byte then some (count + 1)
    else if d.revisions && byte = 38 && rest.head? == some 64 then
      escapeLength d fuel (count + 3) (rest.drop 2)
    else escapeLength d fuel (count + 1) rest

def designation? (d : Designated) (escape : List Char) : Option (Nat × Bool × Char) :=
  match escape with
  | ['\x1b', '$', final] => some (0, true, final)
  | ['\x1b', '(', final] => some (0, false, final)
  | ['\x1b', ')', final] => some (1, false, final)
  | ['\x1b', '.', final] => if d.singles then some (2, false, final) else none
  | ['\x1b', '$', '(', final] => some (0, true, final)
  | ['\x1b', '$', ')', final] => some (1, true, final)
  | ['\x1b', _, _, '\x1b', '$', 'B'] => if d.revisions then some (0, true, 'B') else none
  | _ => none

def set? (d : Designated) (wide : Bool) (final : Char) : Option Repertoire :=
  (.ascii :: d.sets).find? fun set => set.isWide = wide && set.final = final

def readEscape (d : Designated) (state : State) (bytes : Bytes) : Step State :=
  match d.escapeLength 16 1 (bytes.drop 1) with
  | none => .incomplete
  | some 0 => .illegal 1
  | some length =>
    let escape := (bytes.take length).map fun byte => Char.ofNat byte.toNat
    match d.designation? escape with
    | none => .illegal length
    | some (place, wide, final) =>
      match place, d.set? wide final with
      | 0, some set => .found [] length { state with first := set }
      | 1, some set => .found [] length { state with second := set }
      | _, some set => .found [] length { state with third := set }
      | _, none => .illegal length

def greekChar? (n : Nat) : Option Char :=
  if n < 0xA0 then some (Char.ofNat n)
  else if n < 0xC0 && 0x288F3BC9 / 2 ^ (n - 0xA0) % 2 = 1 then some (Char.ofNat n)
  else if 0xB4 ≤ n && n ≤ 0xFE && (0xD4 ≤ n || 0xBFFFFD77 / 2 ^ (n - 0xB4) % 2 = 1) then
    some (Char.ofNat (0x2D0 + n))
  else if n = 0xA1 then some '\u2018'
  else if n = 0xA2 then some '\u2019'
  else if n = 0xAF then some '\u2015'
  else none

def single? (set : Repertoire) (byte : UInt8) : Option Char :=
  match set with
  | .western => if byte < 0x80 then some (Char.ofNat (byte.toNat + 0x80)) else none
  | .greek => greekChar? ((byte.toNat + 0x80) % 256)
  | _ => asciiChar? byte

def readPlain (state : State) (bytes : Bytes) : Step State :=
  let set := if state.shifted then state.second else state.first
  let width := if set.isWide then 2 else 1
  if bytes.length < width then .incomplete
  else
    match set.text? bytes with
    | some text => .found text width state
    | none => .illegal width

def read (d : Designated) (state : State) : Bytes → Step State
  | [] => .incomplete
  | byte :: rest =>
    let itself := Char.ofNat byte.toNat
    if state.escaped then .found [itself] 1 { state with escaped := !isFinal byte }
    else if byte = 27 then
      match rest with
      | [] => .incomplete
      | second :: rest =>
        if [40, 41, 36, 46, 38].contains second then d.readEscape state (byte :: second :: rest)
        else if d.singles && second = 78 then
          match rest with
          | [] => .incomplete
          | third :: _ =>
            match single? state.third third with
            | some c => .found [c] 3 state
            | none => .illegal 3
        else .found ['\x1b'] 1 { state with escaped := true }
    else if d.shifts && byte = 15 then .found [] 1 { state with shifted := false }
    else if d.shifts && byte = 14 then .found [] 1 { state with shifted := true }
    else if byte = 10 then .found ['\n'] 1 { state with shifted := false }
    else if byte < 32 then .found [itself] 1 state
    else if 0x80 ≤ byte then .illegal 1
    else readPlain state (byte :: rest)

/-! ### Writing -/

def ascii (text : String) : Bytes :=
  text.toList.map fun c => c.toNat.toUInt8

def escape (place : Nat) (set : Repertoire) : Bytes :=
  let wide := if set.isWide then "$" else ""
  let short := place = 0 && set = .japanese
  let where_ := if short then "" else if place = 0 then "(" else ")"
  0x1B :: ascii (wide ++ where_ ++ set.final.toString)

/-- Whether a character is held back until something follows it: one that begins a pair. Pairs are
read and not written. -/
def holdsBack (d : Designated) (c : Char) : Bool :=
  Japanese.Edition.beginsPair c && d.sets.any fun
    | .japaneseLevels _ => true
    | _ => false

def write (d : Designated) (state : State) (c : Char) (next : Option Char) :
    Option (Bytes × State × Bool) :=
  match asciiByte? c with
  | some byte =>
    some ((if state.first = .ascii then [] else escape 0 .ascii)
      ++ (if state.shifted then [15] else []) ++ [byte],
      { state with first := .ascii, shifted := false }, false)
  | none =>
    if next.isNone && d.holdsBack c then some ([], state, false)
    else
      (d.sets.findSome? fun set => (set.bytes? c).map (set, ·)).map fun (set, bytes) =>
        if d.shifts then
          ((if state.second = set then [] else escape 1 set)
            ++ (if state.shifted then [] else [14]) ++ bytes,
            { state with second := set, shifted := true }, false)
        else
          ((if state.first = set then [] else escape 0 set) ++ bytes,
            { state with first := set }, false)

/-! ### The encodings -/

def forJapanese : Designated where
  label := "iso2022_jp"
  sets := [.japanese, .roman, .japaneseOld]
  revisions := true

def withFurther : Designated where
  label := "iso2022_jp_1"
  sets := [.japanese, .japaneseFurther, .roman, .japaneseOld]
  revisions := true

def withOthers : Designated where
  label := "iso2022_jp_2"
  sets := [.japanese, .japaneseFurther, .korean, .chinese, .roman, .japaneseOld, .western, .greek]
  singles := true
  revisions := true

def withNarrow : Designated where
  label := "iso2022_jp_ext"
  sets := [.japanese, .japaneseFurther, .roman, .narrow, .japaneseOld]
  revisions := true

def withLevels (edition : Japanese.Edition) : Designated where
  label := match edition with
    | .first => "iso2022_jp_3"
    | .second => "iso2022_jp_2004"
  sets := [.japanese, .japaneseLevels edition, .japaneseFourth edition]
  revisions := true

def forKorean : Designated where
  label := "iso2022_kr"
  sets := [.korean]
  shifts := true

end Designated

end Scalpel.Coding
