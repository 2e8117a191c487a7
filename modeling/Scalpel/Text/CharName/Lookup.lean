import Scalpel.Text.CharName.Alphabets
import Scalpel.Text.CharName.Ancient
import Scalpel.Text.CharName.Forms
import Scalpel.Text.CharName.Radicals
import Scalpel.Text.CharName.Pictures
import Scalpel.Text.CharName.Symbols

/-!
Characters by their names. Syllables of Korean have names that are put together from the names of their
sounds, and ideographs have their numbers as names; all other names are listed. The names are those of
version 14 of the character standard.
-/

set_option autoImplicit false

namespace Scalpel.Text.CharName

/-! ### Korean syllables -/

def firstSounds : List String :=
  ["G", "GG", "N", "D", "DD", "R", "M", "B", "BB", "S", "SS", "", "J", "JJ", "C", "K", "T", "P", "H"]

def vowels : List String :=
  ["A", "AE", "YA", "YAE", "EO", "E", "YEO", "YE", "O", "WA", "WAE", "OE", "YO", "U", "WEO", "WE", "WI",
    "YU", "EU", "YI", "I"]

def lastSounds : List String :=
  ["", "G", "GG", "GS", "N", "NJ", "NH", "D", "L", "LG", "LM", "LB", "LS", "LT", "LP", "LH", "M", "B",
    "BS", "S", "SS", "NG", "J", "C", "K", "T", "P", "H"]

def sound? (sounds : List String) (text : List Char) : Option (Nat × List Char) :=
  let fitting := sounds.zipIdx.filter fun (sound, _) => sound.toList.isPrefixOf text
  fitting.foldl (fun best (sound, i) =>
    let rest := text.drop sound.length
    match best with
    | none => some (i, rest)
    | some (_, other) => if rest.length < other.length then some (i, rest) else best) none

def syllable? (sounds : List Char) : Option Nat := do
  let (first, sounds) ← sound? firstSounds sounds
  let (vowel, sounds) ← sound? vowels sounds
  let (last, sounds) ← sound? lastSounds sounds
  if sounds.isEmpty then
    return 0xAC00 + (first * vowels.length + vowel) * lastSounds.length + last
  else none

/-! ### Numbers as names -/

def ideographs : List (Nat × Nat) :=
  [(0x3400, 0x4DBF), (0x4E00, 0x9FFF), (0x20000, 0x2A6DF), (0x2A700, 0x2B738), (0x2B740, 0x2B81D),
    (0x2B820, 0x2CEA1), (0x2CEB0, 0x2EBE0), (0x30000, 0x3134A)]

/-- Further characters whose names end in their numbers: what their names begin with, and their
ranges. -/
def numberedNames : List (String × List (Nat × Nat)) :=
  [("CJK COMPATIBILITY IDEOGRAPH-", [(0xF900, 0xFA6D), (0xFA70, 0xFAD9), (0x2F800, 0x2FA1D)]),
    ("KHITAN SMALL SCRIPT CHARACTER-", [(0x18B00, 0x18CD5)]),
    ("NUSHU CHARACTER-", [(0x1B170, 0x1B2FB)])]

def isAmong (ranges : List (Nat × Nat)) (n : Nat) : Bool :=
  ranges.any fun (first, last) => first ≤ n && n ≤ last

def writtenNumber? (digits : List Char) : Option Nat :=
  let isDigit (c : Char) : Bool := c.isDigit || ('A' ≤ c && c ≤ 'F')
  if (digits.length = 4 || digits.length = 5) && digits.all isDigit then some (placeOf digits) else none

def behind? (front : String) (text : List Char) : Option (List Char) :=
  if front.toList.isPrefixOf text then some (text.drop front.length) else none

def numbered? (name : List Char) : Option Nat :=
  numberedNames.findSome? fun (front, ranges) => do
    let digits ← behind? front name
    let n ← writtenNumber? digits
    if isAmong ranges n && digits.head? ≠ some '0' then return n else none

/-! ### Names -/

def listed? (name : List Char) : Option Nat :=
  [alphabets, syllabaries, symbols, radicals, forms, ancient, styles, pictures, others].findSome? fun table =>
    (namesIn table).lookup name

/-- The character of a name. Small letters stand for capital ones, but not in the names of syllables and of
ideographs. -/
def char? (name : List Char) : Option Char :=
  let capital := name.map Char.toUpper
  let number :=
    match behind? "HANGUL SYLLABLE " name, behind? "CJK UNIFIED IDEOGRAPH-" name with
    | some sounds, _ => syllable? sounds
    | none, some digits => (writtenNumber? digits).filter (isAmong ideographs)
    | none, none => numbered? capital <|> listed? capital
  number.map Char.ofNat

end Scalpel.Text.CharName
