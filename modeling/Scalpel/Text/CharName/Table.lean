/-!
Names of characters as a text. The names follow one another in the order of the characters, and an entry
says how much of the name before it keeps: a letter for the number of characters that are kept, and the
rest of the name. A mark with a number says which character comes next where there is a gap.
-/

set_option autoImplicit false

namespace Scalpel.Text.CharName

def placeMark : Char := '>'

def kept? (c : Char) : Option Nat :=
  if 'a' ≤ c && c ≤ 'z' then some (c.toNat - 0x61)
  else if 'à' ≤ c && c ≤ 'ÿ' then some (c.toNat - 0xE0 + 26)
  else none

def entriesOf (table : List Char) : List (Char × List Char) :=
  (table.foldr (fun c (text, entries) =>
    if c = '\n' then (text, entries)
    else if c = placeMark || (kept? c).isSome then ([], (c, text) :: entries)
    else (c :: text, entries)) ([], [])).2

def placeOf (digits : List Char) : Nat :=
  digits.foldl (fun n c => n * 16 + (if c.isDigit then c.toNat - 48 else c.toNat - 55)) 0

def namesFrom (before : List Char) (place : Nat) : List (Char × List Char) → List (List Char × Nat)
  | [] => []
  | (mark, text) :: rest =>
    if mark = placeMark then namesFrom before (placeOf text) rest
    else
      let name := before.take ((kept? mark).getD 0) ++ text
      (name, place) :: namesFrom name (place + 1) rest

def namesIn (table : String) : List (List Char × Nat) :=
  namesFrom [] 0 (entriesOf table.toList)

end Scalpel.Text.CharName
