import Scalpel.Number

/-!
Halves of characters. A text in JSON may write one half of a surrogate pair without the other, and no
character stands for such a half. A half is kept as a character of a block that is set apart for
halves, so that texts with halves are texts like any other; only where a text leaves the program, or
is ordered, the halves are told apart. The block is chosen for each run outside of what the run
reads, so that no character is mistaken for a half.
-/

set_option autoImplicit false

namespace Scalpel

/-- The block of characters that is set apart for halves. -/
class Halves where
  /-- The number of the block: it begins at this multiple of its size. -/
  block : Nat
  /-- The block lies beyond the surrogates and within the characters. -/
  isWithin : 32 ≤ block ∧ block < 544

namespace Halves

def size : Nat := 0x800

def candidates : List Nat :=
  (List.range 384).map fun i => if i < 320 then i + 128 else i + 160

theorem isWithin_of_mem_candidates {block : Nat} (h : block ∈ candidates) :
    32 ≤ block ∧ block < 544 := by
  obtain ⟨i, hi, rfl⟩ := List.mem_map.1 h
  have := List.mem_range.1 hi
  split <;> omega

def hexNumber? (digits : List Char) : Option Nat :=
  digits.foldlM (fun n c =>
    if '0' ≤ c && c ≤ '9' then some (n * 16 + (c.toNat - 48))
    else if 'a' ≤ c && c ≤ 'f' then some (n * 16 + (c.toNat - 87))
    else if 'A' ≤ c && c ≤ 'F' then some (n * 16 + (c.toNat - 55))
    else none) 0

/-- The blocks that a text touches: those of its characters, and those of characters that it writes as
pairs of units, as numbers of eight digits or as the bytes of UTF-8, each byte with a mark before it or
without. -/
def touched (text : List Char) : List Nat :=
  match text with
  | [] => []
  | c :: rest =>
    if 0x10000 ≤ c.toNat then c.toNat / size :: touched rest
    else if c = 'u' then
      match hexNumber? (rest.take 4) with
      | some unit =>
        if 0xD800 ≤ unit && unit < 0xDC00 then (0x10000 + (unit - 0xD800) * 0x400) / size :: touched rest
        else touched rest
      | none => touched rest
    else if c = 'U' then ((hexNumber? (rest.take 8)).getD 0) / size :: touched rest
    else if c = 'F' || c = 'f' then
      let digits := (rest.take 12).filter fun c => c ≠ '%' && c ≠ '\\' && c ≠ 'x'
      match hexNumber? (digits.take 5) with
      | some bytes =>
        (bytes / 65536 % 8 * 128 + bytes / 256 % 64 * 2 + bytes % 64 / 32) :: touched rest
      | none => touched rest
    else touched rest

def mark (text : List Char) : Nat :=
  text.foldl (fun n c => (n * 31 + c.toNat) % 4294967291) 7

def candidatesFrom (start : Nat) : List Nat :=
  candidates.drop start ++ candidates.take start

theorem mem_candidates_of_mem_from {block start : Nat} (h : block ∈ candidatesFrom start) :
    block ∈ candidates := by
  rcases List.mem_append.1 h with h | h
  · exact List.mem_of_mem_drop h
  · exact List.mem_of_mem_take h

@[reducible] def avoiding (text : String) : Halves :=
  let taken := (touched text.toList).eraseDups
  let start := mark text.toList % candidates.length
  match h : (candidatesFrom start).find? fun block => !taken.contains block with
  | some block =>
    ⟨block, isWithin_of_mem_candidates
      (mem_candidates_of_mem_from (List.mem_of_find?_eq_some h))⟩
  | none => ⟨480, by decide⟩

end Halves

namespace Half

variable [Halves]

def first : Nat :=
  Halves.block * Halves.size

def ofUnit (unit : Nat) : Char :=
  Char.ofNat (first + (unit - 0xD800))

def unit? (c : Char) : Option Nat :=
  if first ≤ c.toNat && c.toNat < first + Halves.size then some (c.toNat - first + 0xD800) else none

def isHalf (c : Char) : Bool :=
  (unit? c).isSome

def number (c : Char) : Nat :=
  (unit? c).getD c.toNat

def inOrder (a b : String) : Bool :=
  !(b.toList.map number).lex (a.toList.map number)

end Half

end Scalpel
