import Scalpel.Document.Edit

/-!
Positions in a text as offsets, and edits applied to it. Characters are code points and only a line
feed ends a line. A position past the end of its line stands for the end of the line, and a line past
the end of the text for the end of the text. Edits that are all meant for one text are applied from
the bottom up, so that none moves the place of a later one.
-/

set_option autoImplicit false

namespace Scalpel.Document

open Scalpel

def lines : List Char → List (List Char)
  | [] => [[]]
  | '\n' :: rest => [] :: lines rest
  | c :: rest =>
    match lines rest with
    | [] => [[c]]
    | line :: more => (c :: line) :: more

def offsetIn (character : Int) : Nat → List (List Char) → Nat
  | _, [] => 0
  | 0, line :: _ => min character.toNat line.length
  | n + 1, [line] => offsetIn character n [] + line.length
  | n + 1, line :: next :: rest => line.length + 1 + offsetIn character n (next :: rest)

def offsetAt (text : List Char) (p : Position) : Nat :=
  match p.line with
  | .negSucc _ => 0
  | .ofNat line => offsetIn p.character line (lines text)

/-- A text with a new text in the place of what lies between two offsets, in whichever order they
come. -/
def splice (text : List Char) (a b : Nat) (new : List Char) : List Char :=
  text.take (min a b) ++ new ++ text.drop (max a b)

def applyEdit (text : String) (range : Range) (new : String) : String :=
  let chars := text.toList
  String.ofList (splice chars (offsetAt chars range.start) (offsetAt chars range.stop) new.toList)

/-- The order of edits with their numbers, the later place first: an edit comes before another when
its start, then its end, then its number is greater. -/
def atOrAfter {τ : Type} (a b : TextEdit τ × Nat) : Bool :=
  if a.1.range.start ≠ b.1.range.start then b.1.range.start.before a.1.range.start
  else if a.1.range.stop ≠ b.1.range.stop then b.1.range.stop.before a.1.range.stop
  else b.2 ≤ a.2

/-- Edits from the bottom up. Of edits of one place the last comes first, so that the new texts of
several inserts there end up in the order of the list. -/
def bottomUp {τ : Type} (edits : List (TextEdit τ)) : List (TextEdit τ) :=
  (edits.zipIdx.mergeSort atOrAfter).map (·.1)

def applyEdits (text : String) (edits : List (TextEdit String)) : String :=
  (bottomUp edits).foldl (fun text edit => applyEdit text edit.range edit.newText) text

def applyReceived (text : String) (edits : List (TextEdit Json)) : Outcome String := do
  (bottomUp edits).foldlM (fun text edit => do
    let edit ← edit.checked
    return applyEdit text edit.range edit.newText) text

/-- A text after a list of changes, each meant for the result of those before it. -/
def applyChanges (text : String) (changes : List ContentChange) : String :=
  changes.foldl (fun text change =>
    match change.range with
    | none => change.text
    | some range => applyEdit text range change.text) text

/-- Where code goes that is put on a line of its own after a symbol, and whether a line feed goes in
front of it. The place is the start of the line after the symbol's last line. Where that is the last
line of a text that does not end with a line feed, the place is the end of the text, behind a line
feed. -/
def placeAfter (text : String) (symbol : Range) : Range × Bool :=
  let last :=
    if symbol.stop.character = 0 && symbol.start.line < symbol.stop.line then symbol.stop.line - 1
    else symbol.stop.line
  let lines := lines text.toList
  let final := lines.length - 1
  let ended := text.toList.getLast? = some '\n'
  if Int.ofNat final ≤ last && !ended then
    (.point (Int.ofNat final) (Int.ofNat (lines.getLastD []).length), true)
  else (.point (last + 1), false)

/-- The edit that puts code on a line of its own after a symbol. -/
def insertionAfter (text : String) (symbol : Range) (code : String) : TextEdit String :=
  let (range, behind) := placeAfter text symbol
  { range, newText := (if behind then "\n" else "") ++ code ++ "\n" }

end Scalpel.Document
