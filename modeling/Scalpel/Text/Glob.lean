import Scalpel.Text.Half

/-!
Patterns for file names. A star stands for any text, a question mark for any character, and brackets
for one character of a set or, after an exclamation mark, for one outside it. A bracket that is not
closed stands for itself. A pattern is read into tokens, and a name matches when the tokens cover it
from end to end.
-/

set_option autoImplicit false

namespace Scalpel.Glob

inductive Token where
  | star
  | any
  | set (negated : Bool) (ranges : List (Char × Char))
  | literal (c : Char)
deriving DecidableEq, Repr

/-- The pieces of a set between the hyphens that make ranges. A hyphen makes a range when it has a
character before it and one after it; the first `skip` characters are passed over, so that the end of
a range begins no other one. The characters of the current piece are in reverse order. -/
def pieces : Nat → List Char → List Char → List (List Char)
  | _, done, [] => [done.reverse]
  | 0, done, '-' :: next :: rest => done.reverse :: pieces 2 [] (next :: rest)
  | skip, done, c :: rest => pieces (skip - 1) (c :: done) rest

variable [Halves]

/-- Pieces of which the ranges that run backwards are taken out, with their ends. -/
def forward : List (List Char) → List (List Char)
  | [] => []
  | first :: rest =>
    match forward rest with
    | [] => [first]
    | second :: more =>
      match first.getLast?, second with
      | some low, high :: tail =>
        if Half.number high < Half.number low then (first.dropLast ++ tail) :: more else first :: second :: more
      | _, _ => first :: second :: more

/-- The ranges of a set: its single characters, and the ranges that join two pieces. A hyphen with
no character before it is a character of the set. -/
def rangesOf (pieces : List (List Char)) : List (Char × Char) :=
  pieces.flatten.map (fun c => (c, c))
    ++ ((pieces.zip pieces.tail).filterMap fun (first, second) =>
      match first.getLast?, second.head? with
      | some low, some high => some (low, high)
      | none, some _ => some ('-', '-')
      | _, none => none)

/-- How many characters at the front of a set begin no range: the first one, and the exclamation mark
before it. -/
def lead : List Char → Nat
  | '!' :: _ => 2
  | _ => 1

/-- The set that stands between brackets. An exclamation mark negates it when it is the first
character that the ranges running backwards leave. -/
def setOf (body : List Char) : Token :=
  match forward (pieces (lead body) [] body) with
  | ('!' :: first) :: rest => .set true (rangesOf (first :: rest))
  | all => .set false (rangesOf all)

def closing? (text : List Char) : Option (List Char × List Char) :=
  let (front, rest) :=
    match text with
    | '!' :: ']' :: rest => (['!', ']'], rest)
    | '!' :: rest => (['!'], rest)
    | ']' :: rest => ([']'], rest)
    | rest => ([], rest)
  let body := rest.takeWhile (· ≠ ']')
  match rest.drop body.length with
  | _ :: after => some (front ++ body, after)
  | [] => none

/-- The tokens of a pattern. Fuel: each call reads at least one character. -/
def tokens : Nat → List Char → List Token
  | 0, _ => []
  | _, [] => []
  | fuel + 1, '*' :: rest => .star :: tokens fuel rest
  | fuel + 1, '?' :: rest => .any :: tokens fuel rest
  | fuel + 1, '[' :: rest =>
    match closing? rest with
    | some (body, after) => setOf body :: tokens fuel after
    | none => .literal '[' :: tokens fuel rest
  | fuel + 1, c :: rest => .literal c :: tokens fuel rest

def Token.accepts : Token → Char → Bool
  | .star, _ => false
  | .any, _ => true
  | .set negated ranges, c =>
    let n := Half.number c
    (ranges.any fun r => Half.number r.1 ≤ n && n ≤ Half.number r.2) != negated
  | .literal d, c => c = d

def ends : List Char → List (List Char)
  | [] => [[]]
  | c :: rest => (c :: rest) :: ends rest

/-- What tokens can leave of a text of which one of several ends is still to be read. The ends stand
from the longest to the shortest, so that a star, which may leave any end of any of them, leaves the
ends of the first. -/
def remainders : List Token → List (List Char) → List (List Char)
  | [], left => left
  | .star :: rest, left => remainders rest ((left.head?.map ends).getD [])
  | token :: rest, left =>
    remainders rest (left.filterMap fun
      | c :: more => if token.accepts c then some more else none
      | [] => none)

def covers (tokens : List Token) (text : List Char) : Bool :=
  (remainders tokens [text]).any List.isEmpty

def accepts (pattern name : String) : Bool :=
  covers (tokens (pattern.length + 1) pattern.toList) name.toList

end Scalpel.Glob
