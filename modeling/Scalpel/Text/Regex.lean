/-!
Regular expressions over characters. An expression reaches, from a place in a text, the places behind
all the texts that it stands for. Of the texts that begin at one place the longest counts, and within
it each part in turn takes as much as it can.
-/

set_option autoImplicit false

namespace Scalpel

inductive Regex where
  /-- Stands for the empty text. -/
  | empty
  | one (test : Char → Bool)
  /-- Stands for the empty text between two characters, either of which may be missing. -/
  | between (test : Option Char → Option Char → Bool)
  | sequence (first second : Regex)
  | either (first second : Regex)
  | group (number : Nat) (inner : Regex)
  /-- Stands for any number of texts of another expression. -/
  | many (inner : Regex)
  | maybe (inner : Regex)
  /-- Stands for the text that a group stands for. -/
  | again (number : Nat)

namespace Regex

/-- A place that is reached, and the groups on the way to it: the number, the beginning and the end of
each. -/
structure Reached where
  place : Nat
  groups : List (Nat × Nat × Nat) := []
deriving DecidableEq, Repr

def looksBack : Regex → Bool
  | .again _ => true
  | .sequence first second | .either first second => first.looksBack || second.looksBack
  | .group _ inner | .many inner | .maybe inner => inner.looksBack
  | .empty | .one _ | .between _ => false

def times (inner : Regex) : Nat → Regex
  | 0 => .empty
  | 1 => inner
  | count + 2 => .sequence inner (times inner (count + 1))

def upTo (inner : Regex) : Nat → Regex
  | 0 => .empty
  | count + 1 => .maybe (.sequence inner (upTo inner count))

def repeated (inner : Regex) (least : Nat) (most : Option Nat) : Regex :=
  match most with
  | none => if least = 0 then .many inner else .sequence (times inner least) (.many inner)
  | some most => .sequence (times inner least) (upTo inner (most - least))

/-- What a search needs to know: the text, whether the groups of a place matter for what comes behind it,
and which characters count as the same. -/
structure Subject where
  text : Array Char
  keepsGroups : Bool
  same : Char → Char → Bool

namespace Subject

def distinct (subject : Subject) (reached : List Reached) : List Reached :=
  let start : Array (List Reached) × List Reached := (Array.replicate (subject.text.size + 1) [], [])
  let (_, found) := reached.foldl (fun (seen, found) r =>
    let here := seen.getD r.place []
    if if subject.keepsGroups then here.contains r else !here.isEmpty then (seen, found)
    else (seen.setIfInBounds r.place (r :: here), r :: found)) start
  found.reverse

def farthestFirst (subject : Subject) (reached : List Reached) : List Reached :=
  subject.distinct (reached.mergeSort fun a b => b.place ≤ a.place)

/-- The places that are reached by some steps, each of which leads on, and those that are left out
because they have been reached already; the last ones first. Fuel: each step leads on. -/
def chase (step : Reached → List Reached) : Nat → Reached → List Reached → List Reached
  | 0, r, found => if found.contains r then found else r :: found
  | fuel + 1, r, found =>
    let found := (step r).foldl (fun found next =>
      if next.place ≤ r.place || found.any (·.place = next.place) then found
      else chase step fuel next found) found
    if found.contains r then found else r :: found

def runLength (subject : Subject) (test : Char → Bool) (place : Nat) : Nat :=
  let rest := subject.text.size - place
  ((List.range rest).find? fun i => !(subject.text[place + i]?).any test).getD rest

/-- The places that an expression reaches from a place, the ones that count before others first. -/
def reach (subject : Subject) : Regex → Reached → List Reached
  | .empty, r => [r]
  | .one test, r =>
    if (subject.text[r.place]?).any test then [{ r with place := r.place + 1 }] else []
  | .between test, r =>
    let before := if r.place = 0 then none else subject.text[r.place - 1]?
    if test before subject.text[r.place]? then [r] else []
  | .sequence first second, r => subject.distinct ((reach subject first r).flatMap (reach subject second))
  | .either first second, r => subject.farthestFirst (reach subject first r ++ reach subject second r)
  | .group number inner, r =>
    (subject.farthestFirst (reach subject inner r)).map fun next =>
      { next with groups := (number, r.place, next.place) :: next.groups.filter fun g => g.1 ≠ number }
  | .many (.one test), r =>
    let count := subject.runLength test r.place
    (List.range (count + 1)).map fun i => { r with place := r.place + (count - i) }
  | .many inner, r =>
    subject.farthestFirst (chase (reach subject inner) (subject.text.size + 1 - r.place) r []).reverse
  | .maybe inner, r => subject.farthestFirst (reach subject inner r ++ [r])
  | .again number, r =>
    match r.groups.lookup number with
    | none => []
    | some (first, last) =>
      let wanted := subject.text.extract first last
      let there := subject.text.extract r.place (r.place + wanted.size)
      if wanted.size = there.size && (wanted.zip there).all fun (a, b) => subject.same a b then
        [{ r with place := r.place + wanted.size }]
      else []

end Subject

/-- A text that an expression stands for: where it begins and ends, and its groups. -/
structure Found where
  first : Nat
  last : Nat
  groups : List (Nat × Nat × Nat) := []
deriving Repr

def Found.group (found : Found) (text : Array Char) (number : Nat) : List Char :=
  let (first, last) := if number = 0 then (found.first, found.last)
    else (found.groups.lookup number).getD (0, 0)
  (text.extract first last).toList

def at? (r : Regex) (same : Char → Char → Bool) (text : Array Char) (first : Nat) : Option Found :=
  let subject : Subject := { text, keepsGroups := r.looksBack, same }
  match subject.reach r { place := first } with
  | [] => none
  | best :: others =>
    let best := others.foldl (fun (best : Reached) next =>
      if best.place < next.place then next else best) best
    some { first, last := best.place, groups := best.groups }

def search? (r : Regex) (same : Char → Char → Bool) (text : Array Char) (start : Nat) : Option Found :=
  (List.range (text.size + 1 - start)).findSome? fun i => r.at? same text (start + i)

end Regex

/-! ### Expressions as they are written

In the basic form a backslash gives the marks of groups, counts
and choices their meaning; in the extended form it takes it from them. A mark that has nothing to work on
stands for itself.
-/

namespace Regex

structure Style where
  isExtended : Bool := false
  ignoresCase : Bool := false
  /-- Whether every line of a text has a beginning and an end, or only the text. -/
  everyLine : Bool := false
  /-- Whether a count in an extended expression needs something that it counts. -/
  needsCounted : Bool := false
  /-- Whether a backslash names characters, in sets as well, and has no other meaning. -/
  namesChars : Bool := false

inductive Fault where
  | openSet
  | openGroup
  | closedGroup
  | openCount
  | badCount
  | nothingBefore
  | noGroup
  | noClass
  | badRange
  | lastBackslash
deriving DecidableEq, Repr

def Fault.message : Fault → String
  | .openSet => "Unmatched [, [^, [:, [., or [="
  | .openGroup => "Unmatched ( or \\("
  | .closedGroup => "Unmatched ) or \\)"
  | .openCount => "Unmatched \\\x7b"
  | .badCount => "Invalid content of \\\x7b\\\x7d"
  | .nothingBefore => "Invalid preceding regular expression"
  | .noGroup => "Invalid back reference"
  | .noClass => "Invalid character class name"
  | .badRange => "Invalid range end"
  | .lastBackslash => "Trailing backslash"

/-! ### Characters -/

/-- Whether a character is a letter. Beyond ASCII the blocks of the alphabets and of the common
syllables and ideographs count. -/
def isLetter (c : Char) : Bool :=
  c.isAlpha || c = 'ª' || c = 'µ' || c = 'º'
    || ('À' ≤ c && c < '\u2000' && c ≠ '×' && c ≠ '÷')
    || ('\u3040' ≤ c && c ≤ '\u9fff') || ('\uac00' ≤ c && c ≤ '\ud7a3')

def isWordChar (c : Char) : Bool :=
  isLetter c || c.isDigit || c = '_'

def classTest? (name : String) : Option (Char → Bool) :=
  match name with
  | "alpha" => some isLetter
  | "digit" => some Char.isDigit
  | "alnum" => some fun c => isLetter c || c.isDigit
  | "upper" => some Char.isUpper
  | "lower" => some Char.isLower
  | "space" => some fun c => [' ', '\t', '\n', '\r', '\x0b', '\x0c'].contains c
  | "blank" => some fun c => c = ' ' || c = '\t'
  | "punct" => some fun c => '!' ≤ c && c ≤ '~' && !c.isAlphanum
  | "xdigit" => some fun c => c.isDigit || ('a' ≤ c && c ≤ 'f') || ('A' ≤ c && c ≤ 'F')
  | "cntrl" => some fun c => c < ' ' || c = '\x7f'
  | "print" => some fun c => ' ' ≤ c && c ≠ '\x7f'
  | "graph" => some fun c => '!' ≤ c && c ≠ '\x7f'
  | _ => none

def otherCase (c : Char) : Char :=
  if c.isUpper then c.toLower else c.toUpper

def inEitherCase (test : Char → Bool) : Char → Bool :=
  fun c => test c || test (otherCase c)

def Style.same (style : Style) (a b : Char) : Bool :=
  a = b || (style.ignoresCase && a.toLower = b.toLower)

/-! ### Names of characters -/

/-- The character that letters or digits behind a backslash name, and the rest; any other character names
itself. -/
def namedChar (text : List Char) : Char × List Char :=
  let digits := (text.take 3).takeWhile fun c => '0' ≤ c && c ≤ '7'
  match text with
  | [] => ('\\', [])
  | c :: rest =>
    if !digits.isEmpty then
      (Char.ofNat (digits.foldl (fun n c => n * 8 + (c.toNat - 48)) 0 % 256), text.drop digits.length)
    else
      let named :=
        match c with
        | 'n' => '\n'
        | 't' => '\t'
        | 'r' => '\r'
        | 'a' => '\x07'
        | 'b' => '\x08'
        | 'f' => '\x0c'
        | 'v' => '\x0b'
        | c => c
      (named, rest)

/-! ### Sets -/

def setItem? (style : Style) (text : List Char) : Option (Char × List Char) :=
  match text with
  | '\\' :: rest => if style.namesChars then some (namedChar rest) else some ('\\', rest)
  | '[' :: '.' :: c :: '.' :: ']' :: rest => some (c, rest)
  | '[' :: '=' :: c :: '=' :: ']' :: rest => some (c, rest)
  | c :: rest => some (c, rest)
  | [] => none

/-- The tests of a set up to its closing bracket, and the rest. Fuel: each step takes a character. -/
def setFrom (style : Style) : Nat → Bool → List (Char → Bool) → List Char →
    Except Fault (List (Char → Bool) × List Char)
  | 0, _, _, _ => .error .openSet
  | fuel + 1, isFirst, tests, text =>
    match text with
    | ']' :: rest => if isFirst then element fuel tests text else .ok (tests, rest)
    | '[' :: ':' :: rest =>
      let name := rest.takeWhile fun c => c ≠ ':' && c ≠ ']'
      match rest.drop name.length with
      | ':' :: ']' :: rest =>
        match classTest? (String.ofList name) with
        | some test => setFrom style fuel false (test :: tests) rest
        | none => .error .noClass
      | _ => .error .openSet
    | text => element fuel tests text
where
  /-- A character or a range of characters. -/
  element (fuel : Nat) (tests : List (Char → Bool)) (text : List Char) :
      Except Fault (List (Char → Bool) × List Char) :=
    match setItem? style text with
    | none => .error .openSet
    | some (c, rest) =>
      match rest with
      | '-' :: more =>
        if more.head? = some ']' then setFrom style fuel false ((· = c) :: tests) rest
        else
          match setItem? style more with
          | none => .error .openSet
          | some (last, rest) =>
            if last < c then .error .badRange
            else setFrom style fuel false ((fun d => c ≤ d && d ≤ last) :: tests) rest
      | rest => setFrom style fuel false ((· = c) :: tests) rest

/-- The test of a set, behind its opening bracket, and the rest. -/
def setOf (style : Style) (text : List Char) : Except Fault ((Char → Bool) × List Char) := do
  let isOpposite := text.head? = some '^'
  let text := if isOpposite then text.drop 1 else text
  let (tests, rest) ← setFrom style (text.length + 1) true [] text
  let test (c : Char) : Bool := tests.any fun test => test c
  let test := if style.ignoresCase then inEitherCase test else test
  return (fun c => test c != isOpposite, rest)

/-! ### Tokens -/

inductive Token where
  | char (c : Char)
  | test (test : Char → Bool)
  | border (test : Option Char → Option Char → Bool)
  | start
  | stop
  | opens
  | closes
  | bar
  | star
  | plus
  | question
  | count (least : Nat) (most : Option Nat) (written : List Char)
  | same (number : Nat)

/-- The bounds of a count, behind the mark that opens it, and the rest behind the mark that closes it. -/
def countOf (closer : List Char) (text : List Char) :
    Except Fault (Nat × Option Nat × List Char) :=
  let number (digits : List Char) : Nat := digits.foldl (fun n c => n * 10 + (c.toNat - 48)) 0
  let first := text.takeWhile Char.isDigit
  let rest := text.drop first.length
  let close (least : Nat) (most : Option Nat) (rest : List Char) :
      Except Fault (Nat × Option Nat × List Char) :=
    if closer.isPrefixOf rest then
      if most.any (· < least) || 32767 < max least (most.getD 0) then .error .badCount
      else .ok (least, most, rest.drop closer.length)
    else .error (if rest.isEmpty then .openCount else .badCount)
  match rest with
  | ',' :: rest =>
    let last := rest.takeWhile Char.isDigit
    close (number first) (if last.isEmpty then none else some (number last)) (rest.drop last.length)
  | rest =>
    if first.isEmpty then .error (if rest.isEmpty then .openCount else .badCount)
    else close (number first) (some (number first)) rest

def borderOf? (c : Char) : Option (Option Char → Option Char → Bool) :=
  let isIn (c : Option Char) : Bool := c.any isWordChar
  match c with
  | '<' => some fun before behind => !isIn before && isIn behind
  | '>' => some fun before behind => isIn before && !isIn behind
  | 'b' => some fun before behind => isIn before != isIn behind
  | 'B' => some fun before behind => isIn before == isIn behind
  | '\x60' => some fun before _ => before.isNone
  | '\'' => some fun _ behind => behind.isNone
  | _ => none

def letterTest? (c : Char) : Option (Char → Bool) :=
  let isBlank (c : Char) : Bool := [' ', '\t', '\n', '\r', '\x0b', '\x0c'].contains c
  match c with
  | 'w' => some isWordChar
  | 'W' => some fun c => !isWordChar c
  | 's' => some isBlank
  | 'S' => some fun c => !isBlank c
  | _ => none

/-- The mark that a character is, without a backslash in an extended expression and behind one in a
basic one. -/
def markOf? (c : Char) : Option Token :=
  match c with
  | '(' => some .opens
  | ')' => some .closes
  | '|' => some .bar
  | '+' => some .plus
  | '?' => some .question
  | _ => none

/-- The tokens of an expression. Fuel: each step takes a character. -/
def tokensFrom (style : Style) : Nat → List Char → Except Fault (List Token)
  | 0, _ => .ok []
  | _, [] => .ok []
  | fuel + 1, '\\' :: rest =>
    match rest with
    | [] => .error .lastBackslash
    | c :: more =>
      if style.namesChars then
        let (c, rest) := namedChar rest
        (tokensFrom style fuel rest).map (.char c :: ·)
      else
      let go (token : Token) (rest : List Char) : Except Fault (List Token) :=
        (tokensFrom style fuel rest).map (token :: ·)
      match if style.isExtended then none else markOf? c, borderOf? c, letterTest? c with
      | some mark, _, _ => go mark more
      | none, some test, _ => go (.border test) more
      | none, none, some test => go (.test test) more
      | none, none, none =>
        if c = '\x7b' && !style.isExtended then
          match countOf ['\\', '\x7d'] more with
          | .ok (least, most, rest) => go (.count least most []) rest
          | .error fault => .error fault
        else if '1' ≤ c && c ≤ '9' then go (.same (c.toNat - 48)) more
        else go (.char c) more
  | fuel + 1, c :: rest =>
    let go (token : Token) (rest : List Char) : Except Fault (List Token) :=
      (tokensFrom style fuel rest).map (token :: ·)
    match c with
    | '[' =>
      match setOf style rest with
      | .ok (test, rest) => go (.test test) rest
      | .error fault => .error fault
    | '.' => go (.test fun _ => true) rest
    | '*' => go .star rest
    | '^' => go .start rest
    | '$' => go .stop rest
    | c =>
      match if style.isExtended then markOf? c else none with
      | some mark => go mark rest
      | none =>
        if c = '\x7b' && style.isExtended then
          match countOf ['\x7d'] rest with
          | .ok (least, most, behind) =>
            go (.count least most (rest.take (rest.length - behind.length))) behind
          | .error _ => go (.char c) rest
        else go (.char c) rest

/-! ### Expressions -/

/-- What has been read: how many groups have been opened, which ones are closed, and what is left. -/
structure Reading where
  opened : Nat := 0
  closed : List Nat := []
  rest : List Token

def edge (style : Style) (isStart : Bool) : Regex :=
  .between fun before behind =>
    let here := if isStart then before else behind
    here.isNone || (style.everyLine && here = some '\n')

def charOf (style : Style) (c : Char) : Regex :=
  .one (if style.ignoresCase then inEitherCase (· = c) else (· = c))

def counted (inner : Regex) : List Token → Regex × List Token
  | .star :: rest => counted (.many inner) rest
  | .plus :: rest => counted (.sequence inner (.many inner)) rest
  | .question :: rest => counted (.maybe inner) rest
  | .count least most _ :: rest => counted (repeated inner least most) rest
  | rest => (inner, rest)

def isBranchEnd : List Token → Bool
  | [] | .bar :: _ | .closes :: _ => true
  | _ => false

mutual

def choicesFrom (style : Style) (fuel depth : Nat) (r : Reading) : Except Fault (Regex × Reading) :=
  match fuel with
  | 0 => .error .openGroup
  | fuel + 1 => do
    let (first, r) ← branchFrom style fuel depth none r
    match r.rest with
    | .bar :: rest => do
      let (second, r) ← choicesFrom style fuel depth { r with rest }
      return (.either first second, r)
    | _ => return (first, r)

/-- A sequence up to a mark that ends it, behind what has been read of it. A count that stands where
there is nothing to count is a character of a basic expression. -/
def branchFrom (style : Style) (fuel depth : Nat) (done : Option Regex) (r : Reading) :
    Except Fault (Regex × Reading) :=
  match fuel with
  | 0 => .error .openGroup
  | fuel + 1 =>
    let next (item : Regex) (rest : List Token) (r : Reading) : Except Fault (Regex × Reading) :=
      let done := match done with
        | some done => .sequence done item
        | none => item
      branchFrom style fuel depth (some done) { r with rest }
    let item (inner : Regex) (rest : List Token) (r : Reading) : Except Fault (Regex × Reading) :=
      let (inner, rest) := counted inner rest
      next inner rest r
    let loose (c : Char) (rest : List Token) : Except Fault (Regex × Reading) :=
      if !style.isExtended then item (charOf style c) rest r
      else if style.needsCounted then .error .nothingBefore
      else branchFrom style fuel depth done { r with rest }
    match r.rest with
    | [] | .bar :: _ => .ok (done.getD .empty, r)
    | .closes :: _ => if 0 < depth then .ok (done.getD .empty, r) else .error .closedGroup
    | .opens :: rest => do
      let number := r.opened + 1
      let (inner, r) ← choicesFrom style fuel (depth + 1) { r with opened := number, rest }
      match r.rest with
      | .closes :: rest => item (.group number inner) rest { r with closed := number :: r.closed }
      | _ => .error .openGroup
    | .char c :: rest => item (charOf style c) rest r
    | .test test :: rest => item (.one test) rest r
    | .border test :: rest => next (.between test) rest r
    | .same number :: rest =>
      if r.closed.contains number then item (.again number) rest r else .error .noGroup
    | .start :: rest =>
      if style.isExtended || done.isNone then next (edge style true) rest r
      else item (charOf style '^') rest r
    | .stop :: rest =>
      if style.isExtended || isBranchEnd rest then next (edge style false) rest r
      else item (charOf style '$') rest r
    | .count _ _ written :: rest =>
      if style.isExtended && !style.needsCounted then
        item (charOf style '\x7b') (written.map Token.char ++ rest) r
      else .error .nothingBefore
    | .star :: rest => loose '*' rest
    | .plus :: rest => loose '+' rest
    | .question :: rest => loose '?' rest

end

/-- The expression that a text writes, and how many groups it has. -/
def read? (style : Style) (text : List Char) : Except Fault (Regex × Nat) := do
  let tokens ← tokensFrom style (text.length + 1) text
  let size := tokens.foldl (fun n token =>
    match token with
    | .count _ _ written => n + written.length + 1
    | _ => n + 1) 0
  let (r, reading) ← choicesFrom style (3 * size + 3) 0 { rest := tokens }
  return (r, reading.opened)

end Regex

end Scalpel
