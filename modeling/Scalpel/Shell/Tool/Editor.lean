import Scalpel.Shell.Tool.Basic
import Scalpel.Text.Regex

/-!
Scripts of the line editor. A command has addresses, which choose the lines that it is for, and does
something to the line at hand. Braces and labels become places in the list of commands.
-/

set_option autoImplicit false

namespace Scalpel.Shell

open Scalpel

/-! ### Commands -/

/-- What is looked for; nothing stands for what was looked for last. -/
structure Search where
  regex : Option Regex := none
  ignoresCase : Bool := false

inductive Address where
  | line (number : Nat)
  | last
  | every (first step : Nat)
  | fitting (search : Search)

inductive Limit where
  | address (address : Address)
  | lines (count : Nat)
  | multiple (of : Nat)

structure Selection where
  first : Option Address := none
  limit : Option Limit := none
  isOpposite : Bool := false

/-- A part of what takes the place of a text that was found. -/
inductive Piece where
  | chars (text : List Char)
  | group (number : Nat)
  /-- The case changes: for the next letter, or from here on. -/
  | letterCase (mark : Char)

structure Exchange where
  search : Search
  pieces : List Piece
  isGlobal : Bool := false
  number : Nat := 1
  prints : Bool := false
  target : Option (List Char) := none

inductive Action where
  /-- The commands up to a place belong together. -/
  | block (stop : Nat)
  | nothing
  /-- The editor goes on at a place: always, or when something has been exchanged or nothing has. -/
  | jump (condition : Option Bool) (target : Nat)
  | plain (letter : Char)
  | leave (prints : Bool) (code : Nat)
  | listing (width : Option Nat)
  | exchange (exchange : Exchange)
  | letters (table : List (Char × Char))
  | text (letter : Char) (chars : List Char)
  | file (letter : Char) (path : List Char)

structure EditStep where
  selection : Selection := {}
  action : Action

/-- What a command does as long as its places are not known. -/
inductive Draft where
  | action (action : Action)
  | opens
  | closes
  | label (name : List Char)
  | jump (condition : Option Bool) (name : List Char)

/-! ### Reading -/

/-- The text up to a mark, and the rest behind it; the mark may stand in the text behind a backslash. In
an expression the letter `n` behind a backslash is the end of a line. Fuel: each step takes a character. -/
def delimited? (mark : Char) (isRegex : Bool) : Nat → List Char → Option (List Char × List Char)
  | 0, _ => none
  | _, [] => none
  | fuel + 1, c :: rest =>
    let go (chars rest : List Char) : Option (List Char × List Char) :=
      (delimited? mark isRegex fuel rest).map fun (text, rest) => (chars ++ text, rest)
    if c = mark then some ([], rest)
    else if c = '\n' then none
    else if c = '\\' then
      match rest with
      | [] => none
      | d :: rest =>
        if d = 'n' && isRegex then go ['\n'] rest
        else if d = '\n' then go (if isRegex then ['\n'] else ['\\', '\n']) rest
        else if d = mark && (isRegex || d ≠ '&') then go [d] rest
        else go ['\\', d] rest
    else go [c] rest

def numberedEscape? (letter : Char) (rest : List Char) : Option (Char × List Char) :=
  let read (base count : Nat) : Option (Char × List Char) :=
    let value (c : Char) : Nat :=
      if c.isDigit then c.toNat - 48 else if 'a' ≤ c.toLower && c.toLower ≤ 'f' then c.toLower.toNat - 87
      else base
    let digits := (rest.take count).takeWhile fun c => value c < base
    if digits.isEmpty then none
    else some (Char.ofNat (digits.foldl (fun n c => n * base + value c) 0 % 256), rest.drop digits.length)
  match letter with
  | 'd' => read 10 3
  | 'o' => read 8 3
  | 'x' => read 16 2
  | 'c' =>
    match rest with
    | c :: rest => some (Char.ofNat ((c.toUpper.toNat + 64) % 128), rest)
    | [] => none
  | _ => none

def controlEscape? (letter : Char) : Option Char :=
  match letter with
  | 'a' => some '\x07'
  | 'f' => some '\x0c'
  | 'n' => some '\n'
  | 'r' => some '\r'
  | 't' => some '\t'
  | 'v' => some '\x0b'
  | _ => none

/-- A text whose escapes for characters are undone; other escapes stay. Fuel: each step takes a
character. -/
def withoutEscapes : Nat → List Char → List Char
  | 0, text => text
  | fuel + 1, '\\' :: c :: rest =>
    match controlEscape? c, numberedEscape? c rest with
    | some d, _ => d :: withoutEscapes fuel rest
    | none, some (d, rest) => d :: withoutEscapes fuel rest
    | none, none => '\\' :: c :: withoutEscapes fuel rest
  | fuel + 1, c :: rest => c :: withoutEscapes fuel rest
  | _, [] => []

def piecesFrom : Nat → List Char → List Piece
  | 0, _ => []
  | _, [] => []
  | fuel + 1, '&' :: rest => .group 0 :: piecesFrom fuel rest
  | fuel + 1, '\\' :: c :: rest =>
    if c.isDigit then .group (c.toNat - 48) :: piecesFrom fuel rest
    else if ['U', 'L', 'E', 'u', 'l'].contains c then .letterCase c :: piecesFrom fuel rest
    else
      match controlEscape? c, numberedEscape? c rest with
      | some d, _ => .chars [d] :: piecesFrom fuel rest
      | none, some (d, rest) => .chars [d] :: piecesFrom fuel rest
      | none, none => .chars [c] :: piecesFrom fuel rest
  | fuel + 1, c :: rest => .chars [c] :: piecesFrom fuel rest

def searchOf? (isExtended : Bool) (text flags : List Char) : Option (Search × Nat) :=
  let ignoresCase := flags.contains 'i' || flags.contains 'I'
  if text.isEmpty then some ({ ignoresCase }, 9)
  else
    let style : Regex.Style :=
      { isExtended, ignoresCase, everyLine := flags.contains 'm' || flags.contains 'M'
        needsCounted := true }
    match Regex.read? style (withoutEscapes (text.length + 1) text) with
    | .ok (regex, groups) => some ({ regex := some regex, ignoresCase }, groups)
    | .error _ => none

def leadingDigits? (text : List Char) : Option (Nat × List Char) :=
  let digits := text.takeWhile Char.isDigit
  (digits? digits).map (·, text.drop digits.length)

def pastBlanks (text : List Char) : List Char :=
  text.dropWhile fun c => c = ' ' || c = '\t'

def addressOf? (isExtended : Bool) (text : List Char) : Option (Option Address × List Char) :=
  let fitting (mark : Char) (rest : List Char) : Option (Option Address × List Char) := do
    let (written, rest) ← delimited? mark true (rest.length + 1) rest
    let flags := rest.takeWhile fun c => c = 'I' || c = 'M'
    let (search, _) ← searchOf? isExtended written flags
    return (some (.fitting search), rest.drop flags.length)
  match text with
  | '/' :: rest => fitting '/' rest
  | '\\' :: mark :: rest => fitting mark rest
  | '$' :: rest => some (some .last, rest)
  | text =>
    match leadingDigits? text with
    | none => some (none, text)
    | some (first, rest) =>
      match pastBlanks rest with
      | '~' :: more =>
        let (step, more) := (leadingDigits? (pastBlanks more)).getD (0, more)
        some (some (if step = 0 then .line first else .every first step), more)
      | _ => some (some (.line first), rest)

def selectionOf? (isExtended : Bool) (text : List Char) : Option (Selection × List Char) := do
  let (first, rest) ← addressOf? isExtended text
  let isZero (address : Option Address) : Bool :=
    match address with
    | some (.line 0) => true
    | _ => false
  let (limit, rest) ←
    match first, pastBlanks rest with
    | some _, ',' :: more => (limitOf? (pastBlanks more)).map fun (limit, rest) => (some limit, rest)
    | _, rest => some (none, rest)
  match limit with
  | some (.address (.fitting _)) => pure ()
  | _ => if isZero first then none
  let rest := pastBlanks rest
  let isOpposite := rest.head? = some '!'
  return ({ first, limit, isOpposite }, rest.dropWhile fun c => c = '!' || c = ' ' || c = '\t')
where
  /-- The end of a range, behind the comma, and the rest. -/
  limitOf? (text : List Char) : Option (Limit × List Char) :=
    match text with
    | '+' :: more => (leadingDigits? more).map fun (n, rest) => (.lines n, rest)
    | '~' :: more => (leadingDigits? more).map fun (n, rest) => (.multiple n, rest)
    | more => do
      let (address, rest) ← addressOf? isExtended more
      return (.address (← address), rest)

def commandEnd? (text : List Char) : Option (List Char) :=
  match pastBlanks text with
  | [] => some []
  | ';' :: rest | '\n' :: rest => some rest
  | '}' :: rest => some ('}' :: rest)
  | '#' :: rest => some ('#' :: rest)
  | _ => none

def flagsFrom? : Nat → List Char → Exchange → List Char → Option (Exchange × List Char × List Char)
  | 0, _, _, _ => none
  | fuel + 1, flags, exchange, text =>
    match text with
    | 'g' :: rest => if exchange.isGlobal then none else flagsFrom? fuel flags { exchange with isGlobal := true } rest
    | 'p' :: rest => if exchange.prints then none else flagsFrom? fuel flags { exchange with prints := true } rest
    | 'i' :: rest | 'I' :: rest => flagsFrom? fuel ('i' :: flags) exchange rest
    | 'm' :: rest | 'M' :: rest => flagsFrom? fuel ('m' :: flags) exchange rest
    | 'w' :: rest =>
      let path := (pastBlanks rest).takeWhile (· ≠ '\n')
      if path.isEmpty then none
      else some ({ exchange with target := some path }, flags, (pastBlanks rest).drop path.length)
    | text =>
      match leadingDigits? text with
      | some (0, _) => none
      | some (number, rest) => flagsFrom? fuel flags { exchange with number } rest
      | none => (commandEnd? text).map fun rest => (exchange, flags, rest)

def exchangeOf? (isExtended : Bool) (text : List Char) : Option (Exchange × List Char) := do
  let mark ← text.head?
  if mark = '\n' || mark = '\\' then none
  let (written, rest) ← delimited? mark true (text.length + 1) (text.drop 1)
  let (new, rest) ← delimited? mark false (rest.length + 1) rest
  let pieces := piecesFrom (new.length + 1) new
  let (exchange, flags, rest) ← flagsFrom? (rest.length + 1) [] { search := {}, pieces } rest
  let (search, groups) ← searchOf? isExtended written flags
  let isKnown : Piece → Bool
    | .group number => number ≤ groups
    | _ => true
  if pieces.all isKnown then return ({ exchange with search }, rest) else none

def lettersFrom : Nat → List Char → List Char
  | 0, _ => []
  | _, [] => []
  | fuel + 1, '\\' :: c :: rest =>
    match if c = '\\' || c = '\n' then some c else controlEscape? c with
    | some d => d :: lettersFrom fuel rest
    | none => '\\' :: c :: lettersFrom fuel rest
  | fuel + 1, c :: rest => c :: lettersFrom fuel rest

/-- The text of a command up to the end of a line that has no backslash in front of it, and the rest.
Other backslashes quote the character behind them. Fuel: each step takes a character. -/
def textFrom : Nat → List Char → List Char × List Char
  | 0, rest => (['\n'], rest)
  | _, [] => (['\n'], [])
  | _ + 1, '\n' :: rest => (['\n'], rest)
  | fuel + 1, '\\' :: c :: rest =>
    let (chars, rest) :=
      match controlEscape? c, numberedEscape? c rest with
      | some d, _ => ([d], rest)
      | none, some (d, rest) => ([d], rest)
      | none, none => ([c], rest)
    let (more, rest) := textFrom fuel rest
    (chars ++ more, rest)
  | fuel + 1, c :: rest =>
    let (more, rest) := textFrom fuel rest
    (if c = '\\' then more else c :: more, rest)

def textOf? (rest : List Char) : Option (List Char × List Char) :=
  match pastBlanks rest with
  | [] => none
  | '\\' :: rest =>
    match pastBlanks rest with
    | '\n' :: [] | [] => none
    | '\n' :: more => some (textFrom (more.length + 1) more)
    | _ =>
      let (text, rest) := textFrom (rest.length + 1) rest
      some (text, rest)
  | rest => some (textFrom (rest.length + 1) rest)

def labelOf (isJump : Bool) (text : List Char) : List Char × List Char :=
  let rest := pastBlanks text
  let name := rest.takeWhile fun c => c ≠ ';' && c ≠ '\n' && c ≠ ' ' && c ≠ '\t' && !(isJump && c = '}')
  (name, rest.drop name.length)

def draftOf? (isExtended : Bool) (letter : Char) (rest : List Char) : Option (Draft × List Char) :=
  let ended (draft : Draft) (rest : List Char) : Option (Draft × List Char) :=
    (commandEnd? rest).map (draft, ·)
  let jump (condition : Option Bool) : Option (Draft × List Char) :=
    let (name, rest) := labelOf true rest
    ended (.jump condition name) rest
  let numbered : Option Nat × List Char :=
    match leadingDigits? (pastBlanks rest) with
    | some (n, rest) => (some n, rest)
    | none => (none, rest)
  match letter with
  | '{' => some (.opens, rest)
  | '}' => ended .closes rest
  | ':' =>
    let (name, rest) := labelOf false rest
    if name.isEmpty then none else ended (.label name) rest
  | 'b' => jump none
  | 't' => jump (some true)
  | 'T' => jump (some false)
  | 'q' | 'Q' => ended (.action (.leave (letter = 'q') (numbered.1.getD 0))) numbered.2
  | 'l' => ended (.action (.listing numbered.1)) numbered.2
  | 's' => (exchangeOf? isExtended rest).map fun (exchange, rest) => (.action (.exchange exchange), rest)
  | 'y' => do
    let mark ← rest.head?
    let (old, behind) ← delimited? mark false (rest.length + 1) (rest.drop 1)
    let (new, behind) ← delimited? mark false (behind.length + 1) behind
    let old := lettersFrom (old.length + 1) old
    let new := lettersFrom (new.length + 1) new
    if old.length ≠ new.length then none
    ended (.action (.letters (old.zip new))) behind
  | 'a' | 'i' | 'c' => (textOf? rest).map fun (chars, rest) => (.action (.text letter chars), rest)
  | 'r' | 'R' | 'w' | 'W' =>
    let path := (pastBlanks rest).takeWhile (· ≠ '\n')
    if path.isEmpty then none else some (.action (.file letter path), (pastBlanks rest).drop path.length)
  | letter =>
    if ['=', 'd', 'D', 'F', 'g', 'G', 'h', 'H', 'n', 'N', 'p', 'P', 'x', 'z'].contains letter then
      ended (.action (.plain letter)) rest
    else none

def draftsFrom? (isExtended : Bool) : Nat → List Char → Option (List (Selection × Draft))
  | 0, _ => none
  | fuel + 1, text =>
    match text with
    | [] => some []
    | c :: rest =>
      if c = ';' || c = ' ' || c = '\t' || c = '\n' || c = '\r' then draftsFrom? isExtended fuel rest
      else if c = '#' then draftsFrom? isExtended fuel (rest.dropWhile (· ≠ '\n'))
      else do
        let (selection, rest) ← selectionOf? isExtended text
        let letter ← rest.head?
        if (letter = '}' || letter = ':') && selection.first.isSome then none
        let (draft, rest) ← draftOf? isExtended letter (rest.drop 1)
        return (selection, draft) :: (← draftsFrom? isExtended fuel rest)

def blockEnd? : Nat → Nat → List (Selection × Draft) → Option Nat
  | _, _, [] => none
  | depth, place, (_, draft) :: rest =>
    match draft with
    | .opens => blockEnd? (depth + 1) (place + 1) rest
    | .closes => if depth = 0 then some place else blockEnd? (depth - 1) (place + 1) rest
    | _ => blockEnd? depth (place + 1) rest

/-- The commands of a script with their places; nothing when the script cannot be read. -/
def editSteps? (isExtended : Bool) (script : List Char) : Option (Array EditStep) := do
  let drafts ← draftsFrom? isExtended (script.length + 1) script
  let labelled (name : List Char) : Option Nat :=
    if name.isEmpty then some drafts.length
    else drafts.findIdx? fun
      | (_, .label other) => other = name
      | _ => false
  let depths := drafts.foldl (fun (depth : Option Nat) (_, draft) =>
    depth.bind fun depth =>
      match draft with
      | .opens => some (depth + 1)
      | .closes => if depth = 0 then none else some (depth - 1)
      | _ => some depth) (some 0)
  if depths ≠ some 0 then none
  let steps ← drafts.zipIdx.mapM fun ((selection, draft), place) => do
    let action ←
      match draft with
      | .action action => some action
      | .opens => (blockEnd? 0 (place + 1) (drafts.drop (place + 1))).map Action.block
      | .closes | .label _ => some .nothing
      | .jump condition name => (labelled name).map (Action.jump condition)
    return { selection, action : EditStep }
  return steps.toArray

end Scalpel.Shell
