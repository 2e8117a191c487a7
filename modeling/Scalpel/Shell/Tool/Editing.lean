import Scalpel.Shell.Tool.Editor

/-!
The line editor at work. It takes the lines of its input one after the other, carries out the commands
that are for a line, and prints what has become of it. It can keep a text aside, and what is to be
printed behind a line waits until the line is done.
-/

set_option autoImplicit false

namespace Scalpel.Shell

open Scalpel

variable [Halves]

/-- A line of the input, whether an end of line stands behind it, and the name of its file. -/
structure InputLine where
  text : List Char
  isEnded : Bool := true
  file : List Char := ['-']

def inputLines (mark : Char) (file : List Char) (bytes : Bytes) : List InputLine :=
  let parts := bytes.splitOn mark.toNat.toUInt8
  let line (isEnded : Bool) (part : Bytes) : InputLine := { text := Path.ofBytes part, isEnded, file }
  parts.dropLast.map (line true)
    ++ (parts.getLast?.toList.filter fun part => !part.isEmpty).map (line false)

/-- How far a range of lines has come: it ends at a line, or where the end is found. -/
inductive RangeEnd where
  | line (number : Nat)
  | found
deriving DecidableEq

structure Editing where
  /-- The text at hand. -/
  text : List Char := []
  isEnded : Bool := true
  kept : List Char := []
  line : Nat := 0
  file : List Char := ['-']
  rest : List InputLine
  /-- Whether there are no more lines to come. -/
  isOver : Bool
  quiet : Bool
  /-- The mark at which lines end. -/
  mark : Char := '\n'
  /-- What is printed behind the line. -/
  behind : List (List Char) := []
  hasExchanged : Bool := false
  ranges : List (Nat × RangeEnd) := []
  last : Option Search := none
  /-- What has been printed, the last first. -/
  printed : List (List Char) := []
  /-- Whether what was printed last has no end of line. -/
  isOpen : Bool := false
  /-- What is written to files, the last first. -/
  written : List (List Char × List Char) := []
  /-- How much of the files that are read line by line has been read. -/
  taken : List (List Char × Nat) := []

/-- How an editor ends: with a code, or because it needs more lines than there are. -/
inductive EditEnd where
  | code (code : Nat)
  | starved
deriving DecidableEq

namespace Editing

def put (e : Editing) (text : List Char) : Editing :=
  if text.isEmpty then e
  else { e with printed := text :: (if e.isOpen then [e.mark] :: e.printed else e.printed), isOpen := false }

def putLine (e : Editing) (text : List Char) : Editing :=
  let e := if e.isOpen then { e with printed := [e.mark] :: e.printed } else e
  { e with printed := (if e.isEnded then text ++ [e.mark] else text) :: e.printed, isOpen := !e.isEnded }

def putFile (e : Editing) (path text : List Char) : Editing :=
  if path = "/dev/stdout".toList then e.putLine text
  else { e with written := (path, if e.isEnded then text ++ [e.mark] else text) :: e.written }

def putBehind (e : Editing) : Editing :=
  e.behind.foldl put { e with behind := [] }

def isLast? (e : Editing) : Option Bool :=
  if !e.rest.isEmpty then some false else if e.isOver then some true else none

def take? (e : Editing) (keeps : Bool) : Option Editing :=
  match e.rest with
  | [] => none
  | line :: rest =>
    let e := e.putBehind
    some { e with
      text := if keeps then e.text ++ e.mark :: line.text else line.text
      isEnded := line.isEnded, file := line.file, rest, line := e.line + 1, hasExchanged := false }

/-! ### Addresses -/

def find? (e : Editing) (search : Search) (text : Array Char) (start : Nat) :
    Option Regex.Found × Editing :=
  match search.regex, e.last with
  | some regex, _ =>
    (regex.search? (Regex.Style.same { ignoresCase := search.ignoresCase }) text start,
      { e with last := some search })
  | none, some last =>
    (last.regex.bind fun regex =>
      regex.search? (Regex.Style.same { ignoresCase := last.ignoresCase }) text start, e)
  | none, none => (none, e)

def isAt? (e : Editing) (address : Address) : Option (Bool × Editing) :=
  match address with
  | .line number => some (e.line = number, e)
  | .last => e.isLast?.map (·, e)
  | .every first step => some (first ≤ e.line && (e.line - first) % step = 0, e)
  | .fitting search =>
    let (found, e) := e.find? search e.text.toArray 0
    some (found.isSome, e)

def setRange (e : Editing) (place : Nat) (stop : Option RangeEnd) : Editing :=
  let others := e.ranges.filter fun range => range.1 ≠ place
  { e with ranges :=
      match stop with
      | some stop => (place, stop) :: others
      | none => others }

def selects? (e : Editing) (place : Nat) (selection : Selection) : Option (Bool × Editing) :=
  match selection.first with
  | none => some (true, e)
  | some first =>
    match selection.limit with
    | none => e.isAt? first
    | some limit =>
      match e.ranges.lookup place with
      | some (.line number) =>
        if number < e.line then (e.setRange place none).isAt? first
        else some (true, if e.line = number then e.setRange place none else e)
      | some .found =>
        match limit with
        | .address address => (e.isAt? address).map fun (isEnd, e) =>
          (true, if isEnd then e.setRange place none else e)
        | _ => some (true, e)
      | none =>
        let begins : Option (Bool × Editing) :=
          match first with
          | .line 0 => some (false, e)
          | first => e.isAt? first
        begins.map fun (isFirst, e) =>
          let upTo (number : Nat) : Editing :=
            if number ≤ e.line then e else e.setRange place (some (.line number))
          if !isFirst then (false, e)
          else
            (true,
              match limit with
              | .lines count => upTo (e.line + count)
              | .multiple of => if of = 0 then e else upTo ((e.line + of - 1) / of * of)
              | .address (.line number) => upTo number
              | .address _ => e.setRange place (some .found))

/-! ### Exchange -/

def inCase (all next : Option Char) (text : List Char) : List Char :=
  let change (mark : Option Char) (c : Char) : Char :=
    match mark with
    | some 'U' | some 'u' => c.toUpper
    | some 'L' | some 'l' => c.toLower
    | _ => c
  match text with
  | [] => []
  | c :: rest => change (next.or all) c :: rest.map (change all)

def replacement (text : Array Char) (found : Regex.Found) (pieces : List Piece) : List Char :=
  let start : List Char × Option Char × Option Char := ([], none, none)
  let add (done : List Char) (all next : Option Char) (chars : List Char) :
      List Char × Option Char × Option Char :=
    if chars.isEmpty then (done, all, next) else (done ++ inCase all next chars, all, none)
  (pieces.foldl (fun (done, all, next) piece =>
    match piece with
    | .chars chars => add done all next chars
    | .group number => add done all next (found.group text number)
    | .letterCase 'u' => (done, all, some 'u')
    | .letterCase 'l' => (done, all, some 'l')
    | .letterCase 'E' => (done, none, next)
    | .letterCase mark => (done, some mark, next)) start).1

/-- The text behind a place with its exchanges, and whether there was one. A text that ends where the
last one ended and is empty does not count. Fuel: each step goes on by a character. -/
def exchanged (find : Nat → Option Regex.Found) (exchange : Exchange) (text : Array Char) :
    Nat → Nat → Nat → Option Nat → List Char × Bool
  | 0, start, _, _ => ((text.extract start text.size).toList, false)
  | fuel + 1, start, count, before =>
    let tail (first : Nat) : List Char := (text.extract first text.size).toList
    match if text.size < start then none else find start with
    | none => (tail start, false)
    | some found =>
      let front := (text.extract start found.first).toList
      let whole := (text.extract found.first found.last).toList
      let step := (text.extract found.last (found.last + 1)).toList
      let isEmpty := found.first = found.last
      let go (chars : List Char) (count : Nat) : List Char × Bool :=
        if isEmpty then
          let (more, isDone) := exchanged find exchange text fuel (found.last + 1) count none
          (front ++ chars ++ step ++ more, isDone)
        else
          let (more, isDone) := exchanged find exchange text fuel found.last count (some found.last)
          (front ++ chars ++ more, isDone)
      if isEmpty && before = some found.last then go [] count
      else if count + 1 < exchange.number then go whole (count + 1)
      else
        let new := replacement text found exchange.pieces
        if exchange.isGlobal then ((go new (count + 1)).1, true)
        else (front ++ new ++ tail found.last, true)

def exchange (e : Editing) (x : Exchange) : Editing :=
  let text := e.text.toArray
  let (_, known) := e.find? x.search text 0
  let (new, isDone) := exchanged (fun start => (known.find? x.search text start).1) x text
    (text.size + 2) 0 0 none
  let e := known
  if !isDone then e
  else
    let e := { e with text := new, hasExchanged := true }
    let e := if x.prints then e.putLine new else e
    match x.target with
    | some path => e.putFile path new
    | none => e

/-! ### Commands -/

/-- A text as it is listed: without characters that cannot be seen, and in short lines. -/
def listing (width : Nat) (text : List Char) : List Char :=
  let octal (byte : UInt8) : List Char :=
    let digits := Nat.toDigits 8 byte.toNat
    '\\' :: List.replicate (3 - digits.length) '0' ++ digits
  let shown (byte : UInt8) : List Char :=
    match Char.ofNat byte.toNat with
    | '\\' => ['\\', '\\']
    | '\x07' => ['\\', 'a']
    | '\x08' => ['\\', 'b']
    | '\x0c' => ['\\', 'f']
    | '\n' => ['\\', 'n']
    | '\r' => ['\\', 'r']
    | '\t' => ['\\', 't']
    | '\x0b' => ['\\', 'v']
    | c => if ' ' ≤ c && c ≤ '~' then [c] else octal byte
  let items := (Path.bytesOf text).map shown
  let start : List (List Char) × List Char := ([], [])
  let (lines, line) := items.foldl (fun (lines, line) item =>
    if 1 < width && width - 1 < line.length + item.length then ((line ++ ['\\', '\n']) :: lines, item)
    else (lines, line ++ item)) start
  ((line ++ ['$', '\n']) :: lines).reverse.flatten

/-- What follows a command: the next one, another one, or the end of the line. -/
inductive Follow where
  | next
  | to (place : Nat)
  /-- The commands begin again, with the next line or with what is left of the text. -/
  | again (takesLine : Bool)
  | ends (done : EditEnd)

abbrev FileReader := List Char → Option Bytes

def finish (e : Editing) : Editing :=
  (if e.quiet then e else e.putLine e.text).putBehind

def plain (e : Editing) (letter : Char) : Follow × Editing :=
  let cut := e.text.takeWhile (· ≠ e.mark)
  let hasLines := cut.length < e.text.length
  match letter with
  | '=' => (.next, e.put ((toString e.line).toList ++ ['\n']))
  | 'd' => (.again true, e.putBehind)
  | 'D' =>
    if hasLines then (.again false, { e with text := e.text.drop (cut.length + 1) }.putBehind)
    else (.again true, e.putBehind)
  | 'F' => (.next, e.put (e.file ++ ['\n']))
  | 'g' => (.next, { e with text := e.kept })
  | 'G' => (.next, { e with text := e.text ++ e.mark :: e.kept })
  | 'h' => (.next, { e with kept := e.text })
  | 'H' => (.next, { e with kept := e.kept ++ e.mark :: e.text })
  | 'p' => (.next, e.putLine e.text)
  | 'P' => (.next, e.put (cut ++ [e.mark]))
  | 'x' => (.next, { e with text := e.kept, kept := e.text })
  | 'z' => (.next, { e with text := [] })
  | 'n' | 'N' =>
    match e.isLast? with
    | none => (.ends .starved, e)
    | some true => (.ends (.code 0), e.finish)
    | some false =>
      let e := if letter = 'n' && !e.quiet then e.putLine e.text else e
      (.next, (e.take? (letter = 'N')).getD e)
  | _ => (.next, e)

/-- A command is carried out; `isWithin` says that more lines of its range are to come. -/
def act (read : FileReader) (e : Editing) (isWithin : Bool) : Action → Follow × Editing
  | .block _ | .nothing => (.next, e)
  | .jump none target => (.to target, e)
  | .jump (some wanted) target =>
    if e.hasExchanged = wanted then (.to target, { e with hasExchanged := false })
    else (.next, { e with hasExchanged := false })
  | .plain letter => e.plain letter
  | .leave prints code => (.ends (.code code), if prints then e.finish else e)
  | .listing width => (.next, e.put (listing (width.getD 70) e.text))
  | .exchange x => (.next, e.exchange x)
  | .letters table => (.next, { e with text := e.text.map fun c => (table.lookup c).getD c })
  | .text 'i' chars => (.next, e.put chars)
  | .text 'a' chars => (.next, { e with behind := e.behind ++ [chars] })
  | .text _ chars => (.again true, (if isWithin then e else e.put chars).putBehind)
  | .file 'r' path =>
    (.next, { e with behind := e.behind ++ [Path.ofBytes ((read path).getD [])] })
  | .file 'R' path =>
    let lines := inputLines e.mark path ((read path).getD [])
    let count := (e.taken.lookup path).getD 0
    match lines[count]? with
    | some line =>
      let taken := (path, count + 1) :: e.taken.filter fun entry => entry.1 ≠ path
      (.next, { e with behind := e.behind ++ [line.text ++ [e.mark]], taken })
    | none => (.next, e)
  | .file 'W' path => (.next, e.putFile path (e.text.takeWhile (· ≠ e.mark)))
  | .file _ path => (.next, e.putFile path e.text)

/-- The commands from a place on are carried out, for this line and for those behind it. Fuel: each step
takes a command or a line. -/
def runFrom (read : FileReader) (steps : Array EditStep) : Nat → Nat → Editing → EditEnd × Editing
  | 0, _, e => (.code 1, e)
  | fuel + 1, place, e =>
    let take (e : Editing) : EditEnd × Editing :=
      match e.take? false, e.isOver with
      | some e, _ => runFrom read steps fuel 0 e
      | none, true => (.code 0, e)
      | none, false => (.starved, e)
    match steps[place]? with
    | none => take e.finish
    | some step =>
      match e.selects? place step.selection with
      | none => (.starved, e)
      | some (isSelected, e) =>
        if isSelected = step.selection.isOpposite then
          match step.action with
          | .block stop => runFrom read steps fuel stop e
          | _ => runFrom read steps fuel (place + 1) e
        else
          let isWithin := (e.ranges.lookup place).isSome && !step.selection.isOpposite
          match act read e isWithin step.action with
          | (.next, e) => runFrom read steps fuel (place + 1) e
          | (.to place, e) => runFrom read steps fuel place e
          | (.again true, e) => take e
          | (.again false, e) => runFrom read steps fuel 0 e
          | (.ends done, e) => (done, e)

def patience : Nat := 3000000

def run (read : FileReader) (steps : Array EditStep) (e : Editing) : EditEnd × Editing :=
  let opening := steps.toList.zipIdx.filterMap fun (step, place) =>
    match step.selection.first, step.selection.limit with
    | some (.line 0), some _ => some (place, RangeEnd.found)
    | _, _ => none
  match { e with ranges := opening }.take? false with
  | some e => runFrom read steps patience 0 e
  | none => (if e.isOver then .code 0 else .starved, e)

def output (e : Editing) : List Char :=
  e.printed.reverse.flatten

end Editing

/-! ### The call -/

structure EditCall where
  quiet : Bool := false
  isExtended : Bool := false
  /-- Whether files are changed in place, and what is put behind the names of the old ones. -/
  inPlace : Option (List Char) := none
  /-- Whether each file is worked on for itself. -/
  isSeparate : Bool := false
  /-- The mark at which lines end. -/
  mark : Char := '\n'
  scripts : List (List Char) := []
  scriptFiles : List (List Char) := []
  operands : List (List Char) := []

/-- The call that words make; nothing when an option is not known. Fuel: each step takes a word or a
letter. -/
def EditCall.of? : Nat → EditCall → List (List Char) → Option EditCall
  | 0, call, _ => some call
  | fuel + 1, call, words =>
    match words with
    | [] => some call
    | word :: rest =>
      let long (name : String) : Option (List Char) :=
        let mark := name.toList ++ ['=']
        if mark.isPrefixOf word then some (word.drop mark.length) else none
      match word with
      | ['-', '-'] => some { call with operands := call.operands ++ rest }
      | '-' :: '-' :: name =>
        match long "--expression", long "--in-place", long "--file" with
        | some script, _, _ => of? fuel { call with scripts := call.scripts ++ [script] } rest
        | _, some ending, _ => of? fuel { call with inPlace := some ending } rest
        | _, _, some path => of? fuel { call with scriptFiles := call.scriptFiles ++ [path] } rest
        | _, _, _ =>
          match String.ofList name with
          | "quiet" | "silent" => of? fuel { call with quiet := true } rest
          | "regexp-extended" => of? fuel { call with isExtended := true } rest
          | "in-place" => of? fuel { call with inPlace := some [] } rest
          | "separate" => of? fuel { call with isSeparate := true } rest
          | "null-data" => of? fuel { call with mark := '\x00' } rest
          | "unbuffered" | "posix" | "sandbox" | "debug" => of? fuel call rest
          | _ => none
      | '-' :: letter :: more =>
        let behind (call : EditCall) : Option EditCall :=
          of? fuel call (if more.isEmpty then rest else ('-' :: more) :: rest)
        let withValue (f : List Char → EditCall) : Option EditCall :=
          if more.isEmpty then
            match rest with
            | value :: rest => of? fuel (f value) rest
            | [] => none
          else of? fuel (f more) rest
        match letter with
        | 'n' => behind { call with quiet := true }
        | 'E' | 'r' => behind { call with isExtended := true }
        | 's' => behind { call with isSeparate := true }
        | 'u' => behind call
        | 'z' => behind { call with mark := '\x00' }
        | 'i' => of? fuel { call with inPlace := some more } rest
        | 'e' => withValue fun script => { call with scripts := call.scripts ++ [script] }
        | 'f' => withValue fun path => { call with scriptFiles := call.scriptFiles ++ [path] }
        | 'l' => withValue fun _ => call
        | _ => none
      | word => of? fuel { call with operands := call.operands ++ [word] } rest

def EditCall.script (call : EditCall) (read : Editing.FileReader) :
    Option (List Char × List (List Char)) :=
  let texts := call.scripts ++ call.scriptFiles.map fun path =>
    let text := Path.ofBytes ((read path).getD [])
    if text.getLast? = some '\n' then text.dropLast else text
  match texts, call.operands with
  | [], [] => none
  | [], script :: files => some (script, files)
  | texts, files => some (['\n'].intercalate texts, files)

def Editing.answer (e : Editing) (code : Nat) (complaint : List Char) : Answer :=
  let paths := (e.written.map (·.1)).eraseDups
  let written := paths.map fun path =>
    let texts := (e.written.filter fun entry => entry.1 = path).map (·.2)
    (path, Path.bytesOf texts.reverse.flatten, false)
  { output := e.output, complaint, code, written }

def editInPlace (read : Editing.FileReader) (call : EditCall) (steps : Array EditStep)
    (fail : List Char → List Char) (files : List (List Char)) : Answer :=
  files.foldl (fun (answer : Answer) file =>
    match read file with
    | none => { answer with complaint := answer.complaint ++ fail file, code := 4 }
    | some bytes =>
      let (stop, e) := Editing.run read steps
        { rest := inputLines call.mark file bytes, isOver := true, quiet := call.quiet, mark := call.mark
          file }
      let left := if stop = .code 0 then [] else e.rest
      let unread := left.flatMap fun line => if line.isEnded then line.text ++ [call.mark] else line.text
      let ending := call.inPlace.getD []
      let backup := if ending.isEmpty then [] else [(file ++ ending, bytes, false)]
      { answer with
        written := answer.written ++ (e.answer 0 []).written ++ backup
          ++ [(file, Path.bytesOf (e.output ++ unread), false)] }) {}

def editEach (call : EditCall) (read : Editing.FileReader) (steps : Array EditStep)
    (files : List (List InputLine)) : EditEnd × Editing :=
  let start : Editing := { rest := [], isOver := true, quiet := call.quiet, mark := call.mark }
  files.foldl (fun ((stop, e) : EditEnd × Editing) lines =>
    if stop ≠ .code 0 then (stop, e)
    else Editing.run read steps { start with
      rest := lines, printed := e.printed, isOpen := e.isOpen, written := e.written }) (.code 0, start)

def editTool : Tool := fun setting words =>
  let usage : Answer :=
    { complaint := "Usage: ".toList ++ setting.name
        ++ " [OPTION]... \x7bscript-only-if-no-other-script\x7d [input-file]...\n".toList
      code := 1 }
  let read : Editing.FileReader := fun path => (setting.file path).toOption
  let size := (words.map List.length).sum + words.length + 1
  match EditCall.of? size {} words with
  | none => some usage
  | some call =>
    match call.script read with
    | none => some usage
    | some (script, files) =>
      let quiet := call.quiet || script = ['#', 'n'] || ['#', 'n', '\n'].isPrefixOf script
      let call := { call with quiet }
      match editSteps? call.isExtended script with
      | none => some { code := 1 }
      | some steps =>
        let fail (file : List Char) : List Char :=
          let reason :=
            match setting.file file with
            | .error .isDirectory => "read error on ".toList ++ file ++ ": Is a directory".toList
            | .error fault => "can't read ".toList ++ file ++ (": " ++ fault.text).toList
            | .ok _ => []
          setting.name ++ ": ".toList ++ reason ++ ['\n']
        if call.inPlace.isSome then some (editInPlace read call steps fail files)
        else
          let files := if files.isEmpty then [['-']] else files
          let isRead (file : List Char) : Bool := file = ['-'] || (read file).isSome
          let missing := files.filter fun file => !isRead file
          let lines := files.map fun file =>
            if file = ['-'] then
              let lines := inputLines call.mark file setting.input
              if setting.isOver then lines else lines.filter (·.isEnded)
            else inputLines call.mark file ((read file).getD [])
          let isOver := setting.isOver || !files.contains ['-']
          let edited :=
            if call.isSeparate && !isOver then (EditEnd.starved, { rest := [], isOver, quiet : Editing })
            else if call.isSeparate then editEach call read steps lines
            else Editing.run read steps { rest := lines.flatten, isOver, quiet, mark := call.mark }
          match edited with
          | (.starved, _) => none
          | (.code code, e) =>
            let code := if code = 0 && !missing.isEmpty then 2 else code
            let unread := (e.rest.map fun line =>
              (Path.bytesOf line.text).length + (if line.isEnded then 1 else 0)).sum
            let left := setting.input.length - unread
            some { e.answer code (missing.flatMap fail) with
              taken := some (inChunks 4096 left setting.input.length), left := some left }

end Scalpel.Shell
