import Scalpel.Shell.Tool.Basic
import Scalpel.Text.Regex

/-!
The tool that searches lines. It prints the lines in which an expression is found, or those in which it
is not, or how many there are.
-/

set_option autoImplicit false

namespace Scalpel.Shell

open Scalpel

variable [Halves]

structure LineSearch where
  regexes : List Regex
  ignoresCase : Bool := false
  /-- Whether a whole word, or a whole line, must be found. -/
  isWord : Bool := false
  isLine : Bool := false
  isOpposite : Bool := false

/-- The longest of the texts that the expressions stand for at a place, if it passes. -/
def LineSearch.at? (search : LineSearch) (text : Array Char) (first : Nat) : Option Nat :=
  let same := Regex.Style.same { ignoresCase := search.ignoresCase }
  let isFree (c : Option Char) : Bool := !c.any Regex.isWordChar
  let passes (last : Nat) : Bool :=
    (!search.isLine || (first = 0 && last = text.size))
      && (!search.isWord || (isFree (if first = 0 then none else text[first - 1]?) && isFree text[last]?))
  let ends := search.regexes.flatMap fun regex =>
    let subject : Regex.Subject := { text, keepsGroups := regex.looksBack, same }
    ((subject.reach regex { place := first }).map (·.place)).filter passes
  ends.foldl (fun found last => if found.all (· < last) then some last else found) none

def LineSearch.find? (search : LineSearch) (text : Array Char) (start : Nat) : Option (Nat × Nat) :=
  (List.range (text.size + 1 - start)).findSome? fun i =>
    (search.at? text (start + i)).map fun last => (start + i, last)

def LineSearch.selects (search : LineSearch) (line : List Char) : Bool :=
  (search.find? line.toArray 0).isSome != search.isOpposite

/-- All texts that are found in a line, with their places. Fuel: each step goes on by a character. -/
def LineSearch.all (search : LineSearch) (text : Array Char) : Nat → Nat → List (Nat × List Char)
  | 0, _ => []
  | fuel + 1, start =>
    match if text.size < start then none else search.find? text start with
    | none => []
    | some (first, last) =>
      if first = last then search.all text fuel (first + 1)
      else (first, (text.extract first last).toList) :: search.all text fuel last

structure LineReport where
  options : List Char
  named : Bool
  most : Option Nat := none
  above : Nat := 0
  below : Nat := 0

def LineReport.mark (r : LineReport) (file : List Char) (number offset : Nat) (divider : Char) :
    List Char :=
  (if r.named then file ++ [divider] else [])
    ++ (if r.options.contains 'n' then (toString number).toList ++ [divider] else [])
    ++ (if r.options.contains 'b' then (toString offset).toList ++ [divider] else [])

def LineReport.chosen (r : LineReport) (search : LineSearch) (lines : List (List Char)) : List Nat :=
  let found := (lines.zipIdx.filter fun (line, _) => search.selects line).map (·.2)
  match r.most with
  | some most => found.take most
  | none => found

/-- The lines that are found in a text, with those around them, as they are printed. -/
def LineReport.lines (r : LineReport) (search : LineSearch) (file : List Char) (lines : List (List Char))
    (chosen : List Nat) : List Char :=
  let offsets := (lines.foldl (fun (done, n) line =>
    (n :: done, n + (Path.bytesOf line).length + 1)) (([], 0) : List Nat × Nat)).1.reverse
  let numbered := (lines.zip offsets).zipIdx
  if r.options.contains 'o' then
    if search.isOpposite then []
    else
      numbered.flatMap fun ((line, offset), i) =>
        if !chosen.contains i then []
        else (search.all line.toArray (line.length + 1) 0).flatMap fun (first, text) =>
          let place := offset + (Path.bytesOf (line.take first)).length
          r.mark file (i + 1) place ':' ++ text ++ ['\n']
  else
    let isNear (i : Nat) : Bool :=
      chosen.any fun n => n ≤ i + r.above && i ≤ n + r.below
    let shown := numbered.filter fun (_, i) => chosen.contains i || isNear i
    let gap (i : Nat) (before : Option Nat) : Bool :=
      (0 < r.above || 0 < r.below) && before.any fun n => n + 1 < i
    (shown.foldl (fun (done, before) ((line, offset), i) =>
      let divider := if chosen.contains i then ':' else '-'
      (done ++ (if gap i before then "--\n".toList else []) ++ r.mark file (i + 1) offset divider
        ++ line ++ ['\n'], some i)) (([], none) : List Char × Option Nat)).1

def searchOptions : Options :=
  { plain := "EFGPinvcqlLohHwxsbayUzTr0123456789", valued := "efmABC",
    names := [("extended-regexp", 'E'), ("fixed-strings", 'F'), ("basic-regexp", 'G'),
      ("ignore-case", 'i'), ("line-number", 'n'), ("invert-match", 'v'), ("count", 'c'), ("quiet", 'q'),
      ("silent", 'q'), ("files-with-matches", 'l'), ("files-without-match", 'L'),
      ("only-matching", 'o'), ("no-filename", 'h'), ("with-filename", 'H'), ("word-regexp", 'w'),
      ("line-regexp", 'x'), ("no-messages", 's'), ("byte-offset", 'b'), ("regexp", 'e'), ("file", 'f'),
      ("max-count", 'm'), ("after-context", 'A'), ("before-context", 'B'), ("context", 'C'),
      ("text", 'a'), ("recursive", 'r')] }

/-- The tool that searches lines; `kind` says how expressions are read if no option does. -/
def searchTool (kind : Char) : Tool :=
  searchOptions.tool 2 fun setting choice =>
    let options := choice.options.map (·.1)
    let kind := ((options.filter fun c => "EFGP".toList.contains c).getLast?).getD kind
    let given := choice.values 'e' ++ (choice.values 'f').flatMap fun path =>
      (bareLines ((setting.file path).toOption.getD [])).map Path.ofBytes
    let isGiven := choice.has 'e' || choice.has 'f'
    let (written, files) : List (List Char) × List (List Char) :=
      if isGiven then (given, choice.operands) else (choice.operands.take 1, choice.operands.drop 1)
    if !isGiven && written.isEmpty then
      some { complaint := "Usage: ".toList ++ setting.name ++ " [OPTION]... PATTERNS [FILE]...\nTry '".toList
          ++ setting.name ++ " --help' for more information.\n".toList, code := 2 }
    else
      let ignoresCase := choice.has 'i' || choice.has 'y'
      let style : Regex.Style := { isExtended := kind = 'E' || kind = 'P', ignoresCase }
      let read (text : List Char) : Except Regex.Fault Regex :=
        if kind = 'F' then
          .ok (text.foldr (fun c rest => .sequence (Regex.charOf style c) rest) .empty)
        else (Regex.read? style text).map (·.1)
      match (written.flatMap fun text => text.splitOn '\n').mapM read with
      | .error fault => some (setting.refuse fault.message 2)
      | .ok regexes => do
        let search : LineSearch :=
          { regexes, ignoresCase, isWord := choice.has 'w', isLine := choice.has 'x'
            isOpposite := choice.has 'v' }
        let number (letter : Char) : Option Nat := (choice.value? letter).bind digits?
        let around := ((number 'C').or (digits? (options.filter Char.isDigit))).getD 0
        let report : LineReport :=
          { options, most := number 'm'
            named := choice.has 'H' || (1 < files.length && !choice.has 'h')
            above := (number 'B').getD around, below := (number 'A').getD around }
        let contents ← setting.contents? files
        let start : Answer × Bool := ({}, false)
        let (answer, isFound) := contents.foldl (fun (answer, isFound) (file, content) =>
          match content with
          | .error fault =>
            let complaint := setting.name ++ ": ".toList ++ file ++ (": " ++ fault.text ++ "\n").toList
            let answer := if choice.has 's' then { answer with code := 2 } else answer.complaining complaint 2
            let isEmpty := fault = .isDirectory && choice.has 'c'
            (if isEmpty then { answer with output := answer.output ++ file ++ ":0\n".toList } else answer, isFound)
          | .ok bytes =>
            let lines := (bareLines bytes).map Path.ofBytes
            let chosen := report.chosen search lines
            let name := if file = ['-'] then "(standard input)".toList else file
            let found := !chosen.isEmpty
            let output :=
              if choice.has 'q' then []
              else if choice.has 'l' then if found then name ++ ['\n'] else []
              else if choice.has 'L' then if found then [] else name ++ ['\n']
              else if choice.has 'c' then
                (if report.named then name ++ [':'] else []) ++ (toString chosen.length).toList ++ ['\n']
              else report.lines search name lines chosen
            ({ answer with output := answer.output ++ output },
              isFound || (if choice.has 'L' then !found else found))) start
        let code := if answer.code = 2 && !(choice.has 'q' && isFound) then 2
          else if isFound then 0 else 1
        let lines := (linesOf setting.input).map List.length
        let bare := (bareLines setting.input).map Path.ofBytes
        let most := if choice.has 'q' || choice.has 'l' then some 1 else report.most
        let left : Option Nat := most.bind fun most =>
          ((LineReport.chosen { report with most := none } search bare)[most - 1]?).map fun last =>
            ((lines.take (last + 1)).sum)
        return { answer with
          code, left, taken := left.map fun left => inChunks 65536 left setting.input.length }

end Scalpel.Shell
