import Scalpel.Shell.Tool.Basic

/-!
Tools that print a part of a text: its beginning or its end, in lines or in bytes.
-/

set_option autoImplicit false

namespace Scalpel.Shell

open Scalpel

variable [Halves]

structure Portion where
  isBytes : Bool := false
  count : Nat := 10
  /-- The count is one of what is left out: at the other end of the text. -/
  isRest : Bool := false
  /-- Whether a title stands above each file; without a word it does when there is more than one. -/
  titled : Option Bool := none

def sizeOf? (text : List Char) : Option Nat :=
  let digits := text.takeWhile Char.isDigit
  let unit := String.ofList (text.drop digits.length)
  let powers := ["K", "M", "G", "T", "P", "E"].zipIdx
  let scale : Option Nat :=
    if unit = "" then some 1
    else if unit = "b" then some 512
    else if unit = "k" || unit = "KiB" then some 1024
    else powers.findSome? fun (letter, i) =>
      if unit = letter || unit = letter ++ "iB" then some (1024 ^ (i + 1))
      else if unit = letter ++ "B" || (unit = "kB" && i = 0) then some (1000 ^ (i + 1))
      else none
  match digits? digits, scale with
  | some n, some scale => some (n * scale)
  | none, some scale => if text.isEmpty || digits.isEmpty && scale = 1 then none else some scale
  | _, none => none

def portionOptions : Options :=
  { plain := "qvzfF", valued := "nc",
    names := [("lines", 'n'), ("bytes", 'c'), ("quiet", 'q'), ("silent", 'q'), ("verbose", 'v'),
      ("follow", 'f'), ("zero-terminated", 'z')] }

def withOldCount (words : List (List Char)) : List (List Char) :=
  match words with
  | (sign :: c :: more) :: rest =>
    let digits := (c :: more).takeWhile Char.isDigit
    let unit := (c :: more).drop digits.length
    let letter := if unit = ['c'] then some ['-', 'c'] else if unit = [] || unit = ['l'] then some ['-', 'n']
      else none
    match letter with
    | some letter =>
      if digits.isEmpty || (sign ≠ '-' && sign ≠ '+') then words
      else letter :: (if sign = '+' then '+' :: digits else digits) :: rest
    | none => words
  | words => words

def portionOf? (restMark : Char) (choice : Choice) : Except (List Char × Bool) Portion := do
  let titled := if choice.has 'q' then some false else if choice.has 'v' then some true else none
  match choice.options.reverse.find? fun option => option.1 = 'n' || option.1 = 'c' with
  | none => return { titled }
  | some (letter, value) =>
    let isRest := value.head? = some restMark
    let written := if value.head? = some '-' || value.head? = some '+' then value.drop 1 else value
    match sizeOf? written with
    | some count => return { isBytes := letter = 'c', count, isRest, titled }
    | none => throw (if value.head? = some '-' then written else value, decide (letter = 'c'))

def Portion.front (p : Portion) (bytes : Bytes) : Bytes :=
  if p.isBytes then bytes.take (if p.isRest then bytes.length - p.count else p.count)
  else
    let lines := linesOf bytes
    (lines.take (if p.isRest then lines.length - p.count else p.count)).flatten

def Portion.back (p : Portion) (bytes : Bytes) : Bytes :=
  if p.isBytes then bytes.drop (if p.isRest then p.count - 1 else bytes.length - p.count)
  else
    let lines := linesOf bytes
    (lines.drop (if p.isRest then p.count - 1 else lines.length - p.count)).flatten

def Portion.isIn (p : Portion) (bytes : Bytes) : Bool :=
  !p.isRest && (if p.isBytes then p.count ≤ bytes.length else p.count ≤ (bytes.filter (· = 10)).length)

def Portion.print (p : Portion) (setting : Setting) (part : Bytes → Bytes)
    (contents : List (List Char × Except FileTree.Fault Bytes)) : Answer :=
  let isTitled := p.titled.getD (1 < contents.length)
  let start : Answer × Bool := ({}, true)
  (contents.foldl (fun (answer, isFirst) (file, content) =>
    let name := if file = ['-'] then "standard input".toList else file
    let title := if isTitled then
        (if isFirst then [] else ['\n']) ++ "==> ".toList ++ name ++ " <==\n".toList
      else []
    let fail (answer : Answer) (fault : FileTree.Fault) : Answer :=
      answer.complaining (setting.name ++ ": ".toList ++ cannotOpen file fault ++ ['\n']) 1
    match content with
    | .ok bytes =>
      ({ answer with output := answer.output ++ title ++ Path.ofBytes (part bytes) }, false)
    | .error .isDirectory =>
      (fail { answer with output := answer.output ++ title } .isDirectory, false)
    | .error fault => (fail answer fault, isFirst)) start).1

def badCount (setting : Setting) (fault : List Char × Bool) : Answer :=
  setting.refuse ("invalid number of " ++ (if fault.2 then "bytes" else "lines") ++ ": " ++ inQuotes fault.1) 1

def headTool : Tool := fun setting words =>
  portionOptions.tool 1 (fun setting choice =>
    match portionOf? '-' choice with
    | .error fault => some (badCount setting fault)
    | .ok p =>
      if choice.operands = ["/dev/zero".toList] then
        some { output := Path.ofBytes (List.replicate (if p.isBytes then p.count else 0) 0) }
      else
        let enough := p.isIn setting.input
        match { setting with isOver := setting.isOver || enough }.contents? choice.operands with
        | none => none
        | some contents =>
          let left := (p.front setting.input).length
          let taken := if p.isBytes then left else inChunks 8192 left setting.input.length
          some { p.print setting p.front contents with
            taken := if p.isRest then none else some taken, left := some left }) setting (withOldCount words)

def tailTool : Tool := fun setting words =>
  portionOptions.tool 1 (fun setting choice =>
    match portionOf? '+' choice with
    | .error fault => some (badCount setting fault)
    | .ok p => (setting.contents? choice.operands).map (p.print setting p.back)) setting (withOldCount words)

end Scalpel.Shell
