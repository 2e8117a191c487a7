import Scalpel.Shell.Tool.Basic

/-!
Tools that count: lines, words and characters of a text, and lines that repeat the one before.
-/

set_option autoImplicit false

namespace Scalpel.Shell

open Scalpel

variable [Halves]

def rightAligned (width : Nat) (text : List Char) : List Char :=
  List.replicate (width - text.length) ' ' ++ text

def decimalDigits (n : Nat) : List Char :=
  (toString n).toList

/-! ### Lines, words and characters -/

def wordCount (text : List Char) : Nat :=
  let isBlank (c : Char) : Bool :=
    [' ', '\t', '\n', '\r', '\x0b', '\x0c'].contains c || ('\u2000' ≤ c && c ≤ '\u200a' && c ≠ '\u2007')
      || c = '\u1680' || c = '\u2028' || c = '\u2029' || c = '\u205f' || c = '\u3000'
  let isSeen (c : Char) : Bool := ' ' < c && c ≠ '\x7f' && !Half.isHalf c
  ((text.splitOnP isBlank).filter fun word => word.any isSeen).length

def widestLine (text : List Char) : Nat :=
  let (widest, here) := text.foldl (fun (widest, here) c =>
    if c = '\n' || c = '\r' || c = '\x0c' then (max widest here, 0)
    else if c = '\t' then (widest, here + (8 - here % 8))
    else if c < ' ' || c = '\x7f' then (widest, here)
    else (widest, here + 1)) ((0, 0) : Nat × Nat)
  max widest here

def countsOf (bytes : Bytes) : List (Char × Nat) :=
  let text := Path.ofBytes bytes
  [('l', (bytes.filter (· = 10)).length), ('w', wordCount text),
    ('m', (text.filter fun c => !Half.isHalf c).length), ('c', bytes.length), ('L', widestLine text)]

def countTool : Tool :=
  let options : Options :=
    { plain := "lwmcL",
      names := [("lines", 'l'), ("words", 'w'), ("chars", 'm'), ("bytes", 'c'), ("max-line-length", 'L')] }
  options.tool 1 fun setting choice => do
    let contents ← setting.contents? choice.operands
    let chosen := if choice.options.isEmpty then ['l', 'w', 'c'] else choice.options.map (·.1)
    let kinds := ['l', 'w', 'm', 'c', 'L'].filter chosen.contains
    let sizes := contents.map fun (file, content) =>
      match content with
      | .ok bytes => if file = ['-'] && !setting.isFile then (7, 0) else (1, bytes.length)
      | .error .isDirectory => (7, 0)
      | .error _ => (1, 0)
    let width :=
      if contents.length = 1 && kinds.length = 1 then 1
      else (sizes.map (·.1)).foldl max (decimalDigits (sizes.map (·.2)).sum).length
    let line (counts : List (Char × Nat)) (name : List Char) : List Char :=
      let numbers := kinds.map fun kind => rightAligned width (decimalDigits ((counts.lookup kind).getD 0))
      [' '].intercalate numbers ++ (if name.isEmpty then [] else ' ' :: name) ++ ['\n']
    let names := !choice.operands.isEmpty
    let answer := contents.foldl (fun (answer : Answer) (file, content) =>
      let fail (fault : FileTree.Fault) : Answer :=
        answer.complaining
          (setting.name ++ ": ".toList ++ file ++ (": " ++ fault.text ++ "\n").toList) 1
      match content with
      | .ok bytes =>
        { answer with output := answer.output ++ line (countsOf bytes) (if names then file else []) }
      | .error .isDirectory =>
        { fail .isDirectory with output := line [] file }
      | .error fault => fail fault) ({} : Answer)
    let all := contents.map fun (_, content) =>
      match content with
      | .ok bytes => countsOf bytes
      | .error _ => []
    let total := kinds.map fun kind =>
      let counts := all.map fun counts => (counts.lookup kind).getD 0
      (kind, if kind = 'L' then counts.foldl max 0 else counts.sum)
    let last := if 1 < contents.length then line total "total".toList else []
    return { answer with output := answer.output ++ last }

/-! ### Lines that repeat -/

structure LineKey where
  fields : Nat := 0
  chars : Nat := 0
  width : Option Nat := none
  ignoresCase : Bool := false

def LineKey.of (key : LineKey) (line : Bytes) : Bytes :=
  let isBlank (byte : UInt8) : Bool := byte = 32 || byte = 9
  let skip (line : Bytes) (_ : Nat) : Bytes := (line.dropWhile isBlank).dropWhile fun byte => !isBlank byte
  let rest := ((List.range key.fields).foldl skip line).drop key.chars
  let rest := match key.width with
    | some width => rest.take width
    | none => rest
  if key.ignoresCase then rest.map fun byte => if 97 ≤ byte && byte ≤ 122 then byte - 32 else byte else rest

def runsBy (key : LineKey) (lines : List Bytes) : List (List Bytes) :=
  lines.splitBy fun a b => key.of a = key.of b

def uniqueTool : Tool :=
  let options : Options :=
    { plain := "cdDuiz", valued := "fsw",
      names := [("count", 'c'), ("repeated", 'd'), ("all-repeated", 'D'), ("unique", 'u'),
        ("ignore-case", 'i'), ("skip-fields", 'f'), ("skip-chars", 's'), ("check-chars", 'w')] }
  options.tool 1 fun setting choice => do
    let [(file, content)] ← setting.contents? (choice.operands.take 1) | none
    let number (letter : Char) : Option Nat := (choice.value? letter).bind digits?
    let key : LineKey :=
      { fields := (number 'f').getD 0, chars := (number 's').getD 0, width := number 'w'
        ignoresCase := choice.has 'i' }
    match content with
    | .error fault => return setting.refuse (String.ofList file ++ ": " ++ fault.text) 1
    | .ok bytes =>
      let chosen := (runsBy key (bareLines bytes)).filter fun run =>
        (!(choice.has 'd' || choice.has 'D') || 1 < run.length) && (!choice.has 'u' || run.length = 1)
      let lines := chosen.flatMap fun run =>
        if choice.has 'D' then run
        else if choice.has 'c' then
          [Path.bytesOf (rightAligned 7 (decimalDigits run.length) ++ [' ']) ++ run.headD []]
        else run.take 1
      let output := joinedLines lines
      match choice.operands with
      | [_, target] => return { written := [(target, output, false)] }
      | _ => return { output := Path.ofBytes output }

end Scalpel.Shell
