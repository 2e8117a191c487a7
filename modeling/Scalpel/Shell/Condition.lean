import Scalpel.Shell.Arithmetic
import Scalpel.Files.Tree

/-!
Conditions of a script: tests of texts, numbers and files, joined by marks for and, or and not. How
many words there are decides how a condition is read.
-/

set_option autoImplicit false

namespace Scalpel.Shell

open Scalpel

variable [Halves]

inductive ConditionFault where
  /-- The condition has no bracket at its end. -/
  | unclosed
  /-- A word is compared as a number and is none. -/
  | badNumber (word : List Char)
  /-- A mark has no word behind it. -/
  | missing (mark : List Char)
  /-- A parenthesis is not closed. -/
  | openParenthesis
  /-- More words come behind a whole condition, whose last word is given. -/
  | unexpected (last : List Char)

def ConditionFault.message : ConditionFault → List Char
  | .unclosed => "missing ]".toList
  | .badNumber word => "Illegal number: ".toList ++ word
  | .missing mark => mark ++ ": argument expected".toList
  | .openParenthesis => "closing paren expected".toList
  | .unexpected [] => "unexpected operator".toList
  | .unexpected last => last ++ ": unexpected operator".toList

abbrev Verdict := Except ConditionFault

def comparedNumber (word : List Char) : Verdict Int :=
  let text := word.dropWhile fun c => isBlank c
  let isNegative := text.head? = some '-'
  let digits := if isNegative || text.head? = some '+' then text.drop 1 else text
  let body := digits.takeWhile Char.isDigit
  let n : Int := body.foldl (fun n c => n * 10 + (c.toNat - 48 : Nat)) 0
  let n := if isNegative then -n else n
  if body.isEmpty || !((digits.drop body.length).all fun c => isBlank c) || clamped n ≠ n then
    .error (.badNumber word)
  else .ok n
where
  /-- Whether a character is blank. -/
  isBlank (c : Char) : Bool :=
    c = ' ' || ('\t' ≤ c && c ≤ '\r')

def unaryMarks : List String :=
  ["-n", "-z", "-e", "-f", "-d", "-r", "-w", "-x", "-s", "-h", "-L", "-p", "-S", "-b", "-c", "-g", "-u",
    "-k", "-t", "-O", "-G"]

def binaryMarks : List String :=
  ["=", "!=", "<", ">", "-eq", "-ne", "-gt", "-ge", "-lt", "-le", "-nt", "-ot", "-ef"]

def isUnary (mark : List Char) : Bool :=
  unaryMarks.contains (String.ofList mark)

def isBinary (mark : List Char) : Bool :=
  binaryMarks.contains (String.ofList mark)

def unaryTest (t : FileTree) (mark operand : List Char) : Verdict Bool :=
  let path := String.ofList operand
  match String.ofList mark with
  | "-n" => .ok (!operand.isEmpty)
  | "-z" => .ok operand.isEmpty
  | "-e" | "-O" | "-G" => .ok (t.exists? path)
  | "-f" => .ok (t.isFile path)
  | "-d" => .ok (t.isDirectory path)
  | "-r" => .ok (t.exists? path && (t.isDirectory path || (t.readFile path).isOk))
  | "-w" => .ok (t.exists? path && (t.isDirectory path || (t.openForWriting path).isOk))
  | "-x" => .ok (t.isExecutable path)
  | "-t" => (comparedNumber operand).map fun _ => false
  | "-s" => .ok (
      match t.find true path with
      | .ok (_, .file content _) => !content.isEmpty
      | .ok (_, .directory) => true
      | _ => false)
  | "-h" | "-L" => .ok (
      match t.find false path with
      | .ok (_, .link _) => true
      | _ => false)
  | _ => .ok false

def binaryTest (t : FileTree) (a mark b : List Char) : Verdict Bool :=
  let compared (test : Int → Int → Bool) : Verdict Bool := do
    return test (← comparedNumber a) (← comparedNumber b)
  let place? (path : List Char) : Option Place :=
    match t.find true (String.ofList path) with
    | .ok (place, _) => some place
    | .error _ => none
  match String.ofList mark with
  | "=" => .ok (a = b)
  | "!=" => .ok (a ≠ b)
  | "<" => .ok (String.ofList a < String.ofList b)
  | ">" => .ok (String.ofList b < String.ofList a)
  | "-eq" => compared (· = ·)
  | "-ne" => compared (· ≠ ·)
  | "-gt" => compared fun a b => b < a
  | "-ge" => compared fun a b => b ≤ a
  | "-lt" => compared fun a b => a < b
  | "-le" => compared fun a b => a ≤ b
  | "-ef" => .ok (place? a == place? b && (place? a).isSome)
  | _ => .ok false

/-- What the first of some words is. A mark in front of a word counts only where a word follows that is
not itself followed by a mark between words. -/
inductive ConditionMark where
  | nothing
  | word
  | unary
  | binary
  | not
  | both
  | either
  | opening
  | closing
deriving DecidableEq, Repr

def frontMark (words : List (List Char)) : ConditionMark :=
  match words with
  | [] => .nothing
  | word :: rest =>
    match String.ofList word with
    | "!" => .not
    | "-a" => .both
    | "-o" => .either
    | "(" => if rest.isEmpty then .word else .opening
    | ")" => .closing
    | _ =>
      if isBinary word then .binary
      else if isUnary word then
        match rest with
        | [] => .word
        | [_] => .unary
        | next :: _ => if isBinary next then .word else .unary
      else .word

mutual

/-- Conditions joined by `-o`, with the words from the last one that belongs to them; `kind` is the mark of
the first word. Fuel: each step takes a word. -/
def joinedByOr (t : FileTree) : Nat → ConditionMark → List (List Char) → Verdict (Bool × List (List Char))
  | 0, _, words => .error (.unexpected (words.headD []))
  | fuel + 1, kind, words => do
    let (a, words) ← joinedByAnd t fuel kind words
    if frontMark (words.drop 1) = .either then
      let (b, words) ← joinedByOr t fuel (frontMark (words.drop 2)) (words.drop 2)
      return (a || b, words)
    else return (a, words)

def joinedByAnd (t : FileTree) : Nat → ConditionMark → List (List Char) → Verdict (Bool × List (List Char))
  | 0, _, words => .error (.unexpected (words.headD []))
  | fuel + 1, kind, words => do
    let (a, words) ← maybeNot t fuel kind words
    if frontMark (words.drop 1) = .both then
      let (b, words) ← joinedByAnd t fuel (frontMark (words.drop 2)) (words.drop 2)
      return (a && b, words)
    else return (a, words)

def maybeNot (t : FileTree) : Nat → ConditionMark → List (List Char) → Verdict (Bool × List (List Char))
  | 0, _, words => .error (.unexpected (words.headD []))
  | fuel + 1, kind, words =>
    if kind = .not then do
      let rest := words.drop 1
      let (a, words) ← maybeNot t fuel (frontMark rest) (if rest.isEmpty then words else rest)
      return (!a, words)
    else oneTest t fuel kind words

def oneTest (t : FileTree) : Nat → ConditionMark → List (List Char) → Verdict (Bool × List (List Char))
  | 0, _, words => .error (.unexpected (words.headD []))
  | fuel + 1, kind, words =>
    let word := words.headD []
    let rest := words.drop 1
    match kind with
    | .nothing => .ok (false, words)
    | .opening =>
      if frontMark rest = .closing then .ok (false, rest)
      else do
        let (a, words) ← joinedByOr t fuel (frontMark rest) rest
        if frontMark (words.drop 1) = .closing then return (a, words.drop 1) else .error .openParenthesis
    | .unary =>
      if rest.isEmpty then .error (.missing word)
      else do return (← unaryTest t word (rest.headD []), rest)
    | _ =>
      if frontMark rest = .binary then
        match rest with
        | mark :: operand :: _ => do return (← binaryTest t word mark operand, rest.drop 1)
        | _ => .error (.missing (rest.headD []))
      else .ok (!word.isEmpty, words)

end

def wholeCondition (t : FileTree) (kind : ConditionMark) (words : List (List Char)) : Verdict Bool := do
  let (verdict, left) ← joinedByOr t (4 * words.length + 8) kind words
  if 1 < left.length then .error (.unexpected (left.headD [])) else return verdict

def condition (t : FileTree) (words : List (List Char)) : Verdict Bool :=
  match words with
  | [] => .ok false
  | [a, mark, b] =>
    if isBinary mark then wholeCondition t .word words
    else bracketed a [mark, b]
  | a :: rest => if rest.length = 3 then bracketed a rest else wholeCondition t (frontMark words) words
where
  /-- Three or four words may be a condition between parentheses, or the opposite of what is behind the
  first one. -/
  bracketed (a : List Char) (rest : List (List Char)) : Verdict Bool :=
    if a = ['('] && rest.getLast? = some [')'] then wholeCondition t (frontMark rest.dropLast) rest.dropLast
    else if a = ['!'] then
      match rest with
      | [b, mark, c] =>
        if isBinary mark then (wholeCondition t .word rest).map not
        else if b = ['('] && c = [')'] then (wholeCondition t (frontMark [mark]) [mark]).map not
        else if b = ['!'] then (wholeCondition t (frontMark [mark, c]) [mark, c]).map not
        else (wholeCondition t (frontMark rest) rest).map not
      | _ => (wholeCondition t (frontMark rest) rest).map not
    else wholeCondition t (frontMark (a :: rest)) (a :: rest)

end Scalpel.Shell
