import Scalpel.Shell.Tool.Basic
import Scalpel.Text.Regex

/-!
The tool that works out an expression whose parts are words: numbers, comparisons, and what is found in a
text.
-/

set_option autoImplicit false

namespace Scalpel.Shell

open Scalpel

variable [Halves]

inductive ExpressionFault where
  | missingOperand
  | missingBehind (word : List Char)
  | unexpected (word : List Char)
  | noNumber
  | zeroDivision
  | noExpression (fault : Regex.Fault)
  | openBracket (word : List Char)

def ExpressionFault.message : ExpressionFault → String
  | .missingOperand => "missing operand"
  | .missingBehind word => "syntax error: missing argument after " ++ inQuotes word
  | .unexpected word => "syntax error: unexpected argument " ++ inQuotes word
  | .noNumber => "non-integer argument"
  | .zeroDivision => "division by zero"
  | .noExpression fault => fault.message
  | .openBracket word => "syntax error: expecting ')' after " ++ inQuotes word

abbrev Value := List Char

def Value.number? (value : Value) : Option Int :=
  match value with
  | '-' :: digits => (digits? digits).map fun n => -(n : Int)
  | digits => (digits? digits).map fun n => (n : Int)

def Value.ofInt (n : Int) : Value :=
  (toString n).toList

def Value.isNothing (value : Value) : Bool :=
  value.isEmpty || (let digits := if value.head? = some '-' then value.drop 1 else value
    !digits.isEmpty && digits.all (· = '0'))

def matched (text pattern : List Char) : Except ExpressionFault Value :=
  match Regex.read? {} pattern with
  | .error fault => .error (.noExpression fault)
  | .ok (regex, groups) =>
    let text := text.toArray
    match regex.at? (· = ·) text 0 with
    | none => .ok (if 0 < groups then [] else ['0'])
    | some found =>
      .ok (if 0 < groups then
        match found.groups.lookup 1 with
        | some _ => found.group text 1
        | none => []
      else Value.ofInt found.last)

/-- What is left of the words, and the last one that was taken. -/
structure Words where
  rest : List (List Char)
  last : List Char := []

def Words.next (w : Words) : Words :=
  { rest := w.rest.drop 1, last := w.rest.headD [] }

def Words.take (w : Words) : Except ExpressionFault (List Char × Words) :=
  match w.rest with
  | word :: _ => .ok (word, w.next)
  | [] => .error (if w.last.isEmpty then .missingOperand else .missingBehind w.last)

def marksOf (level : Nat) : List String :=
  match level with
  | 0 => ["|"]
  | 1 => ["&"]
  | 2 => ["<", "<=", "=", "==", "!=", ">=", ">"]
  | 3 => ["+", "-"]
  | 4 => ["*", "/", "%"]
  | _ => [":"]

def compareTexts (a b : List Char) : Ordering :=
  compare (a.map Char.toNat) (b.map Char.toNat)

def joined (mark : String) (a b : Value) : Except ExpressionFault Value :=
  let truth (holds : Bool) : Except ExpressionFault Value := .ok [if holds then '1' else '0']
  let ordered (test : Ordering → Bool) : Except ExpressionFault Value :=
    truth (test (match Value.number? a, Value.number? b with
      | some x, some y => compare x y
      | _, _ => compareTexts a b))
  let computed (f : Int → Int → Except ExpressionFault Int) : Except ExpressionFault Value :=
    match Value.number? a, Value.number? b with
    | some x, some y => (f x y).map Value.ofInt
    | _, _ => .error .noNumber
  match mark with
  | "|" => .ok (if !Value.isNothing a then a else if !Value.isNothing b then b else ['0'])
  | "&" => .ok (if Value.isNothing a || Value.isNothing b then ['0'] else a)
  | "<" => ordered (· = .lt)
  | "<=" => ordered (· ≠ .gt)
  | "=" | "==" => ordered (· = .eq)
  | "!=" => ordered (· ≠ .eq)
  | ">=" => ordered (· ≠ .lt)
  | ">" => ordered (· = .gt)
  | "+" => computed fun x y => .ok (x + y)
  | "-" => computed fun x y => .ok (x - y)
  | "*" => computed fun x y => .ok (x * y)
  | "/" => computed fun x y => if y = 0 then .error .zeroDivision else .ok (x.tdiv y)
  | "%" => computed fun x y => if y = 0 then .error .zeroDivision else .ok (x.tmod y)
  | _ => matched a b

/-- A part that stands alone, or behind a word that asks for something about texts. -/
def single (part : Words → Except ExpressionFault (Value × Words))
    (single : Words → Except ExpressionFault (Value × Words)) (w : Words) :
    Except ExpressionFault (Value × Words) := do
  let (word, w) ← w.take
  match String.ofList word with
  | "+" => w.take
  | "length" => do
    let (text, w) ← single w
    return (Value.ofInt text.length, w)
  | "match" => do
    let (text, w) ← single w
    let (pattern, w) ← single w
    return (← matched text pattern, w)
  | "index" => do
    let (text, w) ← single w
    let (chars, w) ← single w
    let place := match text.findIdx? chars.contains with
      | some i => i + 1
      | none => 0
    return (Value.ofInt place, w)
  | "substr" => do
    let (text, w) ← single w
    let (first, w) ← single w
    let (count, w) ← single w
    match Value.number? first, Value.number? count with
    | some first, some count =>
      if first ≤ 0 || count ≤ 0 then return ([], w)
      else return ((text.drop (first.toNat - 1)).take count.toNat, w)
    | _, _ => return ([], w)
  | "(" => do
    let (value, w) ← part w
    match w.rest with
    | [')'] :: _ => return (value, w.next)
    | word :: _ => throw (.unexpected word)
    | [] => throw (.openBracket w.last)
  | ")" => throw (.unexpected word)
  | _ => return (word, w)

mutual

/-- A part whose marks bind at least as closely as a level says. Fuel: each step takes a word or goes
to the next level. -/
def partFrom (fuel level : Nat) (w : Words) : Except ExpressionFault (Value × Words) :=
  match fuel with
  | 0 => .error .missingOperand
  | fuel + 1 => do
    let (first, w) ← if level = 5 then operandFrom fuel w else partFrom fuel (level + 1) w
    furtherFrom fuel level first w

def furtherFrom (fuel level : Nat) (first : Value) (w : Words) : Except ExpressionFault (Value × Words) :=
  match fuel with
  | 0 => .error .missingOperand
  | fuel + 1 =>
    match w.rest with
    | mark :: _ =>
      if (marksOf level).contains (String.ofList mark) then do
        let (second, w) ← if level = 5 then operandFrom fuel w.next else partFrom fuel (level + 1) w.next
        furtherFrom fuel level (← joined (String.ofList mark) first second) w
      else return (first, w)
    | [] => return (first, w)

def operandFrom (fuel : Nat) (w : Words) : Except ExpressionFault (Value × Words) :=
  match fuel with
  | 0 => .error .missingOperand
  | fuel + 1 => single (partFrom fuel 0) (operandFrom fuel) w

end

def valueOf (words : List (List Char)) : Except ExpressionFault Value := do
  let (value, w) ← partFrom (10 * words.length + 10) 0 { rest := words }
  match w.rest with
  | [] => return value
  | word :: _ => throw (.unexpected word)

def expressionTool : Tool := fun setting words =>
  let words := if words.head? = some ['-', '-'] then words.drop 1 else words
  match valueOf words with
  | .error .missingOperand => some (setting.misused "missing operand" 2)
  | .error fault => some (setting.refuse fault.message 2)
  | .ok value => some { output := value ++ ['\n'], code := if Value.isNothing value then 1 else 0 }

end Scalpel.Shell
