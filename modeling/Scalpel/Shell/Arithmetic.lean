import Scalpel.Shell.Syntax

/-!
Expressions of whole numbers in a script. Numbers have 64 bits and wrap around. A name stands for the
number that the variable's value writes; a setting changes the variable.
-/

set_option autoImplicit false

namespace Scalpel.Shell

inductive Expression where
  | number (value : Int)
  | variable (name : List Char)
  | unary (mark : String) (inner : Expression)
  | binary (mark : String) (first second : Expression)
  | choice (test yes no : Expression)
  | set (name : List Char) (mark : String) (value : Expression)

def wrapped (n : Int) : Int :=
  Int.bmod n (2 ^ 64)

def digitsOf (base : Nat) (text : List Char) : Nat × List Char :=
  let value? (c : Char) : Option Nat :=
    if c.isDigit then some (c.toNat - 48)
    else if 'a' ≤ c && c ≤ 'f' then some (c.toNat - 87)
    else if 'A' ≤ c && c ≤ 'F' then some (c.toNat - 55)
    else none
  let digits := text.takeWhile fun c => (value? c).any (· < base)
  (digits.foldl (fun n c => n * base + (value? c).getD 0) 0, text.drop digits.length)

/-- A number without a sign at the front of a text: decimal, octal behind a zero, or hexadecimal. -/
def takeNumber : List Char → Nat × List Char
  | '0' :: x :: rest =>
    if x ≠ 'x' && x ≠ 'X' then digitsOf 8 (x :: rest)
    else
      let (n, left) := digitsOf 16 rest
      if left.length = rest.length then (0, x :: rest) else (n, left)
  | text => digitsOf 10 text

def clamped (n : Int) : Int :=
  max (-2 ^ 63) (min n (2 ^ 63 - 1))

def numberOf? (text : List Char) : Option Int :=
  let text := (text.dropWhile fun c => c = ' ' || c = '\t' || c = '\n')
  let isNegative := text.head? = some '-'
  let digits := if isNegative || text.head? = some '+' then text.drop 1 else text
  if text.isEmpty then some 0
  else if !(digits.head?.any Char.isDigit) then none
  else
    match takeNumber digits with
    | (value, rest) =>
      if rest.all fun c => c = ' ' || c = '\t' || c = '\n' then
        some (clamped (if isNegative then -(value : Int) else value))
      else none

def operations : List String :=
  ["<<=", ">>=", "<=", ">=", "==", "!=", "&&", "||", "<<", ">>", "+=", "-=", "*=", "/=", "%=", "&=",
    "|=", "^=", "+", "-", "*", "/", "%", "<", ">", "=", "!", "~", "&", "|", "^", "?", ":", "(", ")"]

inductive Lexeme where
  | number (value : Nat)
  | name (text : List Char)
  | mark (text : String)
  /-- A character that means nothing. -/
  | stray
deriving DecidableEq

inductive ArithmeticFault where
  | noPrimary
  | noEnd
  | noBracket
  | noColon
  | zeroDivision
  | noNumber (text : List Char)

def ArithmeticFault.message (written : List Char) : ArithmeticFault → List Char
  | .noNumber text => "Illegal number: ".toList ++ text
  | fault =>
    let reason :=
      match fault with
      | .noEnd => "expecting EOF"
      | .noBracket => "expecting ')'"
      | .noColon => "expecting ':'"
      | .zeroDivision => "division by zero"
      | _ => "expecting primary"
    ("arithmetic expression: " ++ reason ++ ": \"").toList ++ written ++ ['"']

def lexemes : Nat → List Char → List Lexeme
  | 0, _ => []
  | _, [] => []
  | fuel + 1, c :: rest =>
    if c = ' ' || c = '\t' || c = '\n' then lexemes fuel rest
    else if c.isDigit then
      let (value, rest) := takeNumber (c :: rest)
      .number value :: lexemes fuel rest
    else if isNameStart c then
      let name := c :: rest.takeWhile isNameChar
      .name name :: lexemes fuel ((c :: rest).drop name.length)
    else
      match operations.find? fun mark => mark.toList.isPrefixOf (c :: rest) with
      | some mark => .mark mark :: lexemes fuel ((c :: rest).drop mark.length)
      | none => [.stray]

def levels : List (List String) :=
  [["||"], ["&&"], ["|"], ["^"], ["&"], ["==", "!="], ["<", ">", "<=", ">="], ["<<", ">>"],
    ["+", "-"], ["*", "/", "%"]]

mutual

def parseWhole (fuel : Nat) (tokens : List Lexeme) : Except ArithmeticFault (Expression × List Lexeme) :=
  match fuel with
  | 0 => .error .noPrimary
  | fuel + 1 =>
    let setting? : Option (List Char × String × List Lexeme) :=
      match tokens with
      | .name name :: .mark mark :: rest =>
        if ["=", "+=", "-=", "*=", "/=", "%=", "<<=", ">>=", "&=", "|=", "^="].contains mark then
          some (name, mark, rest)
        else none
      | _ => none
    match setting? with
    | some (name, mark, rest) => do
      let (value, rest) ← parseWhole fuel rest
      return (.set name mark value, rest)
    | none => do
      let (test, rest) ← parseLevel fuel levels tokens
      match rest with
      | .mark "?" :: rest => do
        let (yes, rest) ← parseWhole fuel rest
        match rest with
        | .mark ":" :: rest => do
          let (no, rest) ← parseWhole fuel rest
          return (.choice test yes no, rest)
        | _ => throw .noColon
      | rest => return (test, rest)

def parseLevel (fuel : Nat) (levels : List (List String)) (tokens : List Lexeme) :
    Except ArithmeticFault (Expression × List Lexeme) :=
  match fuel, levels with
  | 0, _ => .error .noPrimary
  | fuel + 1, [] => parseUnary fuel tokens
  | fuel + 1, marks :: tighter => do
    let (first, rest) ← parseLevel fuel tighter tokens
    parseRest fuel marks tighter first rest

def parseRest (fuel : Nat) (marks : List String) (tighter : List (List String))
    (first : Expression) (tokens : List Lexeme) : Except ArithmeticFault (Expression × List Lexeme) :=
  match fuel, tokens with
  | 0, _ => .error .noPrimary
  | fuel + 1, .mark mark :: rest =>
    if marks.contains mark then do
      let (second, rest) ← parseLevel fuel tighter rest
      parseRest fuel marks tighter (.binary mark first second) rest
    else .ok (first, .mark mark :: rest)
  | _ + 1, rest => .ok (first, rest)

def parseUnary (fuel : Nat) (tokens : List Lexeme) : Except ArithmeticFault (Expression × List Lexeme) :=
  match fuel, tokens with
  | fuel + 1, .mark "(" :: rest => do
    let (inner, rest) ← parseWhole fuel rest
    match rest with
    | .mark ")" :: rest => return (inner, rest)
    | _ => throw .noBracket
  | fuel + 1, .mark mark :: rest =>
    if ["-", "+", "!", "~"].contains mark then do
      let (inner, rest) ← parseUnary fuel rest
      return (.unary mark inner, rest)
    else .error .noPrimary
  | _ + 1, .number value :: rest => .ok (.number value, rest)
  | _ + 1, .name name :: rest => .ok (.variable name, rest)
  | _, _ => .error .noPrimary

end

def expressionOf (text : List Char) : Except ArithmeticFault Expression := do
  let tokens := lexemes (text.length + 1) text
  let (expression, rest) ← parseWhole (32 * tokens.length + 32) tokens
  if rest.isEmpty then return expression else throw .noEnd

def bits (n : Int) : Nat :=
  (n % 2 ^ 64).toNat

def operate (mark : String) (a b : Int) : Except ArithmeticFault Int :=
  let truth (p : Bool) : Except ArithmeticFault Int := .ok (if p then 1 else 0)
  match mark with
  | "+" => .ok (wrapped (a + b))
  | "-" => .ok (wrapped (a - b))
  | "*" => .ok (wrapped (a * b))
  | "/" => if b = 0 then .error .zeroDivision else .ok (wrapped (a.tdiv b))
  | "%" => if b = 0 then .error .zeroDivision else .ok (a.tmod b)
  | "<<" => .ok (wrapped ((bits a <<< (bits b % 64) : Nat) : Int))
  | ">>" => .ok (a >>> (bits b % 64))
  | "&" => .ok (wrapped ((bits a &&& bits b : Nat) : Int))
  | "|" => .ok (wrapped ((bits a ||| bits b : Nat) : Int))
  | "^" => .ok (wrapped ((bits a ^^^ bits b : Nat) : Int))
  | "==" => truth (a = b)
  | "!=" => truth (a ≠ b)
  | "<" => truth (a < b)
  | ">" => truth (b < a)
  | "<=" => truth (a ≤ b)
  | ">=" => truth (b ≤ a)
  | _ => .error .noPrimary

def numberIn (text : List Char) : Except ArithmeticFault Int :=
  match numberOf? text with
  | some n => .ok (wrapped n)
  | none => .error (.noNumber text)

/-- The value of an expression where `get` gives the values of variables and `set` changes them in a
store; there is none where a value is no number or a number is divided by zero. -/
def Expression.value {σ : Type} (get : σ → List Char → List Char)
    (set : σ → List Char → List Char → σ) : Expression → σ → Except ArithmeticFault (Int × σ)
  | .number n, store => .ok (clamped n, store)
  | .variable name, store => (numberIn (get store name)).map fun n => (n, store)
  | .unary mark inner, store => do
    let (n, store) ← inner.value get set store
    match mark with
    | "-" => return (wrapped (-n), store)
    | "!" => return (if n = 0 then 1 else 0, store)
    | "~" => return (wrapped (-n - 1), store)
    | _ => return (n, store)
  | .binary mark first second, store => do
    let (a, store) ← first.value get set store
    if mark = "&&" && a = 0 then return (0, store)
    else if mark = "||" && a ≠ 0 then return (1, store)
    else
      let (b, store) ← second.value get set store
      if mark = "&&" || mark = "||" then return (if b = 0 then 0 else 1, store)
      else return (← operate mark a b, store)
  | .choice test yes no, store => do
    let (n, store) ← test.value get set store
    if n ≠ 0 then yes.value get set store else no.value get set store
  | .set name mark value, store => do
    let (b, store) ← value.value get set store
    let result ←
      if mark = "=" then pure b
      else do operate (String.ofList (mark.toList.dropLast)) (← numberIn (get store name)) b
    return (result, set store name (toString result).toList)

end Scalpel.Shell
