import Scalpel.Number

/-!
Scripts of a shell as they are written. A script is a list of tokens: words, marks and the ends of
lines. A word is kept as it is written, with its quotes, until it is needed; then it is taken apart
into texts, parameters, the output of commands and the values of expressions.
-/

set_option autoImplicit false

namespace Scalpel.Shell

/-! ### Words -/

/-- A part of a word; `quoted` says that it stands between quotes or behind a backslash. -/
inductive Part where
  | text (chars : List Char) (quoted : Bool)
  /-- A parameter, and what is written behind its name between braces. -/
  | parameter (name use : List Char) (quoted : Bool)
  /-- The size of the value of a parameter. -/
  | size (name : List Char)
  | output (script : List Char) (quoted : Bool)
  | number (expression : List Char) (quoted : Bool)
  /-- A parameter that cannot be read. -/
  | faulty
deriving DecidableEq, Repr

def isNameStart (c : Char) : Bool :=
  c.isAlpha || c = '_'

def isNameChar (c : Char) : Bool :=
  c.isAlphanum || c = '_'

def isName : List Char → Bool
  | [] => false
  | c :: rest => isNameStart c && rest.all isNameChar

def isSpecial (c : Char) : Bool :=
  ['@', '*', '#', '?', '-', '$', '!'].contains c

def isWordAt (word : String) (text : List Char) : Bool :=
  word.toList.isPrefixOf text &&
    !(text.drop word.length).head?.any fun c => isNameChar c

def endOfCases : Char := '\x00'

/-- The text up to the mark that closes what is open, the mark included, and the rest; `closers` are
the marks that are awaited, the innermost first. In a choice by patterns a bracket that closes a
pattern has none that opens it. Fuel: each step takes a character. -/
def scan : Nat → List Char → List Char → List Char → Option (List Char × List Char)
  | 0, _, _, _ => none
  | _, [], done, rest => some (done.reverse, rest)
  | _, _, _, [] => none
  | fuel + 1, closer :: outer, done, c :: rest =>
    let go (closers done rest : List Char) : Option (List Char × List Char) :=
      scan fuel closers done rest
    if closer = '\'' then go (if c = '\'' then outer else '\'' :: outer) (c :: done) rest
    else if c = '\\' then
      match rest with
      | d :: rest => go (closer :: outer) (d :: c :: done) rest
      | [] => none
    else if c = closer then go outer (c :: done) rest
    else if closer = '`' then go (closer :: outer) (c :: done) rest
    else if c = '`' then go ('`' :: closer :: outer) (c :: done) rest
    else
      match c, rest with
      | '$', '(' :: rest => go (')' :: closer :: outer) ('(' :: c :: done) rest
      | '$', '{' :: rest => go ('}' :: closer :: outer) ('{' :: c :: done) rest
      | _, rest =>
        if c = '"' && closer ≠ '"' then go ('"' :: closer :: outer) (c :: done) rest
        else if c = '\'' && closer ≠ '"' then go ('\'' :: closer :: outer) (c :: done) rest
        else if c = '(' && closer = ')' then go (')' :: closer :: outer) (c :: done) rest
        else if (closer = ')' || closer = endOfCases) && !done.head?.any isNameChar
            && isWordAt "case" (c :: rest) then
          go (endOfCases :: closer :: outer) (c :: done) rest
        else if closer = endOfCases && !done.head?.any isNameChar
            && isWordAt "esac" (c :: rest) then
          go outer (c :: done) rest
        else go (closer :: outer) (c :: done) rest

def inside (closer : Char) (rest : List Char) : Option (List Char × List Char) :=
  (scan (rest.length + 1) [closer] [] rest).map fun (text, rest) => (text.dropLast, rest)

def unquoteBack (marks : List Char) : List Char → List Char
  | '\\' :: c :: rest =>
    if marks.contains c then c :: unquoteBack marks rest else '\\' :: c :: unquoteBack marks rest
  | c :: rest => c :: unquoteBack marks rest
  | [] => []

def braced (text : List Char) (quoted : Bool) : Part :=
  let nameOf (text : List Char) : List Char :=
    match text with
    | [] => []
    | c :: rest =>
      if isNameStart c then c :: rest.takeWhile isNameChar
      else if c.isDigit then c :: rest.takeWhile Char.isDigit
      else if isSpecial c then [c]
      else []
  let plain (text : List Char) : Part :=
    let name := nameOf text
    if name.isEmpty then .faulty else .parameter name (text.drop name.length) quoted
  match text with
  | '#' :: rest =>
    let name := nameOf rest
    if !rest.isEmpty && name.length = rest.length then .size name else plain text
  | text => plain text

def dollar (quoted : Bool) (rest : List Char) : Part × List Char :=
  match rest with
  | '(' :: inner =>
    match inside ')' inner with
    | none => (.faulty, [])
    | some (text, rest) =>
      match text with
      | '(' :: expression =>
        match inside ')' expression with
        | some (expression, []) => (.number expression quoted, rest)
        | _ => (.output text quoted, rest)
      | text => (.output text quoted, rest)
  | '{' :: inner =>
    match inside '}' inner with
    | none => (.faulty, [])
    | some (text, rest) => (braced text quoted, rest)
  | c :: rest =>
    if isNameStart c then
      let name := c :: rest.takeWhile isNameChar
      (.parameter name [] quoted, (c :: rest).drop name.length)
    else if c.isDigit || isSpecial c then (.parameter [c] [] quoted, rest)
    else (.text ['$'] quoted, c :: rest)
  | [] => (.text ['$'] quoted, [])

/-- The parts of a text between double quotes; `escapable` are the marks that a backslash quotes
there. Fuel: each step takes a character. -/
def quotedParts (escapable : List Char) : Nat → List Char → List Part
  | 0, _ => []
  | _, [] => []
  | fuel + 1, '\\' :: '\n' :: rest => quotedParts escapable fuel rest
  | fuel + 1, '\\' :: c :: rest =>
    .text (if escapable.contains c then [c] else ['\\', c]) true :: quotedParts escapable fuel rest
  | fuel + 1, '$' :: rest =>
    let (part, rest) := dollar true rest
    part :: quotedParts escapable fuel rest
  | fuel + 1, '`' :: rest =>
    match inside '`' rest with
    | none => [.faulty]
    | some (text, rest) =>
      let marks := escapable.filter fun c => c ≠ '\x7d'
      .output (unquoteBack marks text) true :: quotedParts escapable fuel rest
  | fuel + 1, c :: rest => .text [c] true :: quotedParts escapable fuel rest

def betweenQuotes (text : List Char) : List Part :=
  (quotedParts ['$', '`', '"', '\\', '\x7d'] (text.length + 1) (withoutQuotes text))
where
  /-- The text without double quotes that no backslash stands before. -/
  withoutQuotes : List Char → List Char
    | '\\' :: c :: rest => '\\' :: c :: withoutQuotes rest
    | '"' :: rest => withoutQuotes rest
    | c :: rest => c :: withoutQuotes rest
    | [] => []

def documentParts (text : List Char) : List Part :=
  quotedParts ['$', '`', '\\'] (text.length + 1) text

def plainParts : Nat → List Char → List Part
  | 0, _ => []
  | _, [] => []
  | fuel + 1, '\\' :: '\n' :: rest => plainParts fuel rest
  | fuel + 1, '\\' :: c :: rest => .text [c] true :: plainParts fuel rest
  | fuel + 1, '\'' :: rest =>
    match inside '\'' rest with
    | none => [.faulty]
    | some (text, rest) => .text text true :: plainParts fuel rest
  | fuel + 1, '"' :: rest =>
    match inside '"' rest with
    | none => [.faulty]
    | some (text, rest) =>
      let parts := if text.isEmpty then [.text [] true]
        else quotedParts ['$', '`', '"', '\\'] (text.length + 1) text
      parts ++ plainParts fuel rest
  | fuel + 1, '$' :: rest =>
    let (part, rest) := dollar false rest
    part :: plainParts fuel rest
  | fuel + 1, '`' :: rest =>
    match inside '`' rest with
    | none => [.faulty]
    | some (text, rest) =>
      .output (unquoteBack ['\\', '$', '`'] text) false :: plainParts fuel rest
  | fuel + 1, c :: rest => .text [c] false :: plainParts fuel rest

def wordParts (word : List Char) : List Part :=
  plainParts (word.length + 1) word

/-! ### Tokens -/

/-- What a script is read as. A redirection has the number of a stream; a document has its text, and
says whether it is taken as it is. -/
inductive Token where
  | word (text : List Char)
  | mark (text : String)
  | redirect (stream : Nat) (mark : String)
  | document (stream : Nat) (isLiteral : Bool) (text : List Char)
  | line
deriving DecidableEq, Repr

def endsWord (c : Char) : Bool :=
  [' ', '\t', '\n', ';', '&', '|', '<', '>', '(', ')'].contains c

def takeWord : Nat → List Char → List Char → Option (List Char × List Char)
  | 0, done, rest => some (done.reverse, rest)
  | _, done, [] => some (done.reverse, [])
  | fuel + 1, done, c :: rest =>
    let through (closer : Char) (front rest : List Char) : Option (List Char × List Char) :=
      match scan (rest.length + 1) [closer] [] rest with
      | some (text, rest) => takeWord fuel (text.reverse ++ front ++ done) rest
      | none => none
    match c, rest with
    | '\\', d :: rest => takeWord fuel (d :: c :: done) rest
    | '\'', rest => through '\'' [c] rest
    | '"', rest => through '"' [c] rest
    | '`', rest => through '`' [c] rest
    | '$', '(' :: rest => through ')' ['(', '$'] rest
    | '$', '{' :: rest => through '}' ['{', '$'] rest
    | c, rest => if endsWord c then some (done.reverse, c :: rest) else takeWord fuel (c :: done) rest

def markOf : List Char → Option (String × List Char)
  | ';' :: ';' :: rest => some (";;", rest)
  | '&' :: '&' :: rest => some ("&&", rest)
  | '|' :: '|' :: rest => some ("||", rest)
  | c :: rest => if [';', '&', '|', '(', ')'].contains c then some (c.toString, rest) else none
  | [] => none

def redirectOf : List Char → Option (String × List Char)
  | '<' :: '<' :: '-' :: rest => some ("<<-", rest)
  | '<' :: '<' :: rest => some ("<<", rest)
  | '<' :: '&' :: rest => some ("<&", rest)
  | '<' :: '>' :: rest => some ("<>", rest)
  | '>' :: '>' :: rest => some (">>", rest)
  | '>' :: '&' :: rest => some (">&", rest)
  | '>' :: '|' :: rest => some (">|", rest)
  | '<' :: rest => some ("<", rest)
  | '>' :: rest => some (">", rest)
  | _ => none

def bare : List Char → List Char
  | '\\' :: c :: rest => c :: bare rest
  | c :: rest => if c = '\'' || c = '"' then bare rest else c :: bare rest
  | [] => []

/-- A document that is awaited: its stream, the line that ends it, whether it is taken as it is, and
whether tabs at the front of its lines are dropped. -/
structure Awaited where
  ending : List Char
  drops : Bool

def documentOf (a : Awaited) : Nat → List Char → List Char × List Char
  | 0, rest => ([], rest)
  | _, [] => ([], [])
  | fuel + 1, rest =>
    let line := rest.takeWhile (· ≠ '\n')
    let isLast := line.length = rest.length
    let after := rest.drop (line.length + 1)
    let line := if a.drops then line.dropWhile (· = '\t') else line
    if line = a.ending then ([], after)
    else if isLast then (line, [])
    else
      let (more, after) := documentOf a fuel after
      (line ++ '\n' :: more, after)

def endless : Token :=
  .mark ""

/-- The tokens of a script, each document's text behind the end of the line that announces it; `last`
is the token before. Fuel: each step takes a character. -/
def tokensFrom : Nat → List (Bool × Awaited) → Option Token → List Char → List Token
  | 0, _, _, _ => []
  | _, _, _, [] => []
  | fuel + 1, awaited, last, c :: rest =>
    let add (token : Token) (awaited : List (Bool × Awaited)) (rest : List Char) : List Token :=
      token :: tokensFrom fuel awaited (some token) rest
    if c = ' ' || c = '\t' then tokensFrom fuel awaited last rest
    else if c = '\\' && rest.head? = some '\n' then tokensFrom fuel awaited last (rest.drop 1)
    else if c = '#' then tokensFrom fuel awaited last (rest.dropWhile (· ≠ '\n'))
    else if c = '\n' then
      let (documents, rest) := awaited.foldl (fun (documents, rest) (isLiteral, a) =>
        let (text, rest) := documentOf a (rest.length + 1) rest
        (documents ++ [Token.document 0 isLiteral text], rest)) ([], rest)
      .line :: (documents ++ tokensFrom fuel [] (some .line) rest)
    else
      match redirectOf (c :: rest), markOf (c :: rest) with
      | some (mark, rest), _ => add (.redirect (if mark.startsWith "<" then 0 else 1) mark) awaited rest
      | none, some (mark, rest) => add (.mark mark) awaited rest
      | none, none =>
        match takeWord ((c :: rest).length + 1) [] (c :: rest) with
        | none => [endless]
        | some (word, rest) =>
          let number : Option Nat :=
            if word.all Char.isDigit && word.length = 1 then
              word.head?.map fun c => c.toNat - '0'.toNat
            else none
          match number, redirectOf rest with
          | some stream, some (mark, rest) => add (.redirect stream mark) awaited rest
          | _, _ =>
            match last with
            | some (.redirect _ mark) =>
              if mark = "<<" || mark = "<<-" then
                let isLiteral := word.any fun c => c = '\'' || c = '"' || c = '\\'
                add (.word word)
                  (awaited ++ [(isLiteral, { ending := bare word, drops := mark = "<<-" })]) rest
              else add (.word word) awaited rest
            | _ => add (.word word) awaited rest

def placed : List Token → List Token → List Token
  | documents, .redirect stream mark :: .word word :: rest =>
    if mark = "<<" || mark = "<<-" then
      match documents with
      | .document _ isLiteral text :: documents =>
        .document stream isLiteral text :: placed documents rest
      | _ => .document stream true [] :: placed [] rest
    else .redirect stream mark :: .word word :: placed documents rest
  | documents, token :: rest => token :: placed documents rest
  | _, [] => []

def tokens (script : List Char) : List Token :=
  let tokens := tokensFrom (script.length + 1) [] none script
  let isDocument : Token → Bool
    | .document .. => true
    | _ => false
  placed (tokens.filter isDocument) (tokens.filter fun token => !isDocument token)

/-! ### Commands -/

/-- A redirection of a stream: its mark and the word behind it, or the text of a document. -/
structure Redirect where
  stream : Nat
  mark : String
  target : List Char
deriving DecidableEq, Repr

/-- A command. Words are kept as they are written. -/
inductive Command where
  | simple (settings : List (List Char × List Char)) (words : List (List Char))
      (redirects : List Redirect)
  | sequence (first second : Command)
  | both (first second : Command)
  | either (first second : Command)
  | negated (command : Command)
  | piped (first second : Command)
  | background (command : Command)
  | subshell (command : Command)
  | choice (test yes no : Command)
  | loop (endsWhenTrue : Bool) (test body : Command)
  | each (name : List Char) (items : Option (List (List Char))) (body : Command)
  | cases (subject : List Char) (branches : List (List (List Char) × Command))
  | define (name : List Char) (body : Command)
  | redirected (command : Command) (redirects : List Redirect)
  | nothing
  /-- A part of a script that cannot be read. -/
  | faulty

def specials : List String :=
  [":", ".", "break", "continue", "eval", "exec", "exit", "export", "readonly", "return", "set",
    "shift", "times", "trap", "unset"]

def closing : List String :=
  ["then", "else", "elif", "fi", "do", "done", "esac", "\x7d"]

def setting? (word : List Char) : Option (List Char × List Char) :=
  let name := word.takeWhile (· ≠ '=')
  if isName name && name.length < word.length then some (name, word.drop (name.length + 1)) else none

def skipLines : List Token → List Token
  | .line :: rest => skipLines rest
  | tokens => tokens

def expect (text : String) : List Token → Option (List Token)
  | .word word :: rest => if word = text.toList then some rest else none
  | .mark mark :: rest => if mark = text then some rest else none
  | _ => none

def redirect? : List Token → Option (Redirect × List Token)
  | .redirect stream mark :: .word word :: rest => some ({ stream, mark, target := word }, rest)
  | .document stream isLiteral text :: rest =>
    some ({ stream, mark := if isLiteral then "<<'" else "<<", target := text }, rest)
  | _ => none

/-- All redirections at the front. Fuel: each takes a token. -/
def redirects : Nat → List Token → List Redirect × List Token
  | 0, tokens => ([], tokens)
  | fuel + 1, tokens =>
    match redirect? tokens with
    | some (first, rest) =>
      let (more, rest) := redirects fuel rest
      (first :: more, rest)
    | none => ([], tokens)

/-- The words and redirections of a simple command. Fuel: each step takes a token. -/
def simpleFrom : Nat → List (List Char × List Char) → List (List Char) → List Redirect →
    List Token → Option (Command × List Token)
  | 0, _, _, _, _ => none
  | fuel + 1, settings, words, targets, tokens =>
    match redirect? tokens, tokens with
    | some (target, rest), _ => simpleFrom fuel settings words (targets ++ [target]) rest
    | none, .redirect _ _ :: _ => none
    | none, .word word :: rest =>
      match if words.isEmpty then setting? word else none with
      | some setting => simpleFrom fuel (settings ++ [setting]) words targets rest
      | none => simpleFrom fuel settings (words ++ [word]) targets rest
    | none, rest => some (.simple settings words targets, rest)

def listedWords : List Token → List (List Char) × List Token
  | .word word :: rest =>
    let (more, rest) := listedWords rest
    (word :: more, rest)
  | .mark ";" :: rest => ([], rest)
  | tokens => ([], tokens)

def patternsFrom : Nat → List Token → Option (List (List Char) × List Token)
  | 0, _ => none
  | fuel + 1, .word word :: .mark "|" :: rest =>
    (patternsFrom fuel rest).map fun (more, rest) => (word :: more, rest)
  | _ + 1, .word word :: .mark ")" :: rest => some ([word], rest)
  | _ + 1, _ => none

mutual

def listFrom (fuel : Nat) (tokens : List Token) : Option (Command × List Token) :=
  match fuel with
  | 0 => none
  | fuel + 1 => do
    let (first, rest) ← chainFrom fuel (skipLines tokens)
    let (first, rest, goesOn) :=
      match rest with
      | .mark ";" :: rest => (first, rest, true)
      | .mark "&" :: rest => (Command.background first, rest, true)
      | .line :: rest => (first, rest, true)
      | rest => (first, rest, false)
    let rest := if goesOn then skipLines rest else rest
    let isOver :=
      match rest with
      | [] => true
      | .mark mark :: _ => mark = ")" || mark = ";;" || !goesOn
      | .word word :: _ => !goesOn || closing.contains (String.ofList word)
      | _ => !goesOn
    if isOver then return (first, rest)
    else
      let (second, rest) ← listFrom fuel rest
      return (.sequence first second, rest)

def chainFrom (fuel : Nat) (tokens : List Token) : Option (Command × List Token) :=
  match fuel with
  | 0 => none
  | fuel + 1 => do
    let (first, rest) ← pipelineFrom fuel tokens
    chainRest fuel first rest

def chainRest (fuel : Nat) (first : Command) (tokens : List Token) : Option (Command × List Token) :=
  match fuel with
  | 0 => none
  | fuel + 1 =>
    match tokens with
    | .mark "&&" :: rest => do
      let (second, rest) ← pipelineFrom fuel (skipLines rest)
      chainRest fuel (.both first second) rest
    | .mark "||" :: rest => do
      let (second, rest) ← pipelineFrom fuel (skipLines rest)
      chainRest fuel (.either first second) rest
    | rest => some (first, rest)

def pipelineFrom (fuel : Nat) (tokens : List Token) : Option (Command × List Token) :=
  match fuel with
  | 0 => none
  | fuel + 1 =>
    match expect "!" tokens with
    | some rest => do
      let (command, rest) ← pipedFrom fuel rest
      return (.negated command, rest)
    | none => pipedFrom fuel tokens

def pipedFrom (fuel : Nat) (tokens : List Token) : Option (Command × List Token) :=
  match fuel with
  | 0 => none
  | fuel + 1 => do
    let (first, rest) ← commandFrom fuel tokens
    match rest with
    | .mark "|" :: rest => do
      let (second, rest) ← pipedFrom fuel (skipLines rest)
      return (.piped first second, rest)
    | rest => return (first, rest)

def commandFrom (fuel : Nat) (tokens : List Token) : Option (Command × List Token) :=
  match fuel with
  | 0 => none
  | fuel + 1 =>
    let withRedirects (reading : Option (Command × List Token)) : Option (Command × List Token) :=
      reading.map fun (command, rest) =>
        match redirects (rest.length + 1) rest with
        | ([], rest) => (command, rest)
        | (targets, rest) => (.redirected command targets, rest)
    match tokens with
    | .mark "(" :: rest => withRedirects do
      let (command, rest) ← listFrom fuel rest
      return (.subshell command, ← expect ")" rest)
    | .word name :: .mark "(" :: .mark ")" :: rest =>
      if isName name && !specials.contains (String.ofList name) then do
        let (body, rest) ← commandFrom fuel (skipLines rest)
        return (.define name body, rest)
      else none
    | .word word :: rest =>
      match String.ofList word with
      | "\x7b" => withRedirects do
        let (command, rest) ← listFrom fuel rest
        return (command, ← expect "\x7d" rest)
      | "if" => withRedirects (choiceFrom fuel rest)
      | "while" => withRedirects (loopFrom fuel false rest)
      | "until" => withRedirects (loopFrom fuel true rest)
      | "for" => withRedirects (eachFrom fuel rest)
      | "case" => withRedirects (casesFrom fuel rest)
      | text => if text = "!" || closing.contains text then none else simpleFrom (tokens.length + 1) [] [] [] tokens
    | .redirect _ _ :: _ | .document .. :: _ => simpleFrom (tokens.length + 1) [] [] [] tokens
    | _ => none

def choiceFrom (fuel : Nat) (tokens : List Token) : Option (Command × List Token) :=
  match fuel with
  | 0 => none
  | fuel + 1 => do
    let (test, rest) ← listFrom fuel tokens
    let (yes, rest) ← listFrom fuel (← expect "then" rest)
    match expect "else" rest, expect "elif" rest with
    | some rest, _ => do
      let (no, rest) ← listFrom fuel rest
      return (.choice test yes no, ← expect "fi" rest)
    | none, some rest => do
      let (no, rest) ← choiceFrom fuel rest
      return (.choice test yes no, rest)
    | none, none => return (.choice test yes .nothing, ← expect "fi" rest)

def loopFrom (fuel : Nat) (endsWhenTrue : Bool) (tokens : List Token) : Option (Command × List Token) :=
  match fuel with
  | 0 => none
  | fuel + 1 => do
    let (test, rest) ← listFrom fuel tokens
    let (body, rest) ← listFrom fuel (← expect "do" rest)
    return (.loop endsWhenTrue test body, ← expect "done" rest)

def eachFrom (fuel : Nat) (tokens : List Token) : Option (Command × List Token) :=
  match fuel, tokens with
  | fuel + 1, .word name :: rest => do
    if !isName name then none
    let (items, rest) :=
      match expect "in" (skipLines rest), rest with
      | some rest, _ =>
        let (words, rest) := listedWords rest
        (some words, rest)
      | none, .mark ";" :: rest => (none, rest)
      | none, rest => (none, rest)
    let (body, rest) ← listFrom fuel (← expect "do" (skipLines rest))
    return (.each name items body, ← expect "done" rest)
  | _, _ => none

def casesFrom (fuel : Nat) (tokens : List Token) : Option (Command × List Token) :=
  match fuel, tokens with
  | fuel + 1, .word subject :: rest => do
    let rest ← expect "in" (skipLines rest)
    let (branches, rest) ← branchesFrom fuel (skipLines rest)
    return (.cases subject branches, rest)
  | _, _ => none

def branchesFrom (fuel : Nat) (tokens : List Token) :
    Option (List (List (List Char) × Command) × List Token) :=
  match fuel with
  | 0 => none
  | fuel + 1 =>
    match expect "esac" tokens with
    | some rest => some ([], rest)
    | none => do
      let rest := (expect "(" tokens).getD tokens
      let (patterns, rest) ← patternsFrom (rest.length + 1) rest
      let rest := skipLines rest
      let (body, rest) ←
        match rest with
        | .mark ";;" :: _ => some (Command.nothing, rest)
        | rest => if (expect "esac" rest).isSome then some (.nothing, rest) else listFrom fuel rest
      let ended := expect ";;" rest
      let (more, rest) ←
        match ended with
        | some rest => branchesFrom fuel (skipLines rest)
        | none => (expect "esac" rest).map fun rest => ([], rest)
      return ((patterns, body) :: more, rest)

end

/-- The scripts in the parts of words, and in the words that stand for missing values. Fuel: each step
goes into a word between braces. -/
def scriptsIn : Nat → List Part → List (List Char)
  | 0, _ => []
  | fuel + 1, parts =>
    parts.flatMap fun
      | .output script _ => [script]
      | .parameter _ use _ => scriptsIn fuel (wordParts use)
      | .number expression _ => scriptsIn fuel (betweenQuotes expression)
      | _ => []

def innerScripts (tokens : List Token) : List (List Char) :=
  tokens.flatMap fun
    | .word word => scriptsIn (word.length + 1) (wordParts word)
    | .document _ false text => scriptsIn (text.length + 1) (documentParts text)
    | _ => []

def lineFrom : Nat → List Token → Option (Command × List Token)
  | 0, _ => none
  | fuel + 1, tokens => do
    let (first, rest) ← chainFrom (8 * tokens.length + 8) tokens
    match rest with
    | [] => return (first, [])
    | .line :: rest => return (first, rest)
    | .mark ";" :: rest => further fuel first rest
    | .mark "&" :: rest => further fuel (.background first) rest
    | _ => none
where
  /-- The commands behind a semicolon, if the line goes on. -/
  further : Nat → Command → List Token → Option (Command × List Token)
    | 0, _, _ => none
    | fuel + 1, first, rest =>
      match rest with
      | [] => some (first, [])
      | .line :: rest => some (first, rest)
      | rest => do
        let (second, rest) ← lineFrom fuel rest
        return (.sequence first second, rest)

/-- The first line of tokens as a command, and the tokens behind it. A line that cannot be read, or one
with a script in a word that `reads` refuses, is a fault, and nothing is left behind it. -/
def firstLine? (reads : List Char → Bool) (tokens : List Token) : Option (Command × List Token) :=
  match skipLines tokens with
  | [] => none
  | tokens =>
    match lineFrom (8 * tokens.length + 8) tokens with
    | none => some (.faulty, [])
    | some (command, rest) =>
      let line := tokens.take (tokens.length - rest.length)
      if (innerScripts line).all reads then some (command, rest) else some (.faulty, [])

def commandsOf (reads : List Char → Bool) : Nat → List Token → List Command
  | 0, _ => []
  | fuel + 1, tokens =>
    match firstLine? reads tokens with
    | none => []
    | some (command, rest) => command :: commandsOf reads fuel rest

def commandsWithin : Nat → List Char → List Command
  | 0, _ => [.faulty]
  | fuel + 1, script =>
    let reads (inner : List Char) : Bool :=
      (commandsWithin fuel inner).all fun
        | .faulty => false
        | _ => true
    let tokens := tokens script
    commandsOf reads (tokens.length + 1) tokens

def commands (script : List Char) : List Command :=
  commandsWithin (script.length + 1) script

def isReadable (script : List Char) : Bool :=
  (commands script).all fun
    | .faulty => false
    | _ => true

/-! ### Aliases -/

def openings : List String :=
  ["!", "\x7b", "then", "else", "elif", "do", "while", "until", "if"]

def opensCommand : Token → Bool
  | .line => true
  | .mark _ => true
  | .word word => openings.contains (String.ofList word)
  | _ => false

/-- Whether the word behind one that stands for a text may stand for a text as well: that text ends with a
blank, or it is a word of that kind in turn. Fuel: each step takes a word. -/
def goesOnBehind (aliases : List (List Char × List Char)) : Nat → List Char → Bool
  | 0, _ => false
  | fuel + 1, text =>
    (text.getLast?.any fun c => c = ' ' || c = '\t') ||
      match tokens text with
      | [.word word] =>
        match aliases.lookup word with
        | some inner => inner ≠ text && goesOnBehind aliases fuel inner
        | none => false
      | _ => false

/-- The tokens with words replaced that stand for other texts, where a command begins; each is there with
the number of tokens that were read for it and those before. `known` are the words that have not been
replaced on the way to here. Fuel: each step takes a token. -/
def replaced (aliases : List (List Char × List Char)) :
    Nat → Bool → List (List Char) → Nat → List Token → List (Token × Nat)
  | 0, _, _, count, rest => rest.zipIdx.map fun (token, i) => (token, count + i + 1)
  | _, _, _, _, [] => []
  | fuel + 1, begins, used, count, token :: rest =>
    match token with
    | .redirect .. =>
      match rest with
      | .word word :: rest =>
        (token, count + 1) :: (.word word, count + 2) :: replaced aliases fuel begins used (count + 2) rest
      | rest => (token, count + 1) :: replaced aliases fuel begins used (count + 1) rest
    | .document .. => (token, count + 1) :: replaced aliases fuel begins used (count + 1) rest
    | .word word =>
      match if begins && !used.contains word then aliases.lookup word else none with
      | some text =>
        let inner := (replaced aliases fuel true (word :: used) 0 (tokens text)).map fun (token, _) =>
          (token, count + 1)
        let goesOn := goesOnBehind aliases (aliases.length + 1) text
        inner ++ replaced aliases fuel (goesOn || inner.isEmpty) used (count + 1) rest
      | none =>
        let isSetting := begins && (setting? word).isSome
        let next := isSetting || (begins && opensCommand token)
        (token, count + 1) :: replaced aliases fuel next used (count + 1) rest
    | token => (token, count + 1) :: replaced aliases fuel (opensCommand token) used (count + 1) rest

/-- The first line of tokens as a command, with words replaced that stand for other texts, and the tokens
behind it. -/
def nextLine? (aliases : List (List Char × List Char)) (tokens : List Token) :
    Option (Command × List Token) :=
  if aliases.isEmpty then firstLine? isReadable tokens
  else
    let all := replaced aliases (tokens.length * (aliases.length + 1) + 1) true [] 0 tokens
    (firstLine? isReadable (all.map (·.1))).map fun (command, rest) =>
      match all[all.length - rest.length - 1]? with
      | some (_, count) =>
        let begun := ((all.drop (all.length - rest.length)).takeWhile fun entry => entry.2 = count).map (·.1)
        (command, if rest.isEmpty then [] else begun ++ tokens.drop count)
      | none => (command, rest)

end Scalpel.Shell
