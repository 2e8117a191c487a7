import Scalpel.Shell.State

/-!
Patterns of a shell. A star stands for any text, a question mark for any character, and brackets for
one character of a set. A character that is quoted stands for itself.
-/

set_option autoImplicit false

namespace Scalpel.Shell

abbrev Mark := Char × Bool

inductive Element where
  | any
  | one (test : Char → Bool)

def ofClass (name : String) (c : Char) : Bool :=
  match name with
  | "alpha" => c.isAlpha
  | "digit" => c.isDigit
  | "alnum" => c.isAlphanum
  | "upper" => 'A' ≤ c && c ≤ 'Z'
  | "lower" => 'a' ≤ c && c ≤ 'z'
  | "space" => [' ', '\t', '\n', '\r', '\x0b', '\x0c'].contains c
  | "blank" => c = ' ' || c = '\t'
  | "punct" => '!' ≤ c && c ≤ '~' && !c.isAlphanum
  | "xdigit" => c.isDigit || ('a' ≤ c && c ≤ 'f') || ('A' ≤ c && c ≤ 'F')
  | "cntrl" => c < ' ' || c = '\x7f'
  | "print" => ' ' ≤ c && c ≤ '~'
  | "graph" => '!' ≤ c && c ≤ '~'
  | _ => false

/-- The tests of the set up to its closing bracket, and what follows it. Fuel: each step takes a
character. -/
def setFrom : Nat → Bool → List (Char → Bool) → List Mark →
    Option (List (Char → Bool) × List Mark)
  | 0, _, _, _ => none
  | _, _, _, [] => none
  | fuel + 1, isFirst, tests, (c, quoted) :: rest =>
    if c = ']' && !quoted && !isFirst then some (tests, rest)
    else
      match c, rest with
      | '[', (':', false) :: more =>
        let name := more.takeWhile fun mark => mark.1.isAlpha
        match more.drop name.length with
        | (':', _) :: (']', _) :: after =>
          setFrom fuel false (ofClass (String.ofList (name.map (·.1))) :: tests) after
        | _ => setFrom fuel false ((· = c) :: tests) rest
      | c, ('-', false) :: (last, lastQuoted) :: more =>
        if last = ']' && !lastQuoted then setFrom fuel false ((· = c) :: tests) rest
        else setFrom fuel false ((fun d => c ≤ d && d ≤ last) :: tests) more
      | c, rest => setFrom fuel false ((· = c) :: tests) rest

def elementsFrom : Nat → List Mark → List Element
  | 0, _ => []
  | _, [] => []
  | fuel + 1, (c, quoted) :: rest =>
    if quoted then .one (· = c) :: elementsFrom fuel rest
    else if c = '*' then .any :: elementsFrom fuel rest
    else if c = '?' then .one (fun _ => true) :: elementsFrom fuel rest
    else if c = '[' then
      let isOpposite :=
        match rest with
        | ('!', false) :: _ | ('^', false) :: _ => true
        | _ => false
      match setFrom (rest.length + 1) true [] (if isOpposite then rest.drop 1 else rest) with
      | some (tests, rest) =>
        .one (fun d => (tests.any fun test => test d) != isOpposite) :: elementsFrom fuel rest
      | none => .one (· = c) :: elementsFrom fuel rest
    else .one (· = c) :: elementsFrom fuel rest

def elements (pattern : List Mark) : List Element :=
  elementsFrom (pattern.length + 1) pattern

def tails : List Char → List (List Char)
  | [] => [[]]
  | c :: rest => (c :: rest) :: tails rest

def fits : List Element → List Char → Bool
  | [], text => text.isEmpty
  | .any :: rest, text => (tails text).any (fits rest)
  | .one test :: rest, c :: text => test c && fits rest text
  | .one _ :: _, [] => false

def withoutFront (pattern : List Mark) (longest : Bool) (text : List Char) : List Char :=
  let counts := List.range (text.length + 1)
  let order := if longest then counts.reverse else counts
  match order.find? fun count => fits (elements pattern) (text.take count) with
  | some count => text.drop count
  | none => text

def withoutBack (pattern : List Mark) (longest : Bool) (text : List Char) : List Char :=
  let counts := List.range (text.length + 1)
  let order := if longest then counts else counts.reverse
  match order.find? fun count => fits (elements pattern) (text.drop count) with
  | some count => text.take count
  | none => text

def isPattern (pattern : List Mark) : Bool :=
  pattern.any fun (c, quoted) => !quoted && (c = '*' || c = '?' || c = '[')

/-! ### Words

Parameters give way to their values, scripts to their output and
expressions to their numbers; what comes of them outside of quotes is divided into fields, and fields
that are patterns give way to the names of files. A script in a word has to be carried out first: the
replacement stops there and begins anew when the script's output is known.
-/

open Scalpel

variable [Halves]

/-- Why a replacement stops: a script has to be carried out by the shell as it is then, or the shell
ends and says why. -/
inductive Stop where
  | needs (script : List Char) (reached : State)
  | fatal (reason : List Char)

abbrev Expand (α : Type) := StateT (State × List (List Char)) (Except Stop) α

/-- What a word is replaced by: characters, boundaries of fields and empty fields. -/
inductive Item where
  | char (c : Char) (quoted divides : Bool)
  /-- The end of a field; `joint` is put in its place where there are no fields. -/
  | gap (joint : List Char)
  | empty

def theShell : Expand State := do
  return (← get).1

def modifyShell (f : State → State) : Expand Unit :=
  modify fun (s, results) => (f s, results)

def resultOf (script : List Char) : Expand (List Char) := do
  match (← get).2 with
  | result :: rest =>
    modify fun (s, _) => (s, rest)
    return result
  | [] => throw (.needs script (← theShell))

def valueItems (quoted : Bool) (value : List Char) : List Item :=
  if value.isEmpty && quoted then [.empty] else value.map (.char · quoted (!quoted))

def itemChars (items : List Item) : List Char :=
  items.flatMap fun
    | .char c _ _ => [c]
    | .gap joint => joint
    | .empty => []

def byteMarks (marks : List Mark) : List Mark :=
  marks.flatMap fun (c, quoted) => (byteChars [c]).map (·, quoted)

def itemMarks (items : List Item) : List Mark :=
  byteMarks (items.flatMap fun
    | .char c quoted _ => [(c, quoted)]
    | .gap joint => joint.map (·, true)
    | .empty => [])

def parameter? (s : State) (name : List Char) : Option (List Char) :=
  match name with
  | ['?'] => some (toString s.status).toList
  | ['$'] => some (toString s.scope.number).toList
  | ['#'] => some (toString s.scope.arguments.length).toList
  | ['!'] => if s.jobCount = 0 then none else some (toString (ownNumber + s.jobCount)).toList
  | ['-'] => some (optionLetters.reverse.filter s.scope.options.contains)
  | ['0'] => some s.scope.name
  | ['@'] | ['*'] =>
    if s.scope.arguments.isEmpty then none else some ([' '].intercalate s.scope.arguments)
  | name =>
    if name.all Char.isDigit then
      let n := name.foldl (fun n c => n * 10 + (c.toNat - 48)) 0
      if n = 0 then some s.scope.name else s.scope.arguments[n - 1]?
    else s.get? name

def argumentItems (s : State) (name : Char) (quoted : Bool) : List Item :=
  let arguments := s.scope.arguments
  let joint := if name = '*' then s.dividers.take 1 else [' ']
  if name = '*' && quoted then valueItems true (joint.intercalate arguments)
  else [Item.gap joint].intercalate (arguments.map (valueItems quoted))

def evaluate (text : List Char) : Expand Int := do
  let s ← theShell
  let value := (expressionOf text).bind fun expression =>
    expression.value (fun s name => (State.get? s name).getD []) State.set s
  match value with
  | .ok (n, s) => do
    modifyShell fun _ => s
    return n
  | .error fault => throw (.fatal (fault.message text))

/-- What is done with a value that is missing, or is there. -/
inductive Use where
  | plain
  | instead (word : List Char)
  | setting (word : List Char)
  | needed (word : List Char)
  | whenThere (word : List Char)
  | cutFront (longest : Bool) (word : List Char)
  | cutBack (longest : Bool) (word : List Char)
  | faulty

/-- What is written behind the name of a parameter; the mark of a colon says that an empty value counts
as missing. -/
def useOf (text : List Char) : Use × Bool :=
  match text with
  | [] => (.plain, false)
  | '#' :: '#' :: word => (.cutFront true word, false)
  | '#' :: word => (.cutFront false word, false)
  | '%' :: '%' :: word => (.cutBack true word, false)
  | '%' :: word => (.cutBack false word, false)
  | text =>
    let hasColon := text.head? = some ':'
    let use : Use :=
      match if hasColon then text.drop 1 else text with
      | '-' :: word => .instead word
      | '=' :: word => .setting word
      | '?' :: word => .needed word
      | '+' :: word => .whenThere word
      | _ => .faulty
    (use, hasColon)

def dividing : Item → Item
  | .char c false _ => .char c false true
  | item => item

def isUnset (s : State) (name : List Char) (value : Option (List Char)) : Bool :=
  value.isNone && s.scope.options.contains 'u' && name ≠ ['@'] && name ≠ ['*']

def badUse : Stop :=
  .fatal "Bad substitution".toList

def missing (name : List Char) : Stop :=
  .fatal (name ++ ": parameter not set".toList)

/-- What parts of a word are replaced by. Fuel: each step goes into a word between braces. -/
def expandParts : Nat → List Part → Expand (List Item)
  | 0, _ => throw badUse
  | fuel + 1, parts => do
    let items ← parts.mapM fun part => do
      match part with
      | .text chars quoted =>
        return if chars.isEmpty then [Item.empty] else chars.map (.char · quoted false)
      | .faulty => throw badUse
      | .output script quoted => return valueItems quoted (← resultOf script)
      | .number expression quoted => do
        let items ← expandParts fuel (betweenQuotes expression)
        return valueItems quoted (toString (← evaluate (itemChars items))).toList
      | .size name => do
        let s ← theShell
        let value := parameter? s name
        if isUnset s name value then throw (missing name)
        return valueItems false (toString (Path.bytesOf (value.getD [])).length).toList
      | .parameter name use quoted => do
        let s ← theShell
        let value := parameter? s name
        let (use, hasColon) := useOf use
        let isMissing := value.isNone || (hasColon && value = some [])
        let whole : List Item :=
          match name with
          | ['@'] => argumentItems s '@' quoted
          | ['*'] => argumentItems s '*' quoted
          | _ => valueItems quoted (value.getD [])
        let word (text : List Char) : Expand (List Item) := do
          if quoted then
            let items ← expandParts fuel (betweenQuotes text)
            return if items.isEmpty then [.empty] else items
          else return (← expandParts fuel (wordParts text)).map dividing
        let pattern (text : List Char) : Expand (List Mark) := do
          return itemMarks (← expandParts fuel (wordParts text))
        match use with
        | .plain =>
          if isUnset s name value then throw (missing name) else return whole
        | .instead text => if isMissing then word text else return whole
        | .whenThere text =>
          if isMissing then return (if quoted then [.empty] else []) else word text
        | .needed text =>
          if !isMissing then return whole
          else if text.isEmpty then
            throw (.fatal (name ++ ": parameter not set".toList ++ if hasColon then " or null".toList else []))
          else throw (.fatal (name ++ ": ".toList ++ itemChars (← word text)))
        | .setting text =>
          if isMissing then do
            let items ← word text
            if !isName name then throw badUse
            if s.isFixed name then throw (.fatal (name ++ ": is read only".toList))
            modifyShell fun s => s.set name (itemChars items)
            return valueItems quoted (itemChars items)
          else return whole
        | .cutFront longest text => do
          if isUnset s name value then throw (missing name)
          let rest := withoutFront (← pattern text) longest (byteChars (value.getD []))
          return valueItems quoted (ofByteChars rest)
        | .cutBack longest text => do
          if isUnset s name value then throw (missing name)
          let rest := withoutBack (← pattern text) longest (byteChars (value.getD []))
          return valueItems quoted (ofByteChars rest)
        | .faulty => throw badUse
    return items.flatten

/-- The items of a word as it is written. A tilde at its front stands for a directory. -/
def expandWord (word : List Char) : Expand (List Item) := do
  let home := (parameter? (← theShell) "HOME".toList).map fun home =>
    home.map fun c => Item.char c true false
  let rest := word.drop 1
  let isTilde := word.head? = some '~' && (rest.isEmpty || rest.head? = some '/')
  match isTilde, home with
  | true, some home => return home ++ (← expandParts (rest.length + 2) (wordParts rest))
  | _, _ => expandParts (word.length + 2) (wordParts word)

def expandText (word : List Char) : Expand (List Char) := do
  return itemChars (← expandWord word)

/-! ### Fields -/

/-- Fields that are done and the field that is begun, both in reverse order; `afterBlank` says that a
blank has just ended a field. -/
structure Fields where
  done : List (List Mark) := []
  current : Option (List Mark) := none
  afterBlank : Bool := false

def Fields.close (f : Fields) : List (List Mark) :=
  match f.current with
  | some field => field.reverse :: f.done
  | none => f.done

/-- An item joins the fields. Blanks around fields do not count; another divider ends a field, which
may be empty. -/
def Fields.add (dividers : List Char) (f : Fields) (item : Item) : Fields :=
  match item with
  | .gap _ => { done := f.close }
  | .empty => { f with current := some (f.current.getD []), afterBlank := false }
  | .char c quoted divides =>
    if divides && dividers.contains c then
      if c = ' ' || c = '\t' || c = '\n' then
        { done := f.close, afterBlank := f.afterBlank || f.current.isSome }
      else if f.current.isNone && f.afterBlank then { f with afterBlank := false }
      else { done := (f.current.getD []).reverse :: f.done }
    else { f with current := some ((c, quoted) :: f.current.getD []), afterBlank := false }

def fields (dividers : List Char) (items : List Item) : List (List Mark) :=
  (items.foldl (Fields.add dividers) {}).close.reverse

/-! ### Names of files -/

def entryNames (t : FileTree) (place : Place) : List (List Char) :=
  let names := t.entries.filterMap fun entry =>
    if entry.1.length = place.length + 1 && place.isPrefixOf entry.1 then entry.1.getLast? else none
  names.eraseDups.mergeSort fun a b => decide (Path.bytesOf a ≤ Path.bytesOf b)

def pathsFrom (t : FileTree) : List Char → List (List Mark) → List (List Char)
  | path, [] => [path]
  | path, part :: rest =>
    let here := if path.isEmpty then "." else String.ofList path
    let isLast := rest.isEmpty
    if !isPattern part then
      let path := path ++ part.map (·.1)
      if isLast then (if part.isEmpty || t.exists? (String.ofList path) then [path] else [])
      else pathsFrom t (path ++ ['/']) rest
    else
      match t.find true here with
      | .ok (place, .directory) =>
        let names := (entryNames t place).filter fun name =>
          fits (elements (byteMarks part)) (byteChars name) && (name.head? ≠ some '.' || (part.head?.map (·.1)) = some '.')
        names.flatMap fun name =>
          let path := path ++ name
          if isLast then [path]
          else if t.isDirectory (String.ofList path) then pathsFrom t (path ++ ['/']) rest
          else []
      | _ => []

def pathParts (field : List Mark) : List (List Mark) :=
  field.splitOnP fun mark => mark.1 = '/'

def fieldWords (t : FileTree) (field : List Mark) : List (List Char) :=
  let itself := field.map (·.1)
  if !isPattern field then [itself]
  else
    match pathsFrom t [] (pathParts field) with
    | [] => [itself]
    | paths => paths

def expandWords (word : List Char) : Expand (List (List Char)) := do
  let items ← expandWord word
  let s ← theShell
  let fields := fields s.dividers items
  if s.scope.options.contains 'f' then return fields.map fun field => field.map (·.1)
  return fields.flatMap (fieldWords s.tree)

end Scalpel.Shell
