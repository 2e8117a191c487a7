import Scalpel.Shell.Control

/-!
What is set for a shell besides its variables, and how it is shown: words that stand for other texts, the
rights that new files do not get, options, and how far the options among the arguments have been read.
-/

set_option autoImplicit false

namespace Scalpel.Shell

open Scalpel

variable [Halves]

def singleQuoted (text : List Char) : List Char :=
  go (text.length + 1) text
where
  /-- Fuel: each step takes a character. -/
  go : Nat → List Char → List Char
    | 0, _ => []
    | fuel + 1, text =>
      let front := text.takeWhile (· ≠ '\'')
      let quotes := (text.drop front.length).takeWhile (· = '\'')
      let rest := text.drop (front.length + quotes.length)
      '\'' :: front ++ ['\''] ++ (if quotes.isEmpty then [] else '"' :: quotes ++ ['"'])
        ++ (if rest.isEmpty then [] else go fuel rest)

namespace State

/-! ### Aliases -/

def aliasRank (name : List Char) : Nat :=
  ((name.headD '\x00').toNat * 16 + ((Path.bytesOf name).map UInt8.toNat).sum) % 39

def aliasLine (name value : List Char) : List Char :=
  name ++ '=' :: singleQuoted value ++ ['\n']

def aliasWords (s : State) (words : List (List Char)) : State :=
  if words.isEmpty then
    let listed := s.scope.aliases.mergeSort fun a b => aliasRank a.1 ≤ aliasRank b.1
    s.print (listed.flatMap fun (name, value) => aliasLine name value) 0
  else
    words.foldl (fun (s : State) word =>
      let name := word.take 1 ++ (word.drop 1).takeWhile (· ≠ '=')
      if name.length < word.length then
        let value := word.drop (name.length + 1)
        s.modifyScope fun scope =>
          { scope with aliases :=
              if (scope.aliases.lookup name).isSome then
                scope.aliases.map fun entry => if entry.1 = name then (name, value) else entry
              else scope.aliases ++ [(name, value)] }
      else
        match s.scope.aliases.lookup name with
        | some value => s.print (aliasLine name value) s.status
        | none => (s.complain ("alias: ".toList ++ name ++ " not found\n".toList)).withStatus 1)
      (s.withStatus 0)

def forgetAliases (s : State) (words : List (List Char)) : State :=
  words.foldl (fun (s : State) name =>
    if name = ['-', 'a'] then s.modifyScope fun scope => { scope with aliases := [] }
    else if (s.scope.aliases.lookup name).isSome then
      s.modifyScope fun scope => { scope with aliases := scope.aliases.filter fun entry => entry.1 ≠ name }
    else (s.complain ("unalias: ".toList ++ name ++ " not found\n".toList)).withStatus 1) (s.withStatus 0)

/-! ### Rights -/

def rightBits (letters : List Char) : Nat :=
  (if letters.contains 'r' then 4 else 0) + (if letters.contains 'w' then 2 else 0)
    + (if letters.contains 'x' || letters.contains 'X' then 1 else 0)

def changedRights? (mode : Nat) (clause : List Char) : Option Nat :=
  let who := clause.takeWhile fun c => "ugoa".toList.contains c
  match clause.drop who.length with
  | sign :: letters =>
    if !"+-=".toList.contains sign || letters.any fun c => !"rwxXst".toList.contains c then none
    else
      let who := if who.isEmpty || who.contains 'a' then ['u', 'g', 'o'] else who
      let places := (if who.contains 'u' then [64] else []) ++ (if who.contains 'g' then [8] else [])
        ++ (if who.contains 'o' then [1] else [])
      let bits := rightBits letters
      some (places.foldl (fun mode place =>
        let own := mode / place % 8
        let new := if sign = '+' then own ||| bits else if sign = '-' then own - (own &&& bits) else bits
        mode - own * place + new * place) mode)
  | [] => none

def rightsFrom? (mode : Nat) (text : List Char) : Option Nat :=
  if !text.isEmpty && text.all fun c => '0' ≤ c && c ≤ '7' then
    some ((octalOf text.length text).1 % 4096)
  else (text.splitOn ',').foldlM changedRights? mode

def rightLetters (mode : Nat) : List Char :=
  let letters (place : Nat) : List Char :=
    (if mode / place / 4 % 2 = 1 then ['r'] else []) ++ (if mode / place / 2 % 2 = 1 then ['w'] else [])
      ++ (if mode / place % 2 = 1 then ['x'] else [])
  "u=".toList ++ letters 64 ++ ",g=".toList ++ letters 8 ++ ",o=".toList ++ letters 1

def maskWords (s : State) (words : List (List Char)) : State :=
  let isShown := words.contains ['-', 'S']
  match words.filter fun word => word ≠ ['-', 'S'] && word ≠ ['-', '-'] with
  | [] =>
    if isShown then s.print (rightLetters (0o777 - s.scope.mask % 512) ++ ['\n']) 0
    else
      let digits := Nat.toDigits 8 s.scope.mask
      s.print (List.replicate (4 - digits.length) '0' ++ digits ++ ['\n']) 0
  | word :: _ =>
    let isNumber := word.head?.any Char.isDigit
    let new : Option Nat :=
      if isNumber then
        if word.all fun c => '0' ≤ c && c ≤ '7' then some ((octalOf word.length word).1 % 512) else none
      else (rightsFrom? (0o777 - s.scope.mask % 512) word).map fun mode => 0o777 - mode % 512
    match new with
    | some mask => (s.modifyScope fun scope => { scope with mask }).withStatus 0
    | none =>
      let reason := if isNumber then "umask: Illegal number: " else "umask: Illegal mode: "
      (s.protest (reason.toList ++ word)).withStatus 2

/-! ### Options -/

def shownOptions : List (String × Option Char) :=
  optionNames.map (fun (name, letter) => (name, some letter))
    ++ [("privileged", none), ("nolog", none), ("debug", none)]

def isSet (s : State) (letter : Option Char) : Bool :=
  letter.any s.scope.options.contains

def optionTable (s : State) : List Char :=
  "Current option settings\n".toList ++ shownOptions.flatMap fun (name, letter) =>
    name.toList ++ List.replicate (16 - name.length) ' '
      ++ (if s.isSet letter then "on\n".toList else "off\n".toList)

def optionCommands (s : State) : List Char :=
  shownOptions.flatMap fun (name, letter) =>
    (if s.isSet letter then "set -o " else "set +o ").toList ++ name.toList ++ ['\n']

/-! ### Variables -/

def variableLines (s : State) (front : String) (test : Variable → Bool) : List Char :=
  let chosen := s.scope.store.filter fun entry => test entry.2 && isName entry.1
  let sorted := chosen.mergeSort fun a b => decide (Path.bytesOf a.1 ≤ Path.bytesOf b.1)
  sorted.flatMap fun (name, held) =>
    let setting := held.value.elim [] fun value => '=' :: singleQuoted value
    front.toList ++ name ++ setting ++ ['\n']

/-! ### Options among the arguments -/

/-- What a step comes to: the option or a question mark, the value if there is one, whether it is over,
and a complaint. -/
structure OptionStep where
  letter : Char := '?'
  value : Option (List Char) := none
  isOver : Bool := false
  complaint : List Char := []
  place : OptionPlace

/-- What stands behind an option in a list of options: nothing when it is not listed, else whether it takes
a value. -/
def takesValue? (listed : List Char) (letter : Char) : Option Bool :=
  match listed with
  | [] => none
  | c :: rest =>
    match rest with
    | ':' :: more => if c = letter then some true else takesValue? more letter
    | rest => if c = letter then some false else takesValue? rest letter

def nextOption (listed : List Char) (words : List (List Char)) (place : OptionPlace) : OptionStep :=
  let before := words.getD (place.index - 2) []
  let inWord : Option (List Char) :=
    place.offset.bind fun offset =>
      if place.index ≤ 1 || before.length < offset then none
      else if (before.drop offset).isEmpty then none else some (before.drop offset)
  let quiet := listed.head? = some ':'
  let found : Option (List Char × Nat) :=
    match inWord with
    | some rest => some (rest, place.index)
    | none =>
      match words[place.index - 1]? with
      | some ('-' :: c :: rest) => some (c :: rest, place.index + 1)
      | _ => none
  match found with
  | none => { isOver := true, place := { index := place.index } }
  | some (text, index) =>
    if inWord.isNone && text = ['-'] then { isOver := true, place := { index } }
    else
      let letter := text.headD '?'
      let rest := text.drop 1
      let word := words.getD (index - 2) []
      let here : OptionPlace := { index, offset := some (word.length - rest.length) }
      match if letter = ':' then none else takesValue? listed letter with
      | none =>
        { value := if quiet then some [letter] else none, place := here
          complaint := if quiet then [] else "Illegal option -".toList ++ [letter, '\n'] }
      | some false => { letter, value := some [], place := here }
      | some true =>
        if !rest.isEmpty then { letter, value := some rest, place := { index } }
        else
          match words[index - 1]? with
          | some value => { letter, value := some value, place := { index := index + 1 } }
          | none =>
            { letter := if quiet then ':' else '?', value := if quiet then some [letter] else none
              complaint := if quiet then [] else "No arg for -".toList ++ [letter] ++ " option\n".toList
              place := { index } }

/-- The next option among the arguments, or among given words, becomes the value of a variable. -/
def readOption (s : State) (words : List (List Char)) : State :=
  match words with
  | listed :: name :: given =>
    if !isName name then
      (s.protest ("getopts: ".toList ++ name ++ ": bad variable name".toList)).withStatus 2
    else
    let all := if given.isEmpty then s.scope.arguments else given
    let place := if all.length + 1 < s.scope.place.index then {} else s.scope.place
    let step := nextOption listed all place
    let s := if step.complaint.isEmpty then s else s.complain step.complaint
    let s := if step.isOver then s
      else match step.value with
        | some value => s.set "OPTARG".toList value
        | none => s.putVariable "OPTARG".toList none
    let s := s.set "OPTIND".toList (toString step.place.index).toList
    let s := s.set name [if step.isOver then '?' else step.letter]
    { s.modifyScope fun scope => { scope with place := step.place } with
      status := if step.isOver then 1 else 0 }
  | _ => (s.protest "getopts: Usage: getopts optstring var [arg...]".toList).withStatus 2

end State

end Scalpel.Shell
