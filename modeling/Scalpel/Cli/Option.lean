import Scalpel.Cli.Exit

/-!
Similar words, for guessing what was meant. Two words are compared by what they have in common: the
longest block of characters that both contain, then the same on either side of it. The likeness is
twice the size of all blocks in proportion to the size of both words.
-/

set_option autoImplicit false

namespace Scalpel.Similar

def commonStart : List Char → List Char → Nat
  | c :: rest, d :: others => if c = d then commonStart rest others + 1 else 0
  | _, _ => 0

/-- A block that two words share: where it starts in each, and its size. -/
structure Block where
  left : Nat
  right : Nat
  size : Nat
deriving DecidableEq, Repr

def longestBlock (a b : List Char) : Block :=
  (List.range a.length).foldl (fun best left =>
    (List.range b.length).foldl (fun (best : Block) right =>
      let size := commonStart (a.drop left) (b.drop right)
      if best.size < size then { left, right, size } else best) best) { left := 0, right := 0, size := 0 }

def sharedSize : Nat → List Char → List Char → Nat
  | 0, _, _ => 0
  | fuel + 1, a, b =>
    let block := longestBlock a b
    if block.size = 0 then 0
    else block.size + sharedSize fuel (a.take block.left) (b.take block.right)
      + sharedSize fuel (a.drop (block.left + block.size)) (b.drop (block.right + block.size))

/-- A word with what it shares with another one. -/
structure Match where
  word : String
  shared : Nat
  total : Nat

def Match.of (word other : String) : Match :=
  { word
    shared := sharedSize (word.length + 1) word.toList other.toList
    total := word.length + other.length }

def Match.isClose (m : Match) : Bool :=
  6 * m.total ≤ 20 * m.shared

def Match.precedes (m n : Match) : Bool :=
  n.shared * m.total < m.shared * n.total ||
    (n.shared * m.total = m.shared * n.total && n.word ≤ m.word)

def closest (word : String) (words : List String) : List String :=
  let close := (words.map fun other => Match.of other word).filter Match.isClose
  (((close.mergeSort Match.precedes).take 3).map Match.word).mergeSort fun a b => a ≤ b

end Scalpel.Similar

/-! ### Options

A word that begins with a dash is an option by its long name, with or
without a value behind an equals sign, or else a cluster of options of one character each, of which
the last one may be followed by its value. Two dashes alone end the options. A word that is no option
is kept, in order.
-/

namespace Scalpel.Cli

open Scalpel

/-- The options that commands have. -/
inductive Key where
  | version
  | verbose
  | help
  | root
  | force
  | code
  | codeFile
  | dryRun
deriving DecidableEq, Repr

namespace Key

def long : Key → String
  | .version => "--version"
  | .verbose => "--verbose"
  | .help => "--help"
  | .root => "--root"
  | .force => "--force"
  | .code => "--code"
  | .codeFile => "--code-file"
  | .dryRun => "--dry-run"

def short? : Key → Option Char
  | .verbose => some 'v'
  | .root => some 'r'
  | _ => none

def takesValue : Key → Bool
  | .root | .code | .codeFile => true
  | _ => false

def title (key : Key) : String :=
  match key.short? with
  | some c => "'" ++ key.long ++ "' / '-" ++ String.singleton c ++ "'"
  | none => "'" ++ key.long ++ "'"

end Key

/-- The options of one word with their values; the last one may still lack its own, which is then
the next word. -/
structure Given where
  complete : List (Key × String) := []
  lacking : Option (Key × String) := none

def clusterGiven (keys : List Key) : List Char → Except Usage Given
  | [] => .ok {}
  | c :: rest =>
    match keys.find? fun key => key.short? = some c with
    | none => .error (.unknownOption ("-" ++ String.singleton c) [])
    | some key =>
      if key.takesValue then
        if rest.isEmpty then .ok { lacking := some (key, "-" ++ String.singleton c) }
        else .ok { complete := [(key, String.ofList rest)] }
      else do
        let given ← clusterGiven keys rest
        return { given with complete := (key, "") :: given.complete }

def longGiven (key : Key) (value : Option String) : Except Usage Given :=
  match key.takesValue, value with
  | true, some value => .ok { complete := [(key, value)] }
  | true, none => .ok { lacking := some (key, key.long) }
  | false, none => .ok { complete := [(key, "")] }
  | false, some _ => .error (.valueGiven key.long)

def atEquals (word : List Char) : String × Option String :=
  (String.ofList (word.takeWhile (· ≠ '=')),
    match word.dropWhile (· ≠ '=') with
    | [] => none
    | _ :: value => some (String.ofList value))

def optionsOf (keys : List Key) (word : List Char) : Except Usage Given :=
  let (name, value) := atEquals word
  match keys.find? fun key => key.long = name with
  | some key => longGiven key value
  | none =>
    if word.take 2 = ['-', '-'] then
      .error (.unknownOption name (Similar.closest name (keys.map Key.long)))
    else clusterGiven keys (word.drop 1)

/-- A command line taken apart: the options in the order given, and the other words. -/
structure Words where
  options : List (Key × String) := []
  words : List String := []
deriving DecidableEq, Repr

def Words.withOptions (options : List (Key × String)) (w : Words) : Words :=
  { w with options := options ++ w.options }

def Words.withWord (word : String) (w : Words) : Words :=
  { w with words := word :: w.words }

def isOption (word : String) : Bool :=
  match word.toList with
  | '-' :: _ :: _ => true
  | _ => false

/-- A command line is taken apart. `mixed` says that options may follow other words. -/
def takeApart (keys : List Key) (mixed : Bool) : List String → Except Usage Words
  | [] => .ok {}
  | word :: rest =>
    if word = "--" then .ok { words := rest }
    else if isOption word then
      match optionsOf keys word.toList with
      | .error usage => .error usage
      | .ok given =>
        match given.lacking, rest with
        | none, rest => (takeApart keys mixed rest).map (·.withOptions given.complete)
        | some (key, _), value :: rest =>
          (takeApart keys mixed rest).map (·.withOptions (given.complete ++ [(key, value)]))
        | some (_, name), [] => .error (.valueMissing name)
    else if mixed then (takeApart keys mixed rest).map (·.withWord word)
    else .ok { words := word :: rest }

def Words.given (w : Words) : List (Key × String) :=
  (w.options.foldl (fun (given : List (Key × String)) (key, value) =>
    if (given.lookup key).isSome then
      given.map fun entry => if entry.1 = key then (key, value) else entry
    else given ++ [(key, value)]) [])

end Scalpel.Cli
