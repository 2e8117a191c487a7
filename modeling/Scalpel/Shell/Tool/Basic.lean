import Scalpel.Shell.Format

/-!
Programs that make a text of other texts. What such a program prints, what it complains about and what it
writes follow from its words, from its input and from the files that it reads.
-/

set_option autoImplicit false

namespace Scalpel.Shell

open Scalpel

variable [Halves]

/-! ### What a tool sees and does -/

structure Setting where
  /-- How the tool was called. -/
  name : List Char
  /-- The content of a file. -/
  file : List Char → Except FileTree.Fault Bytes
  /-- What there is of the input. -/
  input : Bytes
  /-- Whether the input is over. -/
  isOver : Bool
  /-- Whether the input is a file. -/
  isFile : Bool := false

structure Answer where
  /-- What has been printed and complained about in turn. -/
  earlier : List (List Char × List Char) := []
  /-- What is complained about before the rest is printed. -/
  complaint : List Char := []
  output : List Char := []
  code : Nat := 0
  /-- How much of the input is read, if not all of it. -/
  taken : Option Nat := none
  /-- How much of the input counts as read if it is a file, where that is less. -/
  left : Option Nat := none
  /-- The files that are written: the path, the content and whether it goes behind what is there. -/
  written : List (List Char × Bytes × Bool) := []

abbrev Tool := Setting → List (List Char) → Option Answer

def inChunks (size needed available : Nat) : Nat :=
  min available ((max 1 needed + size - 1) / size * size)

def Answer.complaining (answer : Answer) (text : List Char) (code : Nat) : Answer :=
  { answer with earlier := answer.earlier ++ [(answer.output, text)], output := [], code }

def Setting.refuse (setting : Setting) (text : String) (code : Nat) : Answer :=
  { complaint := setting.name ++ (": " ++ text ++ "\n").toList, code }

def Setting.misused (setting : Setting) (text : String) (code : Nat) : Answer :=
  let hint := "Try '".toList ++ setting.name ++ " --help' for more information.\n".toList
  { complaint := setting.name ++ (": " ++ text ++ "\n").toList ++ hint, code }

def inQuotes (word : List Char) : String :=
  "‘" ++ String.ofList word ++ "’"

/-- The content of the files that are named, or the input if there are none; a hyphen stands for the
input. Nothing comes of it as long as the input is needed and goes on. -/
def Setting.contents? (setting : Setting) (files : List (List Char)) :
    Option (List (List Char × Except FileTree.Fault Bytes)) :=
  let files := if files.isEmpty then [['-']] else files
  files.mapM fun file =>
    if file = ['-'] then if setting.isOver then some (file, .ok setting.input) else none
    else some (file, setting.file file)

/-- What is printed of each content in turn, what is complained about, and the code of the last
failure. -/
def Setting.each (setting : Setting) (contents : List (List Char × Except FileTree.Fault Bytes))
    (f : List Char → Bytes → List Char)
    (reason : List Char → FileTree.Fault → List Char := fun file fault =>
      file ++ (": " ++ fault.text).toList)
    (code : Nat := 1) : Answer :=
  contents.foldl (fun (answer : Answer) (file, content) =>
    match content with
    | .ok bytes => { answer with output := answer.output ++ f file bytes }
    | .error fault =>
      answer.complaining (setting.name ++ ": ".toList ++ reason file fault ++ ['\n']) code) {}

def cannotOpen (file : List Char) (fault : FileTree.Fault) : List Char :=
  let path := "'".toList ++ file ++ ['\'']
  if fault = .isDirectory then "error reading ".toList ++ path ++ (": " ++ fault.text).toList
  else "cannot open ".toList ++ path ++ (" for reading: " ++ fault.text).toList

/-! ### Options -/

/-- The options that a tool knows: letters, letters that take a value, and names for letters. -/
structure Options where
  plain : String := ""
  valued : String := ""
  names : List (String × Char) := []

/-- What words ask for: the options with their values, and the other words. -/
structure Choice where
  options : List (Char × List Char) := []
  operands : List (List Char) := []

def Choice.has (choice : Choice) (letter : Char) : Bool :=
  (choice.options.lookup letter).isSome

def Choice.value? (choice : Choice) (letter : Char) : Option (List Char) :=
  choice.options.reverse.lookup letter

def Choice.values (choice : Choice) (letter : Char) : List (List Char) :=
  choice.options.filterMap fun (c, value) => if c = letter then some value else none

def Options.letter? (options : Options) (name : List Char) : Option Char :=
  match options.names.lookup (String.ofList name) with
  | some letter => some letter
  | none =>
    match options.names.filter fun entry => name.isPrefixOf entry.1.toList with
    | [(_, letter)] => some letter
    | _ => none

/-- What words ask for; options may stand behind other words unless `inOrder` says that they may not.
Fuel: each step takes a word or a letter. -/
def Options.read (options : Options) (inOrder : Bool) : Nat → Choice → List (List Char) →
    Except String Choice
  | 0, choice, _ => .ok choice
  | fuel + 1, choice, words =>
    let go (option : Char × List Char) (rest : List (List Char)) : Except String Choice :=
      options.read inOrder fuel { choice with options := choice.options ++ [option] } rest
    match words with
    | [] => .ok choice
    | ['-', '-'] :: rest => .ok { choice with operands := choice.operands ++ rest }
    | ('-' :: '-' :: long) :: rest =>
      let name := long.takeWhile (· ≠ '=')
      match options.letter? name with
      | none => .error ("unrecognized option '--" ++ String.ofList long ++ "'")
      | some letter =>
        if !options.valued.toList.contains letter then go (letter, []) rest
        else if name.length < long.length then go (letter, long.drop (name.length + 1)) rest
        else
          match rest with
          | value :: rest => go (letter, value) rest
          | [] => .error ("option '--" ++ String.ofList long ++ "' requires an argument")
    | ('-' :: letter :: more) :: rest =>
      if options.valued.toList.contains letter then
        if !more.isEmpty then go (letter, more) rest
        else
          match rest with
          | value :: rest => go (letter, value) rest
          | [] => .error ("option requires an argument -- '" ++ String.singleton letter ++ "'")
      else if options.plain.toList.contains letter then
        go (letter, []) (if more.isEmpty then rest else ('-' :: more) :: rest)
      else .error ("invalid option -- '" ++ String.singleton letter ++ "'")
    | word :: rest =>
      if inOrder then .ok { choice with operands := choice.operands ++ words }
      else options.read inOrder fuel { choice with operands := choice.operands ++ [word] } rest

def Options.tool (options : Options) (code : Nat) (run : Setting → Choice → Option Answer) : Tool :=
  fun setting words =>
    match options.read false ((words.map List.length).sum + words.length + 1) {} words with
    | .ok choice => run setting choice
    | .error reason => some (setting.misused reason code)

end Scalpel.Shell
