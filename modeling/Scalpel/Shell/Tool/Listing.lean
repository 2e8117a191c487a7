import Scalpel.Shell.Expansion
import Scalpel.Shell.Tool.Basic

/-!
The tool that lists what is in directories.
-/

set_option autoImplicit false

namespace Scalpel.Shell

open Scalpel

variable [Halves]

def quotedPath (path : List Char) : List Char :=
  '\'' :: path ++ ['\'']

def within (directory path : List Char) : List Char :=
  let front := if directory.getLast? = some '/' then directory else directory ++ ['/']
  front ++ Path.baseName ((path.reverse.dropWhile (· = '/')).reverse)

def kindMark (t : FileTree) (options : List Char) (path : List Char) : List Char :=
  if !options.contains 'F' && !options.contains 'p' then []
  else
    match t.find false (String.ofList path) with
    | .ok (_, .directory) => ['/']
    | .ok (_, .link _) => if options.contains 'F' then ['@'] else []
    | .ok (_, .file _ mode) => if options.contains 'F' && mode / 64 % 2 = 1 then ['*'] else []
    | .error _ => []

def listedNames (t : FileTree) (options : List Char) (path : List Char) : List (List Char) :=
  match t.find true (String.ofList path) with
  | .ok (place, .directory) =>
    let shows (name : List Char) : Bool :=
      name.head? ≠ some '.' || options.contains 'a' || options.contains 'A'
    let dots : List (List Char) := if options.contains 'a' then [['.'], ['.', '.']] else []
    let names := dots ++ (entryNames t place).filter shows
    let size (name : List Char) : Nat :=
      match t.readFile (String.ofList (within path name)) with
      | .ok content => content.length
      | .error _ => 4096
    let names := if options.contains 'S' then names.mergeSort fun a b => size b ≤ size a else names
    if options.contains 'r' then names.reverse else names
  | _ => []

/-- The directories at and below a path that are listed, each before those in it. Fuel: each step goes
into a directory. -/
def listedBelow (t : FileTree) (options : List Char) : Nat → List Char → List (List Char)
  | 0, _ => []
  | fuel + 1, path =>
    let inner := (listedNames t options path).filter fun name =>
      name ≠ ['.'] && name ≠ ['.', '.'] &&
        match t.find false (String.ofList (within path name)) with
        | .ok (_, .directory) => true
        | _ => false
    path :: inner.flatMap fun name => listedBelow t options fuel (within path name)

def listTool (t : FileTree) (setting : Setting) (words : List (List Char)) : Answer :=
  let options : Options :=
    { plain := "1aAdFprRSCxmtUhHlnogsiBvXcuNqkL", valued := "IwT",
      names := [("all", 'a'), ("almost-all", 'A'), ("directory", 'd'), ("classify", 'F'),
        ("recursive", 'R'), ("reverse", 'r'), ("color", '1')] }
  match options.read false ((words.map List.length).sum + words.length + 1) {} words with
  | .error reason => setting.misused reason 2
  | .ok choice =>
    let letters := choice.options.map (·.1)
    let isAlone := choice.operands.length ≤ 1 && !choice.has 'R'
    let paths := if choice.operands.isEmpty then [['.']] else choice.operands
    let ordered := paths.mergeSort fun a b => decide (Path.bytesOf a ≤ Path.bytesOf b)
    let ordered := if choice.has 'r' then ordered.reverse else ordered
    let (there, missing) := ordered.partition fun path => (t.find false (String.ofList path)).isOk
    let (directories, files) := there.partition fun path =>
      t.isDirectory (String.ofList path) && !choice.has 'd'
    let line (shown path : List Char) : List Char := shown ++ kindMark t letters path ++ ['\n']
    let block (path : List Char) : List Char :=
      (if isAlone then [] else path ++ [':', '\n'])
        ++ (listedNames t letters path).flatMap fun name => line name (within path name)
    let below := directories.flatMap fun path =>
      if choice.has 'R' then listedBelow t letters (t.entries.length + 1) path else [path]
    let blocks := (if files.isEmpty then [] else [files.flatMap fun path => line path path])
      ++ below.map block
    let complaint := (paths.filter missing.contains).flatMap fun path =>
      setting.name ++ ": cannot access ".toList ++ quotedPath path
        ++ (": " ++ FileTree.Fault.noEntry.text ++ "\n").toList
    { output := ['\n'].intercalate blocks, complaint, code := if missing.isEmpty then 0 else 2 }

end Scalpel.Shell
