import Scalpel.Files.Path
import Scalpel.Files.Tree
import Scalpel.Json.Access

/-!
The executable of a configured command. A command that holds characters with a meaning for a shell is
refused. An absolute command must be an executable file; a command with a slash in it is looked up as
a path; any other name is looked up in the directories of the search path, in order.
-/

set_option autoImplicit false

namespace Scalpel.Binary

open Scalpel

variable [Halves]

def shellCharacters : List Char :=
  ";&|$`<>()\x7b\x7d*?!\n\r\x00".toList

def shellCharactersOf (characters : List Char) : List Char :=
  characters.foldl (fun found c =>
    if shellCharacters.contains c && !found.contains c then found ++ [c] else found) []

def foundIn (text : String) : List Char :=
  shellCharactersOf text.toList

/-- The shell characters that a command lists: the characters of a text, or the items of a list that
are one character each. -/
def foundInCommand (command : Json) : Outcome (List Char) := do
  let listed ← command.listed
  let items ← listed.mapM Json.asKey
  return shellCharactersOf (items.filterMap fun item =>
    match item with
    | .str text => if text.length = 1 then text.toList.head? else none
    | _ => none)

/-- Whether a command is an absolute path, with or without a drive letter in front. -/
def isAbsolute (command : String) : Bool :=
  match command.toList with
  | '/' :: _ => true
  | drive :: ':' :: slash :: _ => drive.isAlpha && (slash = '\\' || slash = '/')
  | _ => false

def isRunnable (t : FileTree) (path : String) : Bool :=
  t.exists? path && t.isExecutable path && !t.isDirectory path

/-- The first runnable file of a name in a list of directories; an empty directory is the working
directory. -/
def inDirectories? (t : FileTree) (command : String) (directories : List (List Char)) :
    Option String :=
  (directories.map fun directory => String.ofList (Path.join directory command.toList)).find?
    (isRunnable t)

def which? (t : FileTree) (search command : String) : Option String :=
  if !(Path.directory command.toList).isEmpty then
    if isRunnable t command then some command else none
  else if search.isEmpty then none
  else inDirectories? t command ((Path.shown search.toList).splitOn ':')

def resolve (t : FileTree) (search : String) (command : Json) (language : Option String) :
    Outcome String := do
  let context : Problem.Context :=
    { operation := some "resolve_binary", language, component := some "binary" }
  let found ← foundInCommand command
  if !found.isEmpty then fail (.shellCharacters command found context)
  match command with
  | .str command =>
    if isAbsolute command then
      if t.isFile command && t.isExecutable command then return command
      fail (.binaryNotFound command context)
    match which? t search command with
    | some path => return path
    | none => fail (.binaryNotFound command context)
  | value => .error (.misuse (.listed value))

/-- Whether a command has an executable; a value that is no command is a failure. -/
def isAvailable (t : FileTree) (search : String) (command : Json) : Outcome Bool :=
  match resolve t search command none with
  | .ok _ => .ok true
  | .error (.problem _) => .ok false
  | .error failure => .error failure

end Scalpel.Binary
