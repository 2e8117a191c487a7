import Scalpel.Files.Path
import Scalpel.Problem

/-!
A file system as a value. Every file, directory and symbolic link has one place, a list of names from
the root; paths lead to places by way of links. The operations fail as those of an operating system
do, for the owner of all files. Writing changes the entry of one place and no other.
-/

set_option autoImplicit false

namespace Scalpel

variable [Halves]

inductive Entry where
  | file (content : Bytes) (mode : Nat)
  | directory
  | link (target : List Char)
deriving DecidableEq

abbrev Place := List (List Char)

/-- A file system: what is where, the directory in which relative paths begin, and the paths that may
not be opened for writing. The root is a directory without an entry of its own. -/
structure FileTree where
  entries : List (Place × Entry) := []
  workingDirectory : String := "/"
  writeDenied : List String := []

namespace FileTree

/-! ### Places -/

def get? (t : FileTree) (place : Place) : Option Entry :=
  if place.isEmpty then some .directory else t.entries.lookup place

def put (t : FileTree) (place : Place) (entry : Entry) : FileTree :=
  { t with entries := (place, entry) :: t.entries.filter fun old => old.1 ≠ place }

def erase (t : FileTree) (place : Place) : FileTree :=
  { t with entries := t.entries.filter fun old => !place.isPrefixOf old.1 }

/-! ### Errors -/

/-- The errors that paths and files give rise to. -/
inductive Fault where
  | noEntry
  | permission
  | exists
  | notDirectory
  | isDirectory
  | nameTooLong
  | linkLoop
  | execFormat
deriving DecidableEq, Repr

def Fault.number : Fault → Int
  | .noEntry => 2
  | .execFormat => 8
  | .permission => 13
  | .exists => 17
  | .notDirectory => 20
  | .isDirectory => 21
  | .nameTooLong => 36
  | .linkLoop => 40

def Fault.text : Fault → String
  | .noEntry => "No such file or directory"
  | .execFormat => "Exec format error"
  | .permission => "Permission denied"
  | .exists => "File exists"
  | .notDirectory => "Not a directory"
  | .isDirectory => "Is a directory"
  | .nameTooLong => "File name too long"
  | .linkLoop => "Too many levels of symbolic links"

def Fault.about (fault : Fault) (path : String) : OsError :=
  { number := some fault.number, text := fault.text, path := some path }

/-! ### From paths to places -/

/-- How many links the operating system follows on the way to one file. -/
def linkLimit : Nat := 40

def byteCount (text : List Char) : Nat :=
  (Path.bytesOf text).length

/-- The way along names from a place. The last name is followed when it is a link, if `follow` says
so; it may be missing. The names of a link are walked before the rest. Fuel: every step uses up a
name, and each of the links that may be followed adds its own. -/
def walk (t : FileTree) (follow : Bool) : Nat → Nat → Place → List (List Char) →
    Except Fault (Place × Option Entry)
  | 0, _, _, _ => .error .linkLoop
  | fuel + 1, links, here, names =>
    match names with
    | [] => .ok (here, t.get? here)
    | name :: rest =>
      if name = [] || name = ['.'] then walk t follow fuel links here rest
      else if name = ['.', '.'] then walk t follow fuel links here.dropLast rest
      else if 255 < byteCount name then .error .nameTooLong
      else
        let there := here ++ [name]
        match t.get? there with
        | none => if rest.isEmpty then .ok (there, none) else .error .noEntry
        | some .directory => walk t follow fuel links there rest
        | some (.file content mode) =>
          if rest.isEmpty then .ok (there, some (.file content mode)) else .error .notDirectory
        | some (.link target) =>
          if rest.isEmpty && !follow then .ok (there, some (.link target))
          else
            match links with
            | 0 => .error .linkLoop
            | links + 1 =>
              let start := if target.head? = some '/' then [] else here
              walk t follow fuel links start (target.splitOn '/' ++ rest)

/-- A path with the working directory in front, unless it begins at the root, as it is shown. -/
def fullPath (t : FileTree) (path : String) : List Char :=
  Path.shown (if path.toList.head? = some '/' then path.toList
    else t.workingDirectory.toList ++ '/' :: path.toList)

def locate (t : FileTree) (follow : Bool) (path : String) : Except Fault (Place × Option Entry) :=
  if path.isEmpty then .error .noEntry
  else if 4096 ≤ byteCount path.toList then .error .nameTooLong
  else
    let full := t.fullPath path
    let longest := (t.entries.map fun old =>
      match old.2 with
      | .link target => target.length
      | _ => 0).foldl max 0
    walk t follow (full.length + 2 + (linkLimit + 1) * (longest + 2)) linkLimit [] (full.splitOn '/')

/-- What a path leads to, which must be there. A slash at the end asks for a directory. -/
def find (t : FileTree) (follow : Bool) (path : String) : Except Fault (Place × Entry) :=
  match t.locate follow path with
  | .error fault => .error fault
  | .ok (_, none) => .error .noEntry
  | .ok (place, some entry) => .ok (place, entry)

def exists? (t : FileTree) (path : String) : Bool :=
  !path.toList.contains '\x00' && (t.find true path).isOk

def isFile (t : FileTree) (path : String) : Bool :=
  !path.toList.contains '\x00' &&
    match t.find true path with
    | .ok (_, .file _ _) => true
    | _ => false

def isDirectory (t : FileTree) (path : String) : Bool :=
  !path.toList.contains '\x00' &&
    match t.find true path with
    | .ok (_, .directory) => true
    | _ => false

/-- Whether a path leads to something that its owner may execute or enter. -/
def isExecutable (t : FileTree) (path : String) : Bool :=
  !path.toList.contains '\x00' &&
    match t.find true path with
    | .ok (_, .file _ mode) => mode / 64 % 2 = 1
    | .ok (_, .directory) => true
    | _ => false

/-! ### Reading and writing -/

def readFile (t : FileTree) (path : String) : Except Fault Bytes :=
  match t.find true path with
  | .error fault => .error fault
  | .ok (_, .file content mode) => if mode / 256 % 2 = 1 then .ok content else .error .permission
  | .ok _ => .error .isDirectory

/-- A file opened for writing: it is empty afterwards, and is made if it was not there. The result
is its place and its mode. -/
def openForWriting (t : FileTree) (path : String) :
    Except Fault (FileTree × Place × Nat) :=
  if t.writeDenied.contains path then .error .permission
  else
    match t.locate true path with
    | .error fault => .error fault
    | .ok (place, some (.file _ mode)) =>
      if mode / 128 % 2 = 1 then .ok (t.put place (.file [] mode), place, mode)
      else .error .permission
    | .ok (_, some _) => .error .isDirectory
    | .ok (place, none) =>
      if path.toList.getLast? = some '/' then .error .isDirectory
      else .ok (t.put place (.file [] 0o644), place, 0o644)

def writeFile (t : FileTree) (path : String) (content : Bytes) :
    Except Fault FileTree :=
  match t.openForWriting path with
  | .error fault => .error fault
  | .ok (t, place, mode) => .ok (t.put place (.file content mode))

def makeDirectory (t : FileTree) (path : String) : Except Fault FileTree :=
  match t.locate false path with
  | .error fault => .error fault
  | .ok (_, some _) => .error .exists
  | .ok (place, none) => .ok (t.put place .directory)

/-! ### Arrangements -/

/-- What an arrangement puts at a path. -/
inductive Arrangement where
  | file (content : Bytes) (mode : Nat)
  | directory
  | link (target : List Char)
  | nothing
deriving DecidableEq

def withDirectories (t : FileTree) (place : Place) : FileTree :=
  (List.range (place.length + 1)).foldl (fun t count =>
    let here := place.take count
    if (t.get? here).isNone then t.put here .directory else t) t

/-- What is at a path, and below it, gives way to an arrangement. Missing directories on the way are
made. -/
def arrange (t : FileTree) (path : String) (what : Arrangement) : FileTree :=
  let full := t.fullPath path
  let parent := (full.reverse.dropWhile (· ≠ '/')).reverse
  let name := (full.reverse.takeWhile (· ≠ '/')).reverse
  let place :=
    match t.locate true (String.ofList parent) with
    | .ok (place, _) => place ++ [name]
    | .error _ => full.splitOn '/' |>.filter fun name => name ≠ [] && name ≠ ['.']
  let t := (t.withDirectories place.dropLast).erase place
  match what with
  | .nothing => t
  | .file content mode => t.put place (.file content mode)
  | .directory => t.put place .directory
  | .link target => t.put place (.link (Path.shown target))

/-- The files at and below a place, with their content; all of them must be readable. -/
def filesBelow (t : FileTree) (place : Place) : Except Fault (List (Place × Bytes)) :=
  t.entries.foldr (fun old found =>
    match found, old.2 with
    | .ok found, .file content mode =>
      if !place.isPrefixOf old.1 then .ok found
      else if mode / 256 % 2 = 1 then .ok ((old.1, content) :: found)
      else .error .permission
    | found, _ => found) (.ok [])

end FileTree

end Scalpel
