import Scalpel.Failure
import Scalpel.Files.Path
import Scalpel.Files.Tree
import Scalpel.Text.Coding.Basic

/-!
The canonical path of a path: absolute, without detours and without links. Names that are not there
are kept, and so is a link that leads back to itself together with what follows it. A path lies
within a root when its canonical path is that of the root or continues it at a slash.
-/

set_option autoImplicit false

namespace Scalpel.Path

variable [Halves]

/-- The bytes of a path. Halves that stand for no byte have none. -/
def bytes (path : List Char) : Outcome Bytes :=
  Coding.whereAll "utf-8" "surrogates not allowed"
    hasBytes bytesOf path

/-- A path can be looked up when it has bytes and holds no null character. -/
def checkLookup (path : List Char) : Outcome Unit := do
  let _ ← bytes path
  if path.contains '\x00' then .error (.invalid "embedded null byte")

end Scalpel.Path

namespace Scalpel.FileTree

open Scalpel

variable [Halves]

abbrev Seen := List (List Char × Option (List Char))

def linkAt? (t : FileTree) (path : List Char) : Outcome (Option (List Char)) := do
  Path.checkLookup path
  match t.find false (String.ofList path) with
  | .ok (_, .link target) => return some target
  | _ => return none

/-- A path that is resolved as far as its links allow. -/
structure Resolved where
  path : List Char
  isComplete : Bool
  seen : Seen

/-- A path resolved up to some name takes further names; behind a link that leads back to itself the
names are kept as they are. Fuel: each call uses up a name or enters a link for the first time. -/
def resolveNames (t : FileTree) : Nat → Seen → List Char → List (List Char) → Outcome Resolved
  | 0, seen, path, names =>
    .ok { path := Path.join path (Path.joinNames names), isComplete := false, seen }
  | fuel + 1, seen, path, names =>
    match names with
    | [] => .ok { path, isComplete := true, seen }
    | name :: rest =>
      if name = [] || name = ['.'] then resolveNames t fuel seen path rest
      else if name = ['.', '.'] then
        if path.isEmpty then resolveNames t fuel seen ['.', '.'] rest
        else
          let (before, last) := Path.split path
          if last = ['.', '.'] then
            resolveNames t fuel seen (Path.join (Path.join before last) name) rest
          else resolveNames t fuel seen before rest
      else do
        let next := Path.join path name
        match ← t.linkAt? next with
        | none => resolveNames t fuel seen next rest
        | some target =>
          match seen.lookup next with
          | some (some known) => resolveNames t fuel seen known rest
          | some none =>
            return { path := Path.join next (Path.joinNames rest), isComplete := false, seen }
          | none =>
            let start := if Path.isAbsolute target then ['/'] else path
            let found ← resolveNames t fuel ((next, none) :: seen) start (Path.names target)
            if found.isComplete then
              resolveNames t fuel ((next, some found.path) :: found.seen) found.path rest
            else return { found with path := Path.join found.path (Path.joinNames rest) }

def resolveFuel (t : FileTree) (path : List Char) : Nat :=
  path.length + 2 + (t.entries.map fun old =>
    match old.2 with
    | .link target => target.length + 2
    | _ => 1).sum

/-- The canonical path of a path. The names that are looked up must have bytes and must not hold a null
character. -/
def canonical? (t : FileTree) (path : String) : Outcome String := do
  let chars := path.toList
  let start := if Path.isAbsolute chars then ['/'] else []
  let found ← t.resolveNames (t.resolveFuel chars) [] start (Path.names chars)
  return String.ofList (Path.absolute t.workingDirectory.toList found.path)

/-- The canonical path of a directory to work in. A link on the way that leads back to itself is a
failure. -/
def resolveRoot (t : FileTree) (path : String) : Outcome String := do
  let found ← t.canonical? path
  Path.checkLookup found.toList
  match t.find true found with
  | .error .linkLoop => .error (.other "RuntimeError" ("Symlink loop from " ++ Text.quoted found))
  | _ => return found

def continues (path root : String) : Bool :=
  path = root || (root.toList ++ ['/']).isPrefixOf path.toList

def isWithin (t : FileTree) (path root : String) : Outcome Bool := do
  let path ← t.canonical? path
  let root ← t.canonical? root
  return continues path root

/-- The canonical path of a path below a root, which must lie within it. -/
def safeJoin (t : FileTree) (root path : String) : Outcome String := do
  if path.isEmpty then fail .emptyPath
  if path.toList.contains '\x00' then fail .nullInPath
  let joined ← t.canonical? (String.ofList (Path.join root.toList path.toList))
  if ← t.isWithin joined root then return joined
  fail (.outsideRoot path (← t.canonical? root) { additional := [("path", .str path)] })

end Scalpel.FileTree
