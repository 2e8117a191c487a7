import Scalpel.Shell.Program
import Scalpel.Files.Canonical
import Scalpel.Json.Access

/-!
The directory of a bench. A bench is a workspace that exists only as a value, for trying things out;
it is written as a JSON object. In its texts `$ROOT` stands for the directory of the workspace and
`$TOP` for the one above; next to these there is no more than a shell needs.
-/

set_option autoImplicit false

namespace Scalpel.Bench

open Scalpel

variable [Halves]

/-! ### Parts of an object -/

def get (value : Json) (name : String) : Json :=
  (value.field? name).getD .null

def has (value : Json) (name : String) : Bool :=
  (value.field? name).isSome

def text? : Json → Option String
  | .str text => some text
  | _ => none

def text (value : Json) : String :=
  (text? value).getD ""

def textAt (value : Json) (name : String) : String :=
  text (get value name)

def items : Json → List Json
  | .arr items => items
  | _ => []

def fields : Json → Json.Fields
  | .obj fields => fields
  | _ => []

def flag (value : Json) (name : String) : Bool :=
  (get value name).isTruthy

/-! ### Where a bench is -/

def top : String := "/tmp/scratch/top"

def root : String := top ++ "/ws"

def replaced (old new : List Char) : Nat → List Char → List Char
  | 0, text => text
  | _, [] => []
  | fuel + 1, c :: rest =>
    if old.isPrefixOf (c :: rest) then new ++ replaced old new fuel (rest.drop (old.length - 1))
    else c :: replaced old new fuel rest

def swap (old new text : String) : String :=
  String.ofList (replaced old.toList new.toList (text.length + 1) text.toList)

def inwardText (text : String) : String :=
  swap "$TOP" top (swap "$ROOT" root text)

def outwardText (text : String) : String :=
  swap top "$TOP" (swap root "$ROOT" text)

def inward (value : Json) : Json :=
  value.mapText inwardText

def outward (value : Json) : Json :=
  value.mapText outwardText

/-! ### What is in it -/

def hexBytes : List Char → Bytes
  | high :: low :: rest =>
    (((Json.hexDigit? high).getD 0) * 16 + (Json.hexDigit? low).getD 0).toUInt8 :: hexBytes rest
  | _ => []

def octal (digits : String) : Nat :=
  digits.toList.foldl (fun n c => n * 8 + (c.toNat - '0'.toNat)) 0

def arrangement : Json → FileTree.Arrangement
  | .str text => .file (Utf8.encode text) 0o644
  | what =>
    let mode := if has what "mode" then octal (textAt what "mode") else 0o644
    if has what "text" then .file (Utf8.encode (textAt what "text")) mode
    else if has what "hex" then .file (hexBytes (textAt what "hex").toList) mode
    else if has what "symlink" then .link (textAt what "symlink").toList
    else if flag what "dir" then .directory
    else .nothing

def arrangements (value : Json) : List (String × FileTree.Arrangement) :=
  (items value).filterMap fun entry =>
    match items entry with
    | [path, what] => some (text path, arrangement what)
    | _ => none

def arranged (files : FileTree) (value : Json) : FileTree :=
  (arrangements value).foldl (fun files (path, what) => files.arrange path what) files

def empty : FileTree :=
  let nothing : FileTree := { workingDirectory := root }
  let directories := [top, root, "/usr/bin", "/etc"].foldl
    (fun (files : FileTree) path => files.arrange path .directory) nothing
  let programs := Shell.programs.foldl (fun (files : FileTree) name =>
    files.arrange ("/usr/bin/" ++ name) (.file Shell.programMark 0o755)) directories
  let others : List (String × FileTree.Arrangement) :=
    [("/etc/passwd", .file [] 0o644), ("/dev/null", .file [] 0o666),
      ("/bin", .link "usr/bin".toList)]
  others.foldl (fun files (path, what) => files.arrange path what) programs

def files (bench : Json) : FileTree :=
  arranged empty (get bench "files")

def contentJson (content : Bytes) : Json :=
  match Utf8.decode content with
  | .ok text => .str text
  | .error _ =>
    .obj [("hex", .str (String.ofList (content.flatMap fun byte => Text.hex 2 byte.toNat)))]

def relative (place : Place) : String :=
  let names (path : String) : Place := (path.toList.splitOn '/').filter fun name => !name.isEmpty
  String.ofList (Path.joinNames (if (names root).isPrefixOf place then place.drop (names root).length
    else ['.', '.'] :: place.drop (names top).length))

def filesJson (tree : FileTree) : Outcome Json :=
  match tree.filesBelow ((top.toList.splitOn '/').filter fun name => !name.isEmpty) with
  | .ok found =>
    .ok (.obj (found.map fun (place, content) => (relative place, contentJson content)))
  | .error fault => .error (.os (fault.about top))

end Scalpel.Bench
