import Scalpel.Cli.Exit
import Scalpel.Cli.Option
import Scalpel.Edit.Operation
import Scalpel.Files.Canonical
import Scalpel.Text.Charset

/-!
The commands of the command line. Reading one checks the values of the options that are given, then
the arguments in order, then the options that are not given, then that no word is left; last of all the
files are read that a command takes its code or its operations from. Nothing is changed before a
command is read as a whole.
-/

set_option autoImplicit false

namespace Scalpel.Cli

open Scalpel

variable [Halves]

inductive Query where
  | symbols
  | find (name : String)
  | hover (place : Position)
  | references (name : String)
  | diagnostics

/-- A command with everything that it needs. -/
inductive Command where
  | init (path : String) (force : Bool)
  | status (root : String)
  | query (root file : String) (query : Query)
  | edit (root : String) (op : EditOperation)
  | batch (root : String) (ops : List EditOperation)

abbrev Reading (α : Type) := Except Exit α

def refuse {α : Type} (reason : Usage) : Reading α :=
  .error (.refused reason)

def settle {α : Type} : Outcome α → Reading α
  | .ok value => .ok value
  | .error failure => .error (.broken failure)

/-! ### Values -/

/-- A path that must not lead to anything but a kind of entry; `needed` says that it must lead
somewhere. -/
def checkPath (files : FileTree) (parameter : String) (kind : PathKind) (needed : Bool)
    (written path : String) : Reading Unit :=
  let bad (fault : ValueFault) : Reading Unit := refuse (.badValue parameter fault)
  do
    settle (Path.checkLookup path.toList)
    match files.find true path, kind with
    | .error _, kind => if needed then bad (.missing kind written) else .ok ()
    | .ok (_, .file _ _), .directory => bad (.otherKind .directory written)
    | .ok (_, .directory), .file => bad (.otherKind .file written)
    | .ok (_, .file _ mode), kind =>
      if mode / 256 % 2 = 1 then .ok () else bad (.unreadable kind written)
    | .ok _, _ => .ok ()

def rootAt (files : FileTree) (path : String) : Reading String := do
  let root ← settle (files.canonical? path)
  checkPath files Key.root.title .directory true path root
  return root

structure Options where
  root : Option String := none
  code : Option String := none
  codeFile : Option String := none
  force : Bool := false
  dryRun : Bool := false

def Options.take (files : FileTree) (o : Options) : Key × String → Reading Options
  | (.root, path) => do return { o with root := some (← rootAt files path) }
  | (.codeFile, path) => do
    checkPath files Key.codeFile.title .file true path path
    return { o with codeFile := some path }
  | (.code, code) => .ok { o with code := some code }
  | (.force, _) => .ok { o with force := true }
  | (.dryRun, _) => .ok { o with dryRun := true }
  | _ => .ok o

def Options.rootIn (files : FileTree) (o : Options) : Reading String :=
  match o.root with
  | some root => .ok root
  | none => rootAt files "."

def textIn (files : FileTree) (path : String) : Outcome String :=
  match files.readFile path with
  | .error fault => .error (.os (fault.about path))
  | .ok bytes => Text.ofFile bytes

def Options.codeIn (files : FileTree) (o : Options) : Reading String :=
  match o.code, o.codeFile with
  | some _, some _ => refuse .codeTwice
  | none, some file => settle (textIn files file)
  | some code, none => .ok code
  | none, none => refuse .noCode

/-- Whether a failure comes from what is written in a file, and not from the way to it or from a
value that is used as something it is not. -/
def isOfContent : Failure → Bool
  | .missing _ | .unreadable _ | .undecodable _ => true
  | failure => failure.isInvalid

def operationsIn (files : FileTree) (file : String) : Reading (List EditOperation) :=
  let entries : Outcome Json := do Json.parsed (← textIn files file)
  let asRead {α : Type} : Outcome α → Reading α
    | .ok value => .ok value
    | .error failure =>
      if isOfContent failure then refuse (.badOperations file failure.message)
      else .error (.broken failure)
  do
    match ← asRead entries with
    | .arr items => asRead (items.mapM EditOperation.ofJson)
    | _ => refuse (.noOperations file)

/-! ### Arguments -/

abbrev Line (α : Type) := StateT (List String) (Except Exit) α

def next (label : String) : Line String := do
  match ← get with
  | [] => throw (.refused (.argumentMissing label))
  | word :: rest => do
    set rest
    return word

def nextOr (fallback : String) : Line String := do
  match ← get with
  | [] => return fallback
  | word :: rest => do
    set rest
    return word

def nextWhole (label : String) : Line Int := do
  let word ← next label
  match (Json.str word).whole with
  | .ok n => return n
  | .error _ => throw (.refused (.badValue ("'" ++ label ++ "'") (.notWhole word)))

def lineEnd : Line Unit := do
  match ← get with
  | [] => return
  | words => throw (.refused (.wordsLeft words))

/-! ### Commands -/

/-- What there is to a command: its options, and how its arguments are read once the options are
known. -/
structure Shape where
  keys : List Key
  read : FileTree → Options → Line Command

def rootAtEnd (files : FileTree) (o : Options) : Line String := do
  let root ← o.rootIn files
  lineEnd
  return root

def askingShape (question : Line Query) : Shape where
  keys := [.root, .help]
  read files o := do
    let file ← next "FILE"
    let query ← question
    return .query (← rootAtEnd files o) file query

def codeShape (kind : EditKind) : Shape where
  keys := [.code, .codeFile, .root, .help]
  read files o := do
    let file ← next "FILE"
    let name ← next "NAME"
    let root ← rootAtEnd files o
    return .edit root { kind, uri := .str file, symbol := .str name, code := .str (← o.codeIn files) }

def initShape : Shape where
  keys := [.force, .help]
  read files o := do
    let path ← nextOr "."
    checkPath files "'[PATH]'" .directory false path path
    lineEnd
    return .init path o.force

def statusShape : Shape where
  keys := [.root, .help]
  read files o := return .status (← rootAtEnd files o)

def deleteShape : Shape where
  keys := [.root, .help]
  read files o := do
    let file ← next "FILE"
    let name ← next "NAME"
    return .edit (← rootAtEnd files o) { kind := .delete, uri := .str file, symbol := .str name }

def renameShape : Shape where
  keys := [.dryRun, .root, .help]
  read files o := do
    let file ← next "FILE"
    let old ← next "OLD_NAME"
    let new ← next "NEW_NAME"
    return .edit (← rootAtEnd files o)
      { kind := .refactor, uri := .str file, symbol := .str old, newName := .str new
        dryRun := o.dryRun }

def batchShape : Shape where
  keys := [.root, .help]
  read files o := do
    let file ← next "OPS_FILE"
    checkPath files "'OPS_FILE'" .file true file file
    let root ← rootAtEnd files o
    return .batch root (← operationsIn files file)

def shapes : List (String × Shape) :=
  [("init", initShape), ("status", statusShape), ("symbols", askingShape (return .symbols)),
    ("find", askingShape do return .find (← next "NAME")),
    ("hover", askingShape do
      let line ← nextWhole "LINE"
      return .hover ⟨line, ← nextWhole "COL"⟩),
    ("references", askingShape do return .references (← next "NAME")),
    ("diagnostics", askingShape (return .diagnostics)), ("insert-after", codeShape .insertAfter),
    ("replace", codeShape .replace), ("delete", deleteShape), ("rename", renameShape),
    ("batch", batchShape)]

/-! ### Command lines -/

def version : String := "0.1.0"

def help : String :=
  "Usage: tomos [OPTIONS] COMMAND [ARGS]...\n\nCommands:\n"
    ++ String.join (shapes.map fun (name, _) => "  " ++ name ++ "\n")

def wordsOf (keys : List Key) (mixed : Bool) (arguments : List String) : Reading Words := do
  match takeApart keys mixed arguments with
  | .error reason => refuse reason
  | .ok words =>
    let asking (key : Key) : Bool := key = .help || key = .version
    match (words.options.map (·.1)).find? asking with
    | some Key.version => .error (.done ("Tomos v" ++ version ++ "\n"))
    | some _ => .error (.done help)
    | none => return words

def frontKeys : List Key := [.version, .verbose, .help]

def Shape.command (shape : Shape) (files : FileTree) (arguments : List String) : Reading Command := do
  let words ← wordsOf shape.keys true arguments
  let options ← words.given.foldlM (Options.take files) {}
  let (command, _) ← (shape.read files options).run words.words
  return command

def unknownCommand (name : String) (arguments : List String) : Reading Command := do
  let _ ← wordsOf frontKeys false (name :: arguments)
  refuse (.unknownCommand name (Similar.closest name (shapes.map (·.1))))

def Command.read (files : FileTree) (arguments : List String) : Reading Command := do
  match (← wordsOf frontKeys false arguments).words with
  | [] => .error (.done help)
  | name :: rest =>
    match shapes.lookup name with
    | some shape => shape.command files rest
    | none => unknownCommand name rest

end Scalpel.Cli
