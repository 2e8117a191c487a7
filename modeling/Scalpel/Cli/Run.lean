import Scalpel.Cli.Command
import Scalpel.Server.Binary
import Scalpel.Workspace.Editing
import Scalpel.Workspace.Status

/-!
Running commands. A command that needs servers opens a workspace for itself and closes it when it is
done, however it ends. A question that meets a problem prints it; an edit prints its result.
-/

set_option autoImplicit false

namespace Scalpel.Cli

open Scalpel

variable [Halves]

variable {σ : Type}

/-- What commands find around them: settings, if they are given, the variables and the directories in
which executables are looked up. -/
structure Surroundings where
  settings : Option Settings := none
  environ : List (String × String) := []
  searchPath : String := ""

abbrev Effect (σ : Type) := World σ → Exit × World σ

def inWorkspace [Peer σ] (s : Surroundings) (root : String) (operation : Operation σ Exit) : Effect σ :=
  fun world =>
    let w : Workspace σ := { world, root, settings := s.settings, environ := s.environ }
    let (outcome, w) := operation.run w
    let (_, w) := Workspace.cleanUp.run w
    match outcome with
    | .ok exit => (exit, w.world)
    | .error failure => (.broken failure, w.world)

/-! ### Questions -/

def foundJson (name : String) : Option Symbol → Exit
  | some symbol => .json true (.obj (Json.Fields.ofList (("found", .bool true) :: symbol.fields)))
  | none => .json false (.obj [("found", .bool false), ("name", .str name)])

def answer [Peer σ] (file : String) : Query → Operation σ Exit
  | .symbols => do
    return .json true (.arr ((← Workspace.symbols file).map Symbol.toJson))
  | .find name => do return foundJson name (← Workspace.findSymbol file name)
  | .hover place => do return .json true (.obj [("hover", ← Workspace.hover file place)])
  | .references name => do
    return .json true (.arr ((← Workspace.references file name).map Location.toJson))
  | .diagnostics => do
    return .json true (.arr ((← Workspace.diagnostics file).map Diagnostic.toJson))

/-- A question that ends in any case, with a problem if need be. -/
def ask [Peer σ] (file : String) (query : Query) : Operation σ Exit := do
  let question : Operation σ Exit := do
    let _ ← Workspace.openUp
    answer file query
  match ← Workspace.attempt question with
  | .ok exit => return exit
  | .error failure => return .ofFailure failure

/-! ### Edits -/

def editOne [Peer σ] (op : EditOperation) : Operation σ Exit := do
  let _ ← Workspace.openUp
  let result ← Workspace.perform op
  return .json result.success result.toJson

def editAll [Peer σ] (ops : List EditOperation) : Operation σ Exit := do
  let _ ← Workspace.openUp
  let results ← Workspace.performAll ops
  return .json (results.all (·.success)) (.obj [
    ("total", .int ops.length), ("completed", .int results.length),
    ("results", .arr (results.map EditResult.toJson))])

/-! ### Setting up -/

def newConfig : Json :=
  let settings : Settings := {}
  .obj [("version", .str version), ("settings", .obj settings.plainFields),
    ("servers", settings.servers.toJson)]

def isThere (files : FileTree) (path : String) : Outcome Bool :=
  match files.find true path with
  | .ok _ => .ok true
  | .error .noEntry | .error .notDirectory | .error .linkLoop => .ok false
  | .error fault => .error (.os (fault.about path))

def writeConfig (files : FileTree) (path : String) : Outcome Unit × FileTree :=
  let directory := String.ofList (Path.directory path.toList)
  let (files, error) := Workspace.makeDirectories files (Workspace.waysTo directory)
  match error with
  | some error => (.error (.os error), files)
  | none =>
    match files.writeFile path (Utf8.encode (newConfig.indented ++ "\n")) with
    | .error fault => (.error (.os (fault.about path)), files)
    | .ok files => (.ok (), files)

def setUp (directory : String) (force : Bool) : Effect σ := fun world =>
  let config : Outcome (String × Bool) := do
    let path := Settings.configPath (← world.files.resolveRoot directory)
    return (path, ← isThere world.files path)
  match config with
  | .error failure => (.broken failure, world)
  | .ok (path, there) =>
    if there && !force then
      (.done ("Config already exists: " ++ path ++ " (use --force to overwrite)\n"), world)
    else
      match writeConfig world.files path with
      | (.error failure, files) => (.broken failure, { world with files })
      | (.ok _, files) => (.done ("Tomos initialized: " ++ path ++ "\n"), { world with files })

def serversJson (files : FileTree) (searchPath : String) (servers : ServerTable) : Outcome Json := do
  let described ← (Workspace.sortedLanguages servers).mapM fun language => do
    match servers.lookup language with
    | none => return (language, .null)
    | some config => do
      let available ← Binary.isAvailable files searchPath config.command
      return (language, Json.obj [("command", config.command),
        ("extensions", .arr (config.extensions.map .str)), ("available", .bool available)])
  return .obj described

def tellServers (s : Surroundings) (files : FileTree) (root : String) : Exit :=
  match Settings.load files (some root) s.environ with
  | .error failure => .ofFailure failure
  | .ok settings =>
    match serversJson files s.searchPath settings.servers with
    | .error failure => .broken failure
    | .ok servers => .json true (.obj [("root", .str root), ("servers", servers)])

/-! ### All commands -/

def Command.run [Peer σ] (s : Surroundings) : Command → Effect σ
  | .init path force => setUp path force
  | .status root => fun world => (tellServers s world.files root, world)
  | .query root file question => inWorkspace s root (ask file question)
  | .edit root op => inWorkspace s root (editOne op)
  | .batch root ops => inWorkspace s root (editAll ops)

def run [Peer σ] (s : Surroundings) (arguments : List String) : Effect σ := fun world =>
  match Command.read world.files arguments with
  | .error exit => (exit, world)
  | .ok command => command.run s world

end Scalpel.Cli
