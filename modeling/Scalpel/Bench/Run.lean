import Scalpel.Bench.Problems
import Scalpel.Cli.Run
import Scalpel.Wire.Script
import Scalpel.Workspace.Basic

/-!
The servers and the settings of a bench, as JSON objects, and commands on the bench. A server is
written with what its launches come to and, for each method, how it takes the messages of that method.
The commands find their executables in the directory `bin` of the workspace, and the servers of the
bench answer them.
-/

set_option autoImplicit false

namespace Scalpel.Bench

open Scalpel

variable [Halves]

/-! ### Scripts -/

def failure (name message : String) : Failure :=
  match Problem.Kind.ofName? name with
  | some kind =>
    match told kind [.str message] .null with
    | .ok told => .problem told.problem
    | .error failure => failure
  | none =>
    if name = "KeyError" then .missing message
    else if name = "ValueError" then .invalid message
    else .other name message

def ending (value : Json) : Closure :=
  .exited (get value "code").index? (text? (get value "error"))

def entry (value : Json) : Script.Entry :=
  let error := get value "error"
  let exit := get value "exit"
  { files := arrangements (get value "fs")
    refusal := text? (get value "refuse")
    before := items (get value "before")
    error := if error.isGiven then some error else none
    result := value.field? "result"
    silent := flag value "silent"
    after := items (get value "after")
    ending := if exit.isGiven then some (ending exit) else none }

def launch : Json → Script.Launch
  | .str "resolve" => .resolving
  | .obj given =>
    let name := textAt (.obj given) "error"
    .failing fun config =>
      if name = "BinaryNotFoundError" then .problem (.binaryNotFound config.command.shown)
      else failure name (textAt (.obj given) "message")
  | _ => .well

def plan (value : Json) : Script.Plan :=
  { launches := (items (get value "spawn")).map launch
    entries := (fields (get value "on")).map fun (method, list) => (method, (items list).map entry) }

def servers (value : Json) (searchPath : String) : Script.Servers :=
  { plans := ((fields value).filter fun entry => entry.1 ≠ "*").map fun (language, script) =>
      (language, plan script)
    shared := plan (get value "*")
    searchPath }

/-! ### Settings -/

def plainConfig : Json :=
  .obj [("command", .str "fake-ls"), ("extensions", .arr [.str ".py"])]

def serverTable (bench : Json) : Outcome ServerTable :=
  if has bench "servers" then
    (items (get bench "servers")).foldlM (fun table entry => do
      let language := text ((items entry).headD .null)
      return ServerTable.put table language
        (← ServerConfig.ofJson language ((items entry).getD 1 .null))) []
  else do return [("python", ← ServerConfig.ofJson "python" plainConfig)]

def settings (bench : Json) : Outcome Settings := do
  let short : Json.Fields :=
    ["request_timeout", "handshake_timeout", "shutdown_timeout"].map fun name => (name, .float 0.1)
  let given ← Settings.ofFields (Json.Fields.ofList (short ++ fields (get bench "settings")))
  return { given with servers := ← serverTable bench }

def environ (value : Json) : List (String × String) :=
  (fields value).map fun (name, value) => (name, text value)

def kept (text : String) : String :=
  String.ofList (Path.shown text.toList)

def denied (value : Json) : List String :=
  (items value).map fun path => String.ofList (Path.join root.toList (text path).toList)

/-- A workspace on a bench. The settings are those of the bench, unless they are to be loaded. -/
def workspace {σ : Type} (bench : Json) (server : σ) (path : String) : Outcome (Workspace σ) := do
  let files := files bench
  let settings ← if flag bench "load_settings" then pure none else some <$> settings bench
  return {
    world := { server, files, processId := .str "$PID" }
    root := ← files.resolveRoot path
    settings
    environ := (environ (get bench "environ")).map fun (name, value) =>
      (kept name, kept value) }

/-! ### Commands -/

def binaries : String := root ++ "/bin"

def around (bench : Json) : Outcome (World Script.Servers × Cli.Surroundings) := do
  let w ← workspace bench (servers (get bench "server") binaries) root
  let files := { w.world.files with writeDenied := denied (get bench "deny_write") }
  return ({ w.world with files },
    { settings := w.settings, environ := w.environ, searchPath := binaries })

def command (bench : Json) (arguments : List String) : Cli.Exit :=
  match around (inward bench) with
  | .error failure => .broken failure
  | .ok (world, surroundings) => (Cli.run surroundings (arguments.map inwardText) world).1

end Scalpel.Bench
