import Scalpel.Wire.Peer
import Scalpel.Server.Binary

/-!
Servers that follow a script, for trying a client without any real server. A script gives for each
method what the server does the first time it receives it, the second time and so on; the last entry
holds for all later times. Launching a server goes by such a list too. The counts outlive a server,
so that a server that is started again goes on in its script.
-/

set_option autoImplicit false

namespace Scalpel.Script

open Scalpel

variable [Halves]

/-- How a server takes one message: changes of files, a refusal, messages before and after the
answer, the answer itself and the server's end. -/
structure Entry where
  files : List (String × FileTree.Arrangement) := []
  refusal : Option String := none
  before : List Json := []
  error : Option Json := none
  result : Option Json := none
  silent : Bool := false
  after : List Json := []
  ending : Option Closure := none

/-- How a launch goes: well, well if the command has an executable, or not. -/
inductive Launch where
  | well
  | resolving
  | failing (reason : ServerConfig → Failure)

structure Plan where
  launches : List Launch := []
  entries : List (String × List Entry) := []

/-- All servers with their scripts, and what was counted so far: launches by language, messages by
language and method. The script `shared` is that of languages without their own. -/
structure Servers where
  plans : List (String × Plan) := []
  shared : Plan := {}
  searchPath : String := ""
  launched : List (String × Nat) := []
  received : List ((String × String) × Nat) := []

def Servers.planOf (s : Servers) (language : String) : Plan :=
  (s.plans.lookup language).getD s.shared

def count {κ : Type} [BEq κ] (counts : List (κ × Nat)) (key : κ) : Nat × List (κ × Nat) :=
  let seen := (counts.lookup key).getD 0
  (seen, (key, seen + 1) :: counts.filter fun entry => !(entry.1 == key))

/-- The entry for the time with a number, counted from zero; the last one holds for all later
times. -/
def nth? {α : Type} : List α → Nat → Option α
  | [], _ => none
  | [entry], _ => some entry
  | entry :: _, 0 => some entry
  | _ :: rest, n + 1 => nth? rest n

def Entry.answer (entry : Entry) (method : String) (id : Json) : List Json :=
  let reply (field : String) (value : Json) : List Json :=
    [.obj [Connection.version, ("id", id), (field, value)]]
  match entry.error, entry.result with
  | some error, _ => reply "error" error
  | none, some result => reply "result" result
  | none, none =>
    if entry.silent then []
    else if method = "initialize" then reply "result" (.obj [("capabilities", .obj [])])
    else if method = "shutdown" then reply "result" .null
    else reply "error" (.obj [("code", .int Problem.methodNotFound),
      ("message", .str ("Unhandled method " ++ method))])

def Entry.arrivals (entry : Entry) (method : String) (id : Option Json) : List Inbound :=
  let answer :=
    match id with
    | some id => entry.answer method id
    | none => []
  (entry.before ++ answer ++ entry.after).map .message ++ entry.ending.toList.map .closure

/-- A server follows its script. What has no method is not in the script. -/
def Servers.react (s : Servers) (language : String) (message : Json) (files : FileTree) :
    Reaction × Servers :=
  match message.field? "method" with
  | some (.str method) =>
    let (seen, received) := count s.received (language, method)
    let entry := (nth? (((s.planOf language).entries.lookup method).getD []) seen).getD {}
    ({ files := entry.files.foldl (fun files (path, what) => files.arrange path what) files
       refusal := entry.refusal.map fun text => .problem (.closed text)
       arrivals := entry.arrivals method (message.field? "id") },
      { s with received })
  | _ => ({ files }, s)

def Servers.launch (s : Servers) (config : ServerConfig) (files : FileTree) :
    Outcome Launched × Servers :=
  let (seen, launched) := count s.launched config.language
  let outcome : Outcome Launched :=
    match (nth? (s.planOf config.language).launches seen).getD .well with
    | .well => .ok { name := config.language }
    | .failing reason => .error (reason config)
    | .resolving => do
      let _ ← Binary.resolve files s.searchPath config.command (some config.language)
      .ok { name := config.language }
  (outcome, { s with launched })

instance : Peer Servers where
  launch config _ _ files servers := servers.launch config files
  react language message files servers := servers.react language message files

end Scalpel.Script
