import Scalpel.Session.Exchange
import Scalpel.Document.Tracker
import Scalpel.Report
import Scalpel.Files.Uri

/-!
The client of one language server for one root directory: its state, what it does when messages
arrive, and how documents are changed. The server may send edits of its own; they are applied to the
open documents and told back to the server as changes.
-/

set_option autoImplicit false

namespace Scalpel

variable [Halves]

inductive ClientState where
  | uninitialized
  | initializing
  | ready
  | degraded
  | restarting
  | shutDown
deriving DecidableEq, Repr

def ClientState.name : ClientState → String
  | .uninitialized => "uninitialized"
  | .initializing => "initializing"
  | .ready => "ready"
  | .degraded => "degraded"
  | .restarting => "restarting"
  | .shutDown => "shut_down"

def ClientState.ofName? (name : String) : Option ClientState :=
  [.uninitialized, .initializing, .ready, .degraded, .restarting, .shutDown].find?
    fun state => state.name = name

def ClientState.ofJson (value : Json) : Outcome ClientState :=
  let unknown : Outcome ClientState := .error (.notNamed value "ServerState")
  match value with
  | .str name =>
    match ofName? name with
    | some state => .ok state
    | none => unknown
  | _ => unknown

/-- The health of a client as callers see it. -/
structure Health where
  healthy : Bool := true
  state : ClientState := .uninitialized
  lastActivity : Float := 0.0
  restarting : Bool := false
  restartCount : Int := 0
  lastExitCode : Option Int := none

/-- Health as named values; `time` is when there was activity last. -/
def Health.fields (time : String) (h : Health) : Json.Fields :=
  [("healthy", .bool h.healthy), ("state", .str h.state.name), ("last_activity_at", .str time),
    ("restart_in_progress", .bool h.restarting), ("restart_count", .int h.restartCount),
    ("last_exit_code", .ofInt? h.lastExitCode)]

/-- Who is told that a server has ended. -/
inductive Listener where
  | monitor
  | observer
deriving DecidableEq, Repr

/-- The supervision of a client: how often its health is checked, the scheduled check while it runs,
and whether it is told of the server's end. -/
structure Monitor where
  interval : Json
  call : Option Nat := none
  subscribed : Bool := false

/-- A client. `attached` says that its connection carries a session; `launches` counts the transports
that were made for it. -/
structure Client where
  config : ServerConfig
  root : String
  settings : Settings
  documents : Tracker := {}
  capabilities : Json := .obj []
  diagnostics : List (String × List Diagnostic) := []
  attached : Bool := false
  state : ClientState := .uninitialized
  healthy : Bool := true
  restarting : Bool := false
  restartNeeded : Bool := false
  restartCount : Nat := 0
  launches : Nat := 0
  lastExitCode : Option Int := none
  lastActivity : Float := 0.0
  backoff : Option Nat := none
  listeners : List Listener := []
  heard : List ClientState := []
  monitor : Monitor

namespace Client

/-- A new client at a time. The health check has its own interval or that of the settings. -/
def make (config : ServerConfig) (root : String) (settings : Settings) (now : Float)
    (interval : Json := .null) : Client :=
  { config, root, settings, lastActivity := now
    monitor := { interval := interval.orElse settings.healthCheckInterval } }

def language (c : Client) : String :=
  c.config.language

def health (c : Client) : Health :=
  { healthy := c.healthy, state := c.state, lastActivity := c.lastActivity
    restarting := c.restarting, restartCount := c.restartCount, lastExitCode := c.lastExitCode }

/-- The client after an exchange with its server that went well. An exchange heals a client, unless
its server is known to have ended. -/
def touched (c : Client) (now : Float) : Client :=
  if c.state = .degraded && !c.restartNeeded then
    { c with lastActivity := now, state := .ready, healthy := true }
  else { c with lastActivity := now }

def isStale (c : Client) (now : Float) : Bool :=
  let idle := now - c.lastActivity
  match c.settings.heartbeatTimeout with
  | .int limit => (Decimal.Exact.ofFloat idle).exceeds limit
  | limit => Settings.seconds limit < idle

def markedDegraded (c : Client) : Client :=
  if c.state = .ready then { c with state := .degraded, healthy := false } else c

def published (c : Client) (uri : String) : List Diagnostic :=
  (c.diagnostics.lookup uri).getD []

def withDiagnostics (c : Client) (uri : String) (diagnostics : List Diagnostic) : Client :=
  { c with diagnostics := (uri, diagnostics) :: c.diagnostics.filter fun entry => entry.1 ≠ uri }

def withoutDiagnostics (c : Client) (uri : String) : Client :=
  { c with diagnostics := c.diagnostics.filter fun entry => entry.1 ≠ uri }

def obstacle? (c : Client) : Option Problem :=
  if c.restarting || c.state = .restarting then some (.restarting c.language)
  else if (c.state = .ready || c.state = .degraded) && c.attached then none
  else some (.notInitialized c.language c.state.name)

def folders (c : Client) (directory : String) : Json :=
  let base := Path.baseName c.root.toList
  .arr [.obj [("uri", .str (Uri.ofPath directory c.root)),
    ("name", .str (if base.isEmpty then c.root else String.ofList base))]]

variable {σ : Type}

def current : Action σ Client Client := do
  return (← get).owner

def update (f : Client → Client) : Action σ Client Unit :=
  Session.modifyOwner f

def setDocuments (documents : Tracker) : Action σ Client Unit :=
  update fun c => { c with documents }

def touch : Action σ Client Unit := do
  let now := (← get).world.clock.now
  update (·.touched now)

def needSession : Action σ Client Unit := do
  match (← current).obstacle? with
  | some problem => Session.raise problem
  | none => pure ()

def tell (send : String → Json → Action σ Client Unit) (method : String) (params : Json) :
    Action σ Client Unit := do
  needSession
  send method params
  touch

/-- An open document changes, and the server is told. A change that the server did not receive is
taken back. -/
def changeDocument (send : String → Json → Action σ Client Unit) (uri : String)
    (changes : List ContentChange) : Action σ Client OpenDocument := do
  needSession
  let previous ← Session.settle ((← current).documents.require uri)
  let (documents, document) ← Session.settle ((← current).documents.update uri changes)
  setDocuments documents
  let params : Json := .obj [
    ("textDocument", .obj [("uri", .str uri), ("version", .int document.version)]),
    ("contentChanges", .arr (changes.map ContentChange.toJson))]
  match ← Session.attempt (tell send "textDocument/didChange" params) with
  | .ok _ => return ((← current).documents.get? uri).getD document
  | .error failure => do
    match failure with
    | .problem { kind := .connectionClosed, .. } =>
      setDocuments ((← current).documents.revert uri previous.content previous.version)
    | _ => pure ()
    throw failure

/-! ### What arrives -/

def publish (params : Json) : Action σ Client Unit := do
  let items ← Session.settle (do (← params.optional "diagnostics" (.arr [])).listed)
  let diagnostics ← Session.settle (items.mapM Diagnostic.ofJson)
  match ← Session.settle (do (← params.need "uri").asKey) with
  | .str uri => update (·.withDiagnostics uri diagnostics)
  | _ => pure ()

def notified (method params : Json) : Action σ Client Unit := do
  if params.isTruthy then
    if method == .str "textDocument/publishDiagnostics" then publish params
    else if method == .str "window/logMessage" || method == .str "window/showMessage" then
      let _ ← Session.settle (params.optional "message" (.str ""))
  touch

/-- An edit of the server is applied to the open documents, and told back. Other documents of the
edit do not count. -/
def applyServerEdit [Peer σ] (edit : WorkspaceEdit) : Action σ Client Unit := do
  for (name, edits) in edit.changes do
    match name with
    | .stray _ => pure ()
    | .uri uri =>
      match (← current).documents.get? uri with
      | none => pure ()
      | some document => do
        let text ← Session.settle (Document.applyReceived document.content edits)
        let _ ← changeDocument Session.notifyWithin uri [{ text }]

def asked [Peer σ] (method params : Json) : Action σ Client Json := do
  let given := params.orElse (.obj [])
  if method == .str "workspace/configuration" then
    let items ← Session.settle (do (← given.optional "items" (.arr [])).listed)
    return .arr (items.map fun _ => .null)
  if method == .str "workspace/applyEdit" then
    let edit ← Session.settle (do WorkspaceEdit.ofJson (← given.optional "edit" .null))
    applyServerEdit edit
    return .obj [("applied", .bool true)]
  if method == .str "workspace/workspaceFolders" then
    return (← current).folders (← get).world.files.workingDirectory
  return .null

/-- A restart is begun, unless one is in progress or the client is shut down: the session ends by
way of `leave` and the clock is asked to start a new one after a pause. -/
def beginRestart (leave : Action σ Client Unit) : Action σ Client Bool := do
  let c ← current
  if c.state = .shutDown || c.restarting then return false
  update fun c => { c with
    restarting := true, healthy := false, state := .restarting, attached := false }
  if c.attached then leave
  let delay ← Session.settle (Settings.duration c.settings.restartBackoff)
  let s ← get
  let (id, clock) := s.world.clock.later delay
    { language := c.language, job := .restart }
  Session.modifyWorld fun world => { world with clock }
  update fun c => { c with backoff := some id }
  return true

def hear : Listener → Action σ Client Unit
  | .monitor => do
    if (← current).monitor.call.isSome then
      let _ ← beginRestart Session.closeWithin
  | .observer => update fun c => { c with heard := c.heard ++ [c.state] }

/-- The end of the server. Where the client is in a handshake or a restart, that one sees to it. -/
def ended (closure : Closure) : Action σ Client Unit := do
  update fun c => { c with lastExitCode := closure.exitCode }
  let c ← current
  if c.state = .shutDown || c.state = .uninitialized then return
  if c.state = .initializing && !c.restarting then return
  update fun c => { c with healthy := false }
  if c.restarting then return
  update fun c => { c with restartNeeded := true, state := .degraded }
  for listener in c.listeners do
    hear listener

def handlers [Peer σ] : Handlers σ Client :=
  { notified, asked, ended }

/-! ### Sending -/

def notify [Peer σ] (method : String) (params : Json) : Action σ Client Unit :=
  tell (Session.notify handlers) method params

/-- A request within the session; it has the time of the settings unless it has its own. -/
def request [Peer σ] (method : String) (params : Json) (timeout : Json := .null) :
    Action σ Client Json := do
  needSession
  let time := timeout.orElse (← current).settings.requestTimeout
  let result ← Session.request handlers method params time
  touch
  return result

end Client

end Scalpel
