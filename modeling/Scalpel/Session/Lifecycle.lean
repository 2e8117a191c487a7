import Scalpel.Json.Basic
import Scalpel.Session.Client

/-!
How a client comes to life, ends, and is brought back when its server has ended. A session begins
with a handshake, in which a client tells its server of itself. A restart ends the session at once and
begins a new one after a pause, in which every open document is opened again at version 1. The monitor
restarts a client whose server has ended and marks a client as degraded that had no exchange for too
long.
-/

set_option autoImplicit false

namespace Scalpel.Capabilities

private def fixed (more : Json.Fields) : Json :=
  .obj (("dynamicRegistration", .bool false) :: more)

private def formats : Json :=
  .arr [.str "markdown", .str "plaintext"]

def textDocument : Json :=
  .obj [
    ("synchronization", fixed [("didSave", .bool true), ("willSave", .bool false),
      ("willSaveWaitUntil", .bool false)]),
    ("completion", fixed [("completionItem",
      .obj [("snippetSupport", .bool false), ("documentationFormat", formats)])]),
    ("hover", fixed [("contentFormat", formats)]),
    ("documentSymbol", fixed [("hierarchicalDocumentSymbolSupport", .bool true),
      ("symbolKind", .obj [("valueSet", .arr ((List.range 26).map fun n => .int (Int.ofNat n + 1)))])]),
    ("definition", fixed [("linkSupport", .bool true)]),
    ("references", fixed []),
    ("rename", fixed [("prepareSupport", .bool false)]),
    ("publishDiagnostics", .obj [("relatedInformation", .bool true)])]

def workspace : Json :=
  .obj [
    ("applyEdit", .bool true),
    ("workspaceEdit", .obj [("documentChanges", .bool true)]),
    ("configuration", .bool true),
    ("workspaceFolders", .bool true)]

def all : Json :=
  .obj [("textDocument", textDocument), ("workspace", workspace),
    ("window", .obj [("workDoneProgress", .bool false)])]

end Scalpel.Capabilities

namespace Scalpel.Client

variable [Halves]

variable {σ : Type}

def setState (state : ClientState) : Action σ Client Unit :=
  update fun c => { c with state }

/-! ### The beginning of a session -/

def handshakeParams (c : Client) (directory : String) (processId : Json) : Json :=
  .obj ([
    ("processId", processId),
    ("clientInfo", .obj [("name", .str "tomos")]),
    ("rootUri", .str (Uri.ofPath directory c.root)),
    ("rootPath", .str c.root),
    ("workspaceFolders", c.folders directory),
    ("capabilities", Capabilities.all),
    ("trace", .str "off")]
    ++ (if c.config.initializationOptions.isGiven then
      [("initializationOptions", c.config.initializationOptions)] else []))

/-- The server is launched. When that fails for a reported problem, the client is as before. -/
def launch [Peer σ] (before : ClientState) : Action σ Client Unit := do
  let s ← get
  let c := s.owner
  let (outcome, server) := Peer.launch c.config c.root c.settings s.world.files s.world.server
  Session.modifyWorld fun world => { world with server }
  match outcome with
  | .ok launched => do
    update fun c => { c with launches := c.launches + 1 }
    Session.modifyConnection fun _ =>
      ({ language := c.language, name := launched.name } : Connection).deliver launched.arrivals
  | .error failure => do
    match failure with
    | .problem _ => setState before
    | _ => pure ()
    throw failure

/-- The handshake has failed: the connection is closed and the client is as before. -/
def failHandshake [Peer σ] {α : Type} (before : ClientState) (problem : Problem) :
    Action σ Client α := do
  Session.close handlers
  setState before
  Session.raise problem

/-- The server's answer to the handshake, with its capabilities. -/
def shakeHands [Peer σ] (before : ClientState) : Action σ Client (Json × Json.Fields) := do
  let s ← get
  let c := s.owner
  let params := c.handshakeParams s.world.files.workingDirectory s.world.processId
  let time := c.settings.handshakeTimeout
  match ← Session.attempt (Session.request handlers "initialize" params time) with
  | .error (.problem cause) =>
    if cause.kind = .requestTimeout then
      failHandshake before (.handshakeTimeout c.language (Settings.seconds time) cause)
    else failHandshake before (.handshakeFailed c.language cause)
  | .error failure => throw failure
  | .ok result =>
    match result.field? "capabilities" with
    | some (.obj capabilities) => return (result, capabilities)
    | _ => failHandshake before (.handshakeMalformed c.language)

def greet [Peer σ] (before : ClientState) : Action σ Client Json := do
  let (result, capabilities) ← shakeHands before
  Session.notify handlers "initialized" (.obj [])
  update fun c => { c with
    attached := true, capabilities := .obj capabilities, state := .ready, healthy := true }
  touch
  let server := ((result.field? "serverInfo").getD .null).orElse (.obj [])
  let _ ← Session.settle (server.optional "name" .null)
  return (← current).capabilities

/-- The client is brought to life. The result is what the server can do. -/
def start [Peer σ] : Action σ Client Json := do
  let c ← current
  match c.state with
  | .ready | .degraded => return c.capabilities
  | .shutDown => Session.raise (.clientShutDown c.language)
  | .initializing => Session.raise (.alreadyInitializing c.language)
  | before => do
    setState .initializing
    launch before
    greet before

/-! ### The end of a session -/

/-- The session ends: the server is asked to shut down and to exit, and the connection is closed
whatever it does. -/
def leave [Peer σ] : Action σ Client Unit := do
  if !(← get).connection.closed then
    let time := (← current).settings.shutdownTimeout
    let farewell : Action σ Client Unit := do
      let _ ← Session.request handlers "shutdown" .null time
      Session.notify handlers "exit" .null
    match ← Session.attempt farewell with
    | .ok _ | .error (.problem _) => pure ()
    | .error failure => throw failure
  Session.close handlers

def shutDown [Peer σ] : Action σ Client Unit := do
  let c ← current
  if c.state = .shutDown then return
  update fun c => { c with state := .shutDown, attached := false, backoff := none }
  match c.backoff with
  | some id => Session.modifyWorld fun world => { world with clock := world.clock.cancel id }
  | none => pure ()
  if c.attached then leave
  update fun c => { c with documents := {}, diagnostics := [] }

/-! ### Restarts -/

def requestRestart [Peer σ] : Action σ Client Bool :=
  beginRestart leave

def documentItem (document : OpenDocument) : Json :=
  .obj [("uri", .str document.uri), ("languageId", document.languageId),
    ("version", .int document.version), ("text", .str document.content)]

def openParams (document : OpenDocument) : Json :=
  .obj [("textDocument", documentItem document)]

def replay [Peer σ] : Action σ Client Unit := do
  setDocuments (← current).documents.resetVersions
  let c ← current
  if c.attached then
    for document in c.documents.documents do
      Session.notify handlers "textDocument/didOpen" (openParams document)

/-- The client is brought to life again, and its documents with it. -/
def comeBack [Peer σ] : Action σ Client Unit := do
  let _ ← start
  replay

def completeRestart [Peer σ] : Action σ Client Unit := do
  update fun c => { c with backoff := none }
  if (← current).state ≠ .restarting then
    update fun c => { c with restarting := false }
    return
  match ← Session.attempt comeBack with
  | .ok _ =>
    update fun c => { c with
      restartNeeded := false, restarting := false, restartCount := c.restartCount + 1
      healthy := true }
  | .error (.problem _) =>
    update fun c =>
      let c :=
        if c.state = .shutDown then c
        else { c with state := .degraded, healthy := false, restartNeeded := true }
      { c with restarting := false }
  | .error failure => throw failure

/-! ### Supervision -/

def startMonitor : Action σ Client Unit := do
  let c ← current
  if c.monitor.call.isSome then return
  if !c.monitor.subscribed then
    update fun c => { c with
      listeners := c.listeners ++ [.monitor], monitor := { c.monitor with subscribed := true } }
  let interval ← Session.settle (Settings.duration c.monitor.interval)
  let s ← get
  let (id, clock) := s.world.clock.every interval { language := c.language, job := .healthCheck }
  Session.modifyWorld fun world => { world with clock }
  update fun c => { c with monitor := { c.monitor with call := some id } }

def stopMonitor : Action σ Client Unit := do
  match (← current).monitor.call with
  | none => pure ()
  | some id => do
    Session.modifyWorld fun world => { world with clock := world.clock.cancel id }
    update fun c => { c with monitor := { c.monitor with call := none } }

def checkHealth [Peer σ] : Action σ Client Unit := do
  let c ← current
  if c.state = .shutDown || c.state = .uninitialized then return
  if c.restarting then return
  if c.restartNeeded then
    let _ ← requestRestart
    return
  if c.state = .ready && c.isStale (← get).world.clock.now then
    update (·.markedDegraded)

def perform [Peer σ] : Job → Action σ Client Unit
  | .restart => completeRestart
  | .healthCheck => checkHealth

end Scalpel.Client
