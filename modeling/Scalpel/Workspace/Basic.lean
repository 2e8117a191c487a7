import Scalpel.Session.Documents

/-!
A workspace: a root directory with the clients of its language servers, one for each language, which
are started when they are needed first. A client that could not be started or was stopped is kept
apart for as long as its connection may be the last one of its language.
-/

set_option autoImplicit false

namespace Scalpel

variable [Halves]

/-- A client of a workspace with its connection. -/
structure Member where
  client : Client
  connection : Connection := {}

/-- A workspace. The settings are loaded when they are needed first, unless they were given. `isOpen`
says that servers may be started. `opened` has the paths by which documents' files were opened, the
latest first. -/
structure Workspace (σ : Type) where
  world : World σ
  root : String
  settings : Option Settings := none
  environ : List (String × String) := []
  isOpen : Bool := false
  members : List (String × Member) := []
  former : List (String × Member) := []
  opened : List String := []

abbrev Operation (σ α : Type) := ExceptT Failure (StateM (Workspace σ)) α

namespace Workspace

variable {σ : Type}

def raise {α : Type} (p : Problem) : Operation σ α :=
  throw (.problem p)

/-- The outcome of a pure computation becomes that of an operation. -/
def settle {α : Type} : Outcome α → Operation σ α
  | .ok value => pure value
  | .error failure => throw failure

def attempt {α : Type} (operation : Operation σ α) : Operation σ (Outcome α) :=
  fun w =>
    let (outcome, w) := operation.run w
    (.ok outcome, w)

def modifyWorld (f : World σ → World σ) : Operation σ Unit :=
  modify fun w => { w with world := f w.world }

/-- Entries with a member for a language, in its place or at the end. -/
def putMember : List (String × Member) → String → Member → List (String × Member)
  | [], language, member => [(language, member)]
  | (key, old) :: rest, language, member =>
    if key = language then (key, member) :: rest else (key, old) :: putMember rest language member

def dropMember (members : List (String × Member)) (language : String) : List (String × Member) :=
  members.filter fun entry => entry.1 ≠ language

def act {α : Type} (member : Member) (action : Action σ Client α) :
    Operation σ (Outcome α × Member) :=
  fun w =>
    let session : Session σ Client :=
      { world := w.world, connection := member.connection, owner := member.client }
    let (outcome, session) := action.run session
    (.ok (outcome, { client := session.owner, connection := session.connection }),
      { w with world := session.world })

def member? (w : Workspace σ) (language : String) : Option Member :=
  (w.members.lookup language).orElse fun _ => w.former.lookup language

def keep (w : Workspace σ) (language : String) (member : Member) : Workspace σ :=
  if (w.members.lookup language).isSome then
    { w with members := putMember w.members language member }
  else { w with former := putMember w.former language member }

def onClient {α : Type} (language : String) (action : Action σ Client α) : Operation σ α := do
  match (← get).member? language with
  | none => throw (.missing language)
  | some member => do
    let (outcome, member) ← act member action
    modify (·.keep language member)
    settle outcome

def needSettings : Operation σ Settings := do
  let w ← get
  match w.settings with
  | some settings => return settings
  | none => do
    let settings ← settle (Settings.load w.world.files (some w.root) w.environ)
    modify fun w => { w with settings := some settings }
    return settings

def openUp : Operation σ Settings := do
  let settings ← needSettings
  modify fun w => { w with isOpen := true }
  return settings

/-! ### Clients -/

def setApart (w : Workspace σ) (language : String) (member : Member) : Workspace σ :=
  if 0 < member.client.launches then { w with former := putMember w.former language member } else w

def needClient [Peer σ] (language : String) : Operation σ Unit := do
  let settings ← openUp
  let w ← get
  if (w.members.lookup language).isSome then return
  match settings.servers.lookup language with
  | none => raise (.unsupportedLanguage language)
  | some config => do
    let client := Client.make config w.root settings w.world.clock.now
    let begin_ : Action σ Client Unit := do
      let _ ← Client.start
      Client.startMonitor
    let (outcome, member) ← act { client } begin_
    match outcome with
    | .ok _ => modify fun w => { w with members := putMember w.members language member }
    | .error failure => do
      modify (·.setApart language member)
      throw failure

def languageOf? (settings : Settings) (uri : String) : Outcome (Option String) := do
  return settings.languageFor? (← Uri.toPath uri)

/-- The client for a document runs afterwards; the result is its language. -/
def needClientFor [Peer σ] (uri : String) : Operation σ String := do
  let settings ← openUp
  match ← settle (languageOf? settings uri) with
  | some language => do
    needClient language
    return language
  | none => do
    let extension := Path.extension (← settle (Uri.toPath uri)).toList
    raise (.unsupportedLanguage (if extension.isEmpty then uri else String.ofList extension))

def withClient [Peer σ] {α : Type} (language : String) (action : Action σ Client α) :
    Operation σ α := do
  needClient language
  onClient language action

def start [Peer σ] (language : String) : Operation σ Bool := do
  match ← attempt (needClient language) with
  | .ok _ => return true
  | .error (.problem _) => return false
  | .error failure => throw failure

def stop [Peer σ] (language : String) : Operation σ Unit := do
  match (← get).members.lookup language with
  | none => pure ()
  | some member => do
    modify fun w => { w with members := dropMember w.members language }
    let finish : Action σ Client Unit := do
      Client.stopMonitor
      Client.shutDown
    let (outcome, member) ← act member finish
    modify (·.setApart language member)
    settle outcome

def stopAll [Peer σ] : Operation σ Unit := do
  for (language, _) in (← get).members do
    stop language

def cleanUp [Peer σ] : Operation σ Unit := do
  let _ ← attempt stopAll
  modify fun w => { w with
    isOpen := false
    former := w.members.foldl (fun former (language, member) =>
      putMember former language member) w.former
    members := [] }

/-! ### Events from outside -/

/-- The client of a language meets something that its server did on its own; there must have been a
transport. -/
def meet (language : String) (action : Action σ Client Unit) : Operation σ Unit := do
  match (← get).member? language with
  | none => throw (.misuse (.member .null "push"))
  | some member =>
    if member.client.launches = 0 then throw (.misuse (.member .null "push"))
    else onClient language action

def push [Peer σ] (language : String) (message : Json) : Operation σ Unit :=
  meet language (Session.arrive Client.handlers [.message message])

def serverEnds [Peer σ] (language : String) (closure : Closure) : Operation σ Unit :=
  meet language (Session.arriveEnd Client.handlers closure)

def advanceUpTo [Peer σ] (target : Float) : Nat → Operation σ Unit
  | 0 => pure ()
  | budget + 1 => do
    match (← get).world.clock.next? target with
    | none => modifyWorld fun world => { world with clock := { world.clock with now := target } }
    | some (task, clock) => do
      modifyWorld fun world => { world with clock }
      onClient task.language (Client.perform task.job)
      advanceUpTo target budget

/-- The clock moves by a number of seconds; the calls that become due are made. -/
def advance [Peer σ] (time : Json) : Operation σ Unit := do
  let seconds ← settle (Settings.duration time)
  let world := (← get).world
  advanceUpTo (world.clock.now + seconds) world.budget

end Workspace

end Scalpel
