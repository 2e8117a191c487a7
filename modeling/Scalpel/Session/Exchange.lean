import Scalpel.Wire.Peer
import Scalpel.Session.Clock

/-!
The exchange of messages between the owner of a connection and a server. Whoever sends a message from
outside waits until everything that arrived has been handled; a message sent while an arrival is
handled only adds to what is to be handled. So a request has its outcome when its sending is over, or
it has none and times out. What the owner does about an arrival is a parameter.
-/

set_option autoImplicit false

namespace Scalpel

variable [Halves]

/-- What is called when a scheduled call is due. -/
inductive Job where
  | restart
  | healthCheck
deriving DecidableEq, Repr

/-- A scheduled call concerns the client of a language. -/
structure Task where
  language : String
  job : Job
deriving DecidableEq, Repr

/-- What the clients of a workspace share: the servers, the files and the clock, with a record of the
messages that the servers received, the latest first. `budget` is the number of arrivals that are
handled in one go. -/
structure World (σ : Type) where
  server : σ
  files : FileTree := {}
  clock : Clock Task := {}
  sent : List (String × Json) := []
  processId : Json := .null
  budget : Nat := 1000000

/-- A connection, its owner and the world around them. -/
structure Session (σ ω : Type) where
  world : World σ
  connection : Connection := {}
  owner : ω

abbrev Action (σ ω α : Type) := ExceptT Failure (StateM (Session σ ω)) α

/-- What an owner does about arrivals. -/
structure Handlers (σ ω : Type) where
  notified : Json → Json → Action σ ω Unit
  asked : Json → Json → Action σ ω Json
  ended : Closure → Action σ ω Unit

namespace Session

variable {σ ω : Type}

def raise {α : Type} (p : Problem) : Action σ ω α :=
  throw (.problem p)

/-- The outcome of a pure computation becomes that of an operation. -/
def settle {α : Type} : Outcome α → Action σ ω α
  | .ok value => pure value
  | .error failure => throw failure

def attempt {α : Type} (action : Action σ ω α) : Action σ ω (Outcome α) :=
  fun s =>
    let (outcome, s) := action.run s
    (.ok outcome, s)

def quietly {α : Type} (action : Action σ ω α) : Action σ ω Unit := do
  let _ ← attempt action

def modifyConnection (f : Connection → Connection) : Action σ ω Unit :=
  modify fun s => { s with connection := f s.connection }

def modifyOwner (f : ω → ω) : Action σ ω Unit :=
  modify fun s => { s with owner := f s.owner }

def modifyWorld (f : World σ → World σ) : Action σ ω Unit :=
  modify fun s => { s with world := f s.world }

/-- A message goes to the server, which reacts at once; its messages are queued. -/
def emit [Peer σ] (message : Json) : Action σ ω Unit := do
  let s ← get
  if s.connection.transportClosed then
    raise (.closed ("Transport to " ++ s.connection.name ++ " is closed"))
  else
    let (reaction, server) := Peer.react s.connection.language message s.world.files s.world.server
    let world := { s.world with
      server
      files := reaction.files
      sent := (s.connection.language, message) :: s.world.sent }
    match reaction.refusal with
    | some failure => do
      set { s with world }
      settle (.error failure)
    | none => set { s with world, connection := s.connection.deliver reaction.arrivals }

/-- An arrival is handled. A question is answered in any case, and no failure goes further. -/
def handle [Peer σ] (h : Handlers σ ω) : Arrival → Action σ ω Unit
  | .settled => pure ()
  | .notification method params => quietly (h.notified method params)
  | .question id method params => do
    let outcome ← attempt (h.asked method params)
    quietly (emit (Connection.replyMessage id outcome))
  | .ended closure => quietly (h.ended closure)

def drainUpTo [Peer σ] (h : Handlers σ ω) : Nat → Action σ ω Unit
  | 0 => pure ()
  | budget + 1 => do
    let s ← get
    match s.connection.receive? with
    | none => pure ()
    | some (arrival, connection) => do
      set { s with connection }
      handle h arrival
      drainUpTo h budget

def drain [Peer σ] (h : Handlers σ ω) : Action σ ω Unit := do
  drainUpTo h (← get).world.budget

/-- Times are counted in nanoseconds, in signed words of 64 bits; a wait of so many cannot be made. -/
def endlessWait : Nat := 2 ^ 63

def tooLong : Failure :=
  .unbounded "timestamp too large to convert to C _PyTime_t"

/-- The seconds of a time that a request was given; a time that cannot be waited for is a failure. -/
def waitingTime (timeout : Json) : Outcome Float :=
  match timeout with
  | .null => .ok 0.0
  | .int n => if Int.ofNat endlessWait ≤ n * 10 ^ 9 then .error tooLong else timeout.number
  | .float _ | .bool _ => do
    let seconds ← timeout.number
    if seconds < 0.0 || seconds * 1e9 < endlessWait.toFloat || seconds.isNaN then return seconds
    .error tooLong
  | value => .error (.misuse (.compared value))

def post [Peer σ] (h : Handlers σ ω) (message : Json) : Action σ ω Unit := do
  emit message
  drain h

def needOpen (method : String) : Action σ ω Unit := do
  if (← get).connection.closed then raise (.closedBefore method)

def pose [Peer σ] (h : Handlers σ ω) (method : String) (params : Json) : Action σ ω Int := do
  needOpen method
  let (id, connection) := (← get).connection.register method
  modifyConnection fun _ => connection
  match ← attempt (emit (Connection.requestMessage id method params)) with
  | .error failure => do
    modifyConnection (·.forget id)
    throw failure
  | .ok _ => do
    drain h
    return id

/-- The outcome of a request is fetched. One that still waits has no time left. -/
def await (id : Int) (method : String) (timeout : Json) : Action σ ω Json := do
  let (outcome, connection) := (← get).connection.fetch id
  modifyConnection fun _ => connection
  match outcome with
  | some outcome => settle outcome
  | none => do
    let seconds ← settle (waitingTime timeout)
    modifyConnection (·.forget id)
    raise (.requestTimeout method seconds)

def request [Peer σ] (h : Handlers σ ω) (method : String) (params : Json) (timeout : Json) :
    Action σ ω Json := do
  let id ← pose h method params
  await id method timeout

def notify [Peer σ] (h : Handlers σ ω) (method : String) (params : Json) : Action σ ω Unit := do
  needOpen method
  post h (Connection.notificationMessage method params)

def notifyWithin [Peer σ] (method : String) (params : Json) : Action σ ω Unit := do
  needOpen method
  emit (Connection.notificationMessage method params)

def close [Peer σ] (h : Handlers σ ω) : Action σ ω Unit := do
  modifyConnection (·.hangUp)
  drain h
  modifyConnection (·.finish)

def closeWithin : Action σ ω Unit :=
  modifyConnection fun connection => connection.hangUp.finish

/-- Messages arrive that the server was not asked for, and are handled. -/
def arrive [Peer σ] (h : Handlers σ ω) (arrivals : List Inbound) : Action σ ω Unit := do
  modifyConnection (·.deliver arrivals)
  drain h

def arriveEnd [Peer σ] (h : Handlers σ ω) (closure : Closure) : Action σ ω Unit := do
  modifyConnection (·.endTransport closure)
  drain h

end Session

end Scalpel
