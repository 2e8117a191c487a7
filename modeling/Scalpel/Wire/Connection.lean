import Scalpel.Json.Access

/-!
One side of a connection over which requests, answers and notifications travel. Requests are numbered
from 1 on and wait in a table until they are answered; answers find their request by its number, in
whatever order they come. What arrives is queued and taken one by one, and the end of the transport is
the last thing taken. Taking an arrival changes only the request that it answers.
-/

set_option autoImplicit false

namespace Scalpel

variable [Halves]

structure Closure where
  reason : String
  exitCode : Option Int := none
  errorText : Option String := none
deriving DecidableEq, Repr

def Closure.isCrash (c : Closure) : Bool :=
  c.errorText.isSome ||
    match c.exitCode with
    | some code => code != 0
    | none => false

def Closure.toJson (c : Closure) : Json :=
  .obj [("reason", .str c.reason), ("exit_code", .ofInt? c.exitCode),
    ("error", .ofText? c.errorText), ("is_crash", .bool c.isCrash)]

def Closure.byClient : Closure :=
  { reason := "closed by client" }

def Closure.exited (exitCode : Option Int) (errorText : Option String) : Closure :=
  { reason := "language server exited", exitCode, errorText }

/-- What a transport delivers: messages, and at last its end. -/
inductive Inbound where
  | message (value : Json)
  | closure (c : Closure)

/-- What an arrival means for the owner of a connection. -/
inductive Arrival where
  | settled
  | notification (method params : Json)
  | question (id method params : Json)
  | ended (c : Closure)

/-- A connection to the server of a language; `name` is what messages call its transport. The
requests that wait have their number and method; the requests that ended have their outcome until it
is fetched. `listening` says that arrivals are still taken. -/
structure Connection where
  language : String := ""
  name : String := ""
  nextId : Int := 1
  waiting : List (Int × String) := []
  outcomes : List (Int × Outcome Json) := []
  inbox : List Inbound := []
  listening : Bool := true
  closed : Bool := false
  closing : Bool := false
  transportClosed : Bool := false

namespace Connection

/-! ### Messages that are sent -/

def version : String × Json :=
  ("jsonrpc", .str "2.0")

def paramsField (params : Json) : Json.Fields :=
  if params.isGiven then [("params", params)] else []

def requestMessage (id : Int) (method : String) (params : Json) : Json :=
  .obj ([version, ("id", .int id), ("method", .str method)] ++ paramsField params)

def notificationMessage (method : String) (params : Json) : Json :=
  .obj ([version, ("method", .str method)] ++ paramsField params)

def replyMessage (id : Json) (outcome : Outcome Json) : Json :=
  .obj [version, ("id", id),
    match outcome with
    | .ok result => ("result", result)
    | .error failure =>
      ("error", .obj [("code", .int Problem.internalError), ("message", .str failure.message)])]

/-! ### Requests -/

def register (c : Connection) (method : String) : Int × Connection :=
  (c.nextId, { c with nextId := c.nextId + 1, waiting := c.waiting ++ [(c.nextId, method)] })

def forget (c : Connection) (id : Int) : Connection :=
  { c with waiting := c.waiting.filter fun entry => entry.1 ≠ id }

def fetch (c : Connection) (id : Int) : Option (Outcome Json) × Connection :=
  (c.outcomes.lookup id, { c with outcomes := c.outcomes.filter fun entry => entry.1 ≠ id })

def failAll (c : Connection) (reason : Problem) : Connection :=
  { c with
    waiting := []
    outcomes := c.outcomes ++ c.waiting.map fun entry => (entry.1, .error (.problem reason)) }

/-- The outcome that an answer gives to a request of a method. An error that is no object gives
none. -/
def outcomeOf (method : String) (answer : Json) : Option (Outcome Json) :=
  match (answer.field? "error").getD .null with
  | .null => some (.ok ((answer.field? "result").getD .null))
  | .obj error =>
    let field (name : String) : Json := (error.lookup name).getD .null
    let text := ((error.lookup "message").getD (.str "LSP error")).shown
    some (fail (.answered ("'" ++ method ++ "' failed: " ++ text) (field "code") (field "data")))
  | _ => none

/-- An answer ends the request whose number it bears, if that one waits. -/
def answer (c : Connection) (id : Json) (message : Json) : Connection :=
  match id.index? with
  | none => c
  | some id =>
    match c.waiting.lookup id with
    | none => c
    | some method =>
      match outcomeOf method message with
      | none => c.forget id
      | some outcome => { c.forget id with outcomes := c.outcomes ++ [(id, outcome)] }

/-! ### Arrivals -/

def take (c : Connection) (message : Json) : Arrival × Connection :=
  match message with
  | .obj fields =>
    let params := (fields.lookup "params").getD .null
    match (fields.lookup "method").getD .null, fields.lookup "id" with
    | .null, none => (.settled, c)
    | .null, some id => (.settled, c.answer id message)
    | method, none => (.notification method params, c)
    | method, some id => (.question id method params, c)
  | _ => (.settled, c)

/-- The end of the transport: nothing is taken after it, and whatever waits has failed. The owner is
told unless it closed the connection itself. -/
def takeEnd (c : Connection) (closure : Closure) : Arrival × Connection :=
  let done := { c with listening := false, closed := true }.failAll
    (.closed ("Connection closed: " ++ closure.reason))
  (if c.closing then .settled else .ended closure, done)

/-- The first arrival of the queue, and the connection after it. -/
def receive? (c : Connection) : Option (Arrival × Connection) :=
  if c.listening then
    match c.inbox with
    | [] => none
    | .message value :: rest => some ({ c with inbox := rest }.take value)
    | .closure closure :: rest => some ({ c with inbox := rest }.takeEnd closure)
  else none

/-- Arrivals join the queue. The end of the transport closes it for sending. -/
def deliver (c : Connection) (arrivals : List Inbound) : Connection :=
  let ends := arrivals.any fun
    | .closure _ => true
    | .message _ => false
  { c with inbox := c.inbox ++ arrivals, transportClosed := c.transportClosed || ends }

def endTransport (c : Connection) (closure : Closure) : Connection :=
  if c.transportClosed then c else c.deliver [.closure closure]

/-! ### Closing -/

def hangUp (c : Connection) : Connection :=
  { c with closing := true }.endTransport .byClient

def finish (c : Connection) : Connection :=
  { c with closed := true, listening := false }.failAll (.closed "Connection closed by client")

end Connection

end Scalpel
