import Scalpel.Child.Servers
import Scalpel.Proofs.Correlation
import Scalpel.Proofs.WholeText

/-!
Questions of the server and the replies to them. The dispatcher goes on whatever it takes and whatever
its handlers do with it, as long as they send no replies of their own: each question is replied to once,
in the order in which the questions came, and nothing else is. A reply that the transport refuses is
not made again; a child process refuses one whose text has halves of characters.
-/

set_option autoImplicit false

namespace Scalpel

/-! ### Questions and replies -/

structure Question where
  number : Json
  method : Json
  params : Json

namespace Json

/-- The question that a message asks: it has a method that is not null, and a number, which may be. -/
def question? : Json → Option Question
  | .obj fields =>
    match (fields.lookup "method").getD .null, fields.lookup "id" with
    | .null, _ => none
    | _, none => none
    | method, some number => some ⟨number, method, (fields.lookup "params").getD .null⟩
  | _ => none

def isReply (message : Json) : Bool :=
  (message.field? "method").isNone

structure RepliesTo (reply number : Json) : Prop where
  echoes : reply.field? "id" = some number
  single : (reply.field? "result").isSome = !(reply.field? "error").isSome

end Json

/-- The replies among the messages that were given to the servers, the latest first. A message that was
refused is among them. -/
def replies (sent : List (String × Json)) : List Json :=
  (sent.map Prod.snd).filter Json.isReply

namespace Connection

variable {c d : Connection}

theorem isReply_notificationMessage (method : String) (params : Json) :
    (notificationMessage method params).isReply = false :=
  rfl

variable [Halves]

theorem isReply_replyMessage (number : Json) (outcome : Outcome Json) :
    (replyMessage number outcome).isReply = true := by
  cases outcome <;> rfl

theorem repliesTo_replyMessage (number : Json) (outcome : Outcome Json) :
    (replyMessage number outcome).RepliesTo number := by
  cases outcome <;> exact ⟨rfl, rfl⟩

/-- What a message means: a question if it asks one, and else a notification or nothing. -/
inductive Meaning (message : Json) : Arrival → Prop
  | settled : message.question? = none → Meaning message .settled
  | notification (method params : Json) : message.question? = none →
    Meaning message (.notification method params)
  | question {question : Question} : message.question? = some question →
    Meaning message (.question question.number question.method question.params)

theorem meaning_of_take (c : Connection) (message : Json) : Meaning message (c.take message).1 := by
  cases message with
  | obj fields =>
      have asked : (Json.obj fields).question? =
          match (fields.lookup "method").getD .null, fields.lookup "id" with
          | .null, _ => none
          | _, none => none
          | method, some number => some ⟨number, method, (fields.lookup "params").getD .null⟩ := rfl
      simp only [take]
      generalize (fields.lookup "method").getD .null = method at asked ⊢
      cases given : fields.lookup "id" with
      | none =>
          rw [given] at asked
          cases method with
          | null => exact .settled asked
          | _ => exact .notification _ _ asked
      | some number =>
          rw [given] at asked
          cases method with
          | null => exact .settled asked
          | _ => exact .question asked
  | _ => exact .settled rfl

theorem message_of_receive {arrival : Arrival} (arrived : c.receive? = some (arrival, d))
    (awake : d.listening = true) :
    ∃ message rest, c.inbox = .message message :: rest ∧ d.inbox = rest ∧ Meaning message arrival := by
  rcases received arrived with ⟨_, ⟨message, rest, queue, taken⟩ | ⟨closure, rest, _, ended⟩⟩
  · have meaning := meaning_of_take { c with inbox := rest } message
    rw [taken] at meaning
    exact ⟨message, rest, queue, queue_receive queue arrived, meaning⟩
  · cases ended
    cases awake

/-- A connection goes on while an arrival is handled: more joins its queue, and its end is final. -/
structure Grown (before after : Connection) : Prop where
  queue : ∃ more, after.inbox = before.inbox ++ more
  deaf : before.listening = false → after.listening = false
  shut : before.transportClosed = true → after.transportClosed = true

omit [Halves] in
theorem Grown.refl (c : Connection) : Grown c c :=
  ⟨⟨[], (List.append_nil _).symm⟩, id, id⟩

omit [Halves] in
theorem Grown.trans {e : Connection} (first : Grown c d) (second : Grown d e) : Grown c e := by
  obtain ⟨early, joined⟩ := first.queue
  obtain ⟨late, more⟩ := second.queue
  refine ⟨⟨early ++ late, ?_⟩, fun deaf => second.deaf (first.deaf deaf),
    fun shut => second.shut (first.shut shut)⟩
  rw [more, joined, List.append_assoc]

omit [Halves] in
theorem grown_deliver (c : Connection) (arrivals : List Inbound) : Grown c (c.deliver arrivals) := by
  refine ⟨⟨arrivals, rfl⟩, id, fun shut => ?_⟩
  change (c.transportClosed || _) = true
  rw [shut, Bool.true_or]

end Connection

/-! ### Handlers that send no replies of their own -/

namespace Session

variable {σ ω : Type}

/-- What may happen to a session while a handler is at work: the connection goes on, and no reply is
sent. -/
def meanwhile : Frame (Session σ ω) where
  holds before after := before.connection.Grown after.connection ∧
    replies after.world.sent = replies before.world.sent
  refl s := ⟨.refl s.connection, rfl⟩
  trans first second := ⟨first.1.trans second.1, second.2.trans first.2⟩

def deaf : Frame (Session σ ω) :=
  .invariant fun s => s.connection.listening = false

end Session

/-- Handlers that may fail in any way; they send no replies, and after the end they take nothing up
again. -/
structure Handlers.Decent {σ ω : Type} (h : Handlers σ ω) : Prop where
  notified : ∀ method params, Within Session.meanwhile (h.notified method params)
  asked : ∀ method params, Within Session.meanwhile (h.asked method params)
  ended : ∀ closure, Within Session.deaf (h.ended closure)

namespace Session

variable {σ ω : Type} [Peer σ] {s mid after : Session σ ω} {message number : Json}

theorem within_emit_meanwhile (other : message.isReply = false) :
    Within meanwhile (emit message : Action σ ω Unit) := by
  refine within_emit (fun s => ⟨.refl _, ?_⟩) fun s arrivals => ⟨Connection.grown_deliver _ _, rfl⟩
  exact List.filter_cons_of_neg (Bool.eq_false_iff.mp other)

/-! ### One message is handled -/

variable [Halves] {h : Handlers σ ω} {question : Question}

/-- What became of the reply to a question: it says what the handler came to, and the open transport
took it, or refused it for a reason. -/
structure Replied (h : Handlers σ ω) (question : Question) (reply : Json)
    (refusal : Option Failure) : Prop where
  proper : reply.RepliesTo question.number
  made : ∃ (before mid : Session σ ω) (outcome : Outcome Json),
    Ends (h.asked question.method question.params) before outcome mid ∧
      reply = Connection.replyMessage question.number outcome ∧
      mid.connection.transportClosed = false ∧
      refusal = (mid.world.reaction mid.connection.language reply).refusal

/-- How a message was handled, with the reply to it and the reason for which it was refused. -/
inductive Turn (h : Handlers σ ω) (message : Json) (s mid : Session σ ω) :
    List (Json × Option Failure) → Prop
  | unasked : message.question? = none →
    replies mid.world.sent = replies s.world.sent → Turn h message s mid []
  | unsent {question : Question} : message.question? = some question →
    mid.connection.transportClosed = true →
    replies mid.world.sent = replies s.world.sent → Turn h message s mid []
  | replied {question : Question} {reply : Json} {refusal : Option Failure} :
    message.question? = some question → s.connection.transportClosed = false →
    Replied h question reply refusal →
    replies mid.world.sent = reply :: replies s.world.sent → Turn h message s mid [(reply, refusal)]

/-- A question is replied to unless the transport has closed, whatever its handler came to. -/
theorem turn_of_question (decent : h.Decent) (asked : message.question? = some question)
    (handled : Ends (handle h (.question question.number question.method question.params)) s (.ok ())
      mid) :
    s.connection.Grown mid.connection ∧ ∃ answers, Turn h message s mid answers := by
  obtain ⟨outcome, tried, trying, sending⟩ := ends_bind_ok.mp handled
  obtain ⟨_, same, ended⟩ := ends_attempt.mp trying
  cases same
  obtain ⟨grown, silent⟩ := decent.asked _ _ ended
  obtain ⟨_, _, emitted⟩ := ends_quietly.mp sending
  have isReply := Connection.isReply_replyMessage question.number outcome
  have proper := Connection.repliesTo_replyMessage question.number outcome
  have told : replies (tried.world.told tried.connection.language
      (Connection.replyMessage question.number outcome)).sent =
        Connection.replyMessage question.number outcome :: replies s.world.sent :=
    (List.filter_cons_of_pos isReply).trans (congrArg _ silent)
  have unshut (opened : tried.connection.transportClosed = false) :
      s.connection.transportClosed = false :=
    Bool.eq_false_iff.mpr fun shut => absurd (opened.symm.trans (grown.shut shut)) nofun
  rcases ends_emit.mp emitted with ⟨shut, rfl, _⟩ | ⟨opened, failure, refused, rfl, _⟩ |
    ⟨opened, taken, rfl, _⟩
  · exact ⟨grown, _, .unsent asked shut silent⟩
  · exact ⟨grown, _, .replied asked (unshut opened)
      ⟨proper, s, tried, outcome, ended, rfl, opened, refused.symm⟩ told⟩
  · exact ⟨grown.trans (Connection.grown_deliver _ _), _, .replied asked (unshut opened)
      ⟨proper, s, tried, outcome, ended, rfl, opened, taken.symm⟩ told⟩

theorem Turn.of_received {connection : Connection} {answers : List (Json × Option Failure)}
    (same : connection.transportClosed = s.connection.transportClosed)
    (turn : Turn h message { s with connection } mid answers) : Turn h message s mid answers := by
  cases turn with
  | unasked nothing silent => exact .unasked nothing silent
  | unsent asked shut silent => exact .unsent asked shut silent
  | replied asked opened replied told => exact .replied asked (same.symm.trans opened) replied told

theorem within_handle_deaf (decent : h.Decent) (arrival : Arrival) :
    Within deaf (handle h arrival) := by
  have sparing {α : Type} {action : Action σ ω α} (inside : Within meanwhile action) :
      Within deaf action :=
    inside.mono fun kept => kept.1.deaf
  cases arrival with
  | settled => exact within_pure ()
  | notification method params => exact within_quietly (sparing (decent.notified method params))
  | ended closure => exact within_quietly (decent.ended closure)
  | question number method params =>
      refine within_bind (within_attempt (sparing (decent.asked method params))) fun outcome => ?_
      exact within_quietly (within_emit (fun _ => id) fun _ _ => id)

theorem turn_of_handle (decent : h.Decent) {arrival : Arrival} {connection : Connection}
    (arrived : s.connection.receive? = some (arrival, connection))
    (handled : Ends (handle h arrival) { s with connection } (.ok ()) mid)
    (awake : mid.connection.listening = true) :
    ∃ message rest answers more, s.connection.inbox = .message message :: rest ∧
      mid.connection.inbox = rest ++ more ∧
      (s.connection.transportClosed = true → mid.connection.transportClosed = true) ∧
      Turn h message s mid answers := by
  have awoken : connection.listening = true := by
    refine Bool.of_not_eq_false fun deaf => ?_
    cases awake.symm.trans (within_handle_deaf decent arrival handled deaf)
  obtain ⟨message, rest, queue, shorter, meaning⟩ := Connection.message_of_receive arrived awoken
  have transport := Connection.transportClosed_receive arrived
  have turned : connection.Grown mid.connection ∧ ∃ answers, Turn h message s mid answers := by
    cases meaning with
    | settled nothing =>
        obtain ⟨_, rfl⟩ := ends_pure.mp handled
        exact ⟨.refl _, _, .unasked nothing rfl⟩
    | notification method params nothing =>
        obtain ⟨grown, silent⟩ := within_quietly (decent.notified method params) handled
        exact ⟨grown, _, .unasked nothing silent⟩
    | question asked =>
        obtain ⟨grown, answers, turn⟩ := turn_of_question decent asked handled
        exact ⟨grown, answers, turn.of_received transport⟩
  obtain ⟨grown, answers, turn⟩ := turned
  obtain ⟨more, joined⟩ := grown.queue
  rw [shorter] at joined
  exact ⟨message, rest, answers, more, queue, joined,
    fun shut => grown.shut (transport.trans shut), turn⟩

/-! ### All messages are handled -/

/-- What a dispatcher did with what came, as long as the end of the transport was not among it: it
handled message by message in the order in which they came, up to its limit or to the last one. The
replies that it made are those to the questions among them, one to each in this order, as long as the
transport was open. -/
structure Dispatched (h : Handlers σ ω) (budget : Nat) (s after : Session σ ω) (handled : List Json)
    (answers : List (Json × Option Failure)) : Prop where
  queue : ∃ more, s.connection.inbox ++ more = handled.map .message ++ after.connection.inbox
  all : handled.length = budget ∨ after.connection.inbox = []
  sent : replies after.world.sent = (answers.map Prod.fst).reverse ++ replies s.world.sent
  answered : ∃ questions unanswered, handled.filterMap Json.question? = questions ++ unanswered ∧
    List.Forall₂ (fun question answer => Replied h question answer.1 answer.2) questions answers ∧
    (after.connection.transportClosed = false → unanswered = [])
  shut : s.connection.transportClosed = true →
    after.connection.transportClosed = true ∧ answers = []

theorem Dispatched.refl {budget : Nat} (done : budget = 0 ∨ s.connection.inbox = []) :
    Dispatched h budget s s [] [] where
  queue := ⟨[], List.append_nil _⟩
  all := done.imp_left Eq.symm
  sent := rfl
  answered := ⟨[], [], rfl, .nil, fun _ => rfl⟩
  shut closed := ⟨closed, rfl⟩

theorem Dispatched.cons {budget : Nat} {message : Json} {rest more : List Inbound} {handled : List Json}
    {first answers : List (Json × Option Failure)} (queue : s.connection.inbox = .message message :: rest)
    (joined : mid.connection.inbox = rest ++ more)
    (shut : s.connection.transportClosed = true → mid.connection.transportClosed = true)
    (turn : Turn h message s mid first) (later : Dispatched h budget mid after handled answers) :
    Dispatched h (budget + 1) s after (message :: handled) (first ++ answers) := by
  obtain ⟨last, queued⟩ := later.queue
  obtain ⟨questions, unanswered, parted, replied, finished⟩ := later.answered
  refine ⟨⟨more ++ last, ?_⟩, ?_, ?_, ?_, fun closed => ?_⟩
  · rw [queue, List.map_cons, List.cons_append, List.cons_append, ← queued, joined, List.append_assoc]
  · exact later.all.imp_left fun full => congrArg (· + 1) full
  · rw [later.sent]
    cases turn with
    | unasked _ silent => rw [silent, List.nil_append]
    | unsent _ _ silent => rw [silent, List.nil_append]
    | replied _ _ _ told =>
        rw [told, List.singleton_append, List.map_cons, List.reverse_cons, List.append_assoc,
          List.singleton_append]
  · cases turn with
    | unasked nothing _ =>
        rw [List.filterMap_cons_none nothing]
        exact later.answered
    | unsent asked closed _ =>
        rw [List.filterMap_cons_some asked]
        obtain ⟨past, none⟩ := later.shut closed
        rw [none]
        exact ⟨[], _, rfl, .nil, fun opened => absurd (past.symm.trans opened) nofun⟩
    | replied asked _ reply _ =>
        rw [List.filterMap_cons_some asked, parted]
        exact ⟨_ :: questions, unanswered, rfl, .cons reply replied, finished⟩
  · obtain ⟨past, none⟩ := later.shut (shut closed)
    refine ⟨past, ?_⟩
    cases turn with
    | unasked _ _ => exact none
    | unsent _ _ _ => exact none
    | replied _ opened _ _ => exact absurd (closed.symm.trans opened) nofun

theorem awake_of_drainUpTo {budget : Nat} {outcome : Outcome Unit}
    (ended : Ends (drainUpTo h budget) s outcome after) (awake : after.connection.listening = true) :
    s.connection.listening = true := by
  cases budget with
  | zero =>
      obtain ⟨_, rfl⟩ := ends_pure.mp ended
      exact awake
  | succ budget =>
      rcases ends_drainUpTo_succ.mp ended with ⟨_, _, rfl⟩ | ⟨_, _, _, arrived, _, _⟩
      · exact awake
      · exact (Connection.received arrived).1

theorem dispatched_of_drainUpTo (decent : h.Decent) {budget : Nat} {outcome : Outcome Unit}
    (ended : Ends (drainUpTo h budget) s outcome after) (awake : after.connection.listening = true) :
    ∃ handled answers, Dispatched h budget s after handled answers := by
  induction budget generalizing s with
  | zero =>
      obtain ⟨_, rfl⟩ := ends_pure.mp ended
      exact ⟨[], [], .refl (.inl rfl)⟩
  | succ budget ih =>
      rcases ends_drainUpTo_succ.mp ended with ⟨empty, _, rfl⟩ | ⟨_, _, mid, arrived, handled, rest⟩
      · exact ⟨[], [], .refl (.inr (Client.inbox_of_handled empty awake))⟩
      · obtain ⟨message, _, first, _, queue, joined, shut, turn⟩ :=
          turn_of_handle decent arrived handled (awake_of_drainUpTo rest awake)
        obtain ⟨others, answers, later⟩ := ih rest
        exact ⟨message :: others, first ++ answers, later.cons queue joined shut turn⟩

theorem Dispatched.complete {budget : Nat} {handled : List Json}
    {answers : List (Json × Option Failure)} (dispatched : Dispatched h budget s after handled answers)
    (enough : s.connection.inbox.length ≤ budget) :
    ∃ later, handled.map .message = s.connection.inbox ++ later := by
  obtain ⟨more, queued⟩ := dispatched.queue
  rcases dispatched.all with full | empty
  · have longer : s.connection.inbox.length ≤ (handled.map Inbound.message).length := by
      rw [List.length_map, full]
      exact enough
    have first : s.connection.inbox <+: handled.map .message :=
      List.prefix_of_prefix_length_le ⟨more, queued⟩ ⟨_, rfl⟩ longer
    obtain ⟨later, same⟩ := first
    exact ⟨later, same.symm⟩
  · rw [empty, List.append_nil] at queued
    exact ⟨more, queued.symm⟩

end Session

/-! ### Replies that a child process does not get -/

namespace Child

variable [Halves] {ρ : Type} [Process ρ] {servers : Servers ρ} {served : Served ρ} {language : String}

/-- A message reaches a child process exactly if no half of a character stands in it and its frame can
be written. -/
theorem taken_iff (known : servers.served.lookup language = some served) (message : Json)
    (files : FileTree) :
    (Peer.react language message files servers).1.refusal = none ↔
      Text.IsWhole message.compact ∧ ∃ frame child, Frame.write message = .ok frame ∧
        served.child.write frame = (child, .ok ()) := by
  simp only [Peer.react, known]
  cases written : Frame.write message with
  | error failure =>
      simp [bind, Except.bind]
  | ok frame =>
      have whole := (Frame.write_eq_ok_iff.mp written).1
      rcases wrote : served.child.write frame with ⟨child, _ | _⟩
      · simp [bind, Except.bind, wrote, fail]
      · simp [bind, Except.bind, wrote, whole, pure, Except.pure]

theorem react_of_halved (known : servers.served.lookup language = some served) {message : Json}
    (halved : ¬Text.IsWhole message.compact) (files : FileTree) :
    (Peer.react language message files servers).2 = servers := by
  simp only [Peer.react, known]
  cases written : Frame.write message with
  | error failure => rfl
  | ok frame => exact absurd (Frame.write_eq_ok_iff.mp written).1 halved

end Child

namespace Session

variable {σ ω : Type} [Peer σ] [Halves] {s after : Session σ ω} {h : Handlers σ ω} {budget : Nat}
  {outcome : Outcome Unit}

/-- Every message that comes before the end of the transport is handled, whatever it is and whatever
handlers do about it. One reply is made to each question, in the order in which the questions came, as
long as the transport is open; it echoes the number and has a result or an error. Nothing else is
replied to. A reply is not made again when the transport refuses it, and a child process, which takes
frames, gets nothing at all if a half of a character stands in the reply, whatever runs in it. -/
theorem questions_answered (decent : h.Decent)
    (ended : Ends (drainUpTo h budget) s outcome after) (awake : after.connection.listening = true) :
    outcome = .ok () ∧
    (∃ handled answers, Dispatched h budget s after handled answers ∧
      (s.connection.inbox.length ≤ budget →
        ∃ later, handled.map .message = s.connection.inbox ++ later)) ∧
    ∀ {ρ : Type} [Child.Process ρ] {servers : Child.Servers ρ} {served language},
      servers.served.lookup language = some served → ∀ reply files,
        ((Peer.react language reply files servers).1.refusal = none ↔
          Text.IsWhole reply.compact ∧ ∃ frame child, Frame.write reply = .ok frame ∧
            served.child.write frame = (child, .ok ())) ∧
        (¬Text.IsWhole reply.compact → (Peer.react language reply files servers).2 = servers) := by
  obtain ⟨handled, answers, dispatched⟩ := dispatched_of_drainUpTo decent ended awake
  refine ⟨drainUpTo_ok ended, ⟨handled, answers, dispatched, dispatched.complete⟩, ?_⟩
  intro ρ _ servers served language known reply files
  exact ⟨Child.taken_iff known reply files, fun halved => Child.react_of_halved known halved files⟩

end Session

/-! ### The handlers of a client -/

namespace Client

variable {σ : Type}

theorem within_touch_meanwhile : Within Session.meanwhile (touch : Action σ Client Unit) :=
  within_bind within_get fun _ => within_modify fun _ => ⟨.refl _, rfl⟩

variable [Peer σ]

theorem within_applyServerEdit_meanwhile (edit : WorkspaceEdit) :
    Within Session.meanwhile (applyServerEdit edit : Action σ Client Unit) := by
  have roomy : Roomy (Session.meanwhile : Frame (Session σ Client)) := fun _ _ _ => ⟨.refl _, rfl⟩
  have carried (params : Json) : Within Session.meanwhile
      (Session.notifyWithin "textDocument/didChange" params : Action σ Client Unit) :=
    within_bind (Session.within_needOpen _) fun _ =>
      Session.within_emit_meanwhile (Connection.isReply_notificationMessage _ _)
  exact within_applyServerEdit (roomy.within_changeDocument within_touch_meanwhile carried) edit

variable [Halves]

theorem upkeep_deaf : Upkeep (Session.deaf : Frame (Session σ Client)) := by
  refine upkeep_of_connection (fun same deaf => ?_) (fun _ => ?_) (fun _ _ => rfl)
    fun arrived deaf => ?_
  · exact (congrArg Connection.listening same).trans deaf
  · exact Session.within_emit (fun _ => id) fun _ _ => id
  · refine Bool.eq_false_iff.mpr fun awake => ?_
    cases deaf.symm.trans ((Connection.tended_receive arrived).listening awake)

theorem decent_handlers : (handlers : Handlers σ Client).Decent where
  notified method params :=
    within_notified within_touch_meanwhile (fun _ _ => within_modify fun _ => ⟨.refl _, rfl⟩) method
      params
  asked _ _ := within_asked_of_edits within_applyServerEdit_meanwhile
  ended := upkeep_deaf.within_ended

end Client

/-! ### A client whose server is a child process -/

/-- A process that reads on and prints nothing, with all that it was given. -/
structure Keeper where
  given : Bytes := []

instance : Child.Process Keeper where
  start _ _ _ _ _ _ := .ok {}
  exitCode _ := none
  isDeaf _ := false
  feed bytes process := { given := process.given ++ bytes }
  endInput := id
  signal _ := id
  passTime _ := id
  drain process := ([], process)
  read _ process := ([], process)

namespace Session

local instance repliesHalves : Halves :=
  Halves.trial

def keptServer : Child.Served Keeper :=
  { child := { binary := "/bin/py-server", directory := "/w", language := "py", process := some {} } }

def keeping : Child.Servers Keeper :=
  { searchPath := "", served := [("py", keptServer)] }

/-- A client whose server asks for settings, sends a text that means nothing, asks for settings again under
a number with a half of a character, and then for an edit of no documents in a wrong form. -/
def askedSession : Session (Child.Servers Keeper) Client :=
  { world := { server := keeping }
    connection := {
      language := "py"
      inbox := [
        .message (.obj [("id", .str "a"), ("method", .str "workspace/configuration")]),
        .message (.str "stray"),
        .message (.obj [("id", .str (String.singleton (Half.ofUnit 0xD800))),
          ("method", .str "workspace/configuration")]),
        .message (.obj [("id", .null), ("method", .str "workspace/applyEdit"),
          ("params", .obj [("edit", .int 1)])])] }
    owner := .make { language := "py", command := .str "py-server", extensions := [".py"] } "/w"
      (Clerk.settings .null) 0.0 }

def keptBytes (s : Session (Child.Servers Keeper) Client) : Bytes :=
  s.world.server.served.flatMap fun entry => (entry.2.child.process.map Keeper.given).getD []

/-- Three replies are made. The one that echoes the half is refused and leaves the child as it was; what the
child has at the end are the frames of the others. -/
theorem questions_answered_of_client :
    ∃ (after : Session (Child.Servers Keeper) Client) (handled : List Json)
      (answers : List (Json × Option Failure)),
      Ends (drainUpTo Client.handlers 9) askedSession (.ok ()) after ∧
      after.connection.listening = true ∧
      Dispatched Client.handlers 9 askedSession after handled answers ∧
      (∃ later, handled.map .message = askedSession.connection.inbox ++ later) ∧
      answers.length = 3 ∧
      (∃ reply ∈ answers.map Prod.fst, ¬Text.IsWhole reply.compact ∧
        (Peer.react "py" reply {} keeping).1.refusal ≠ none ∧
        (Peer.react "py" reply {} keeping).2 = keeping) ∧
      keptBytes after = (answers.map Prod.fst).flatMap fun reply => (Frame.write reply).toOption.getD [] := by
  rcases reached : (drainUpTo Client.handlers 9).run askedSession with ⟨outcome, after⟩
  have same : ((drainUpTo Client.handlers 9).run askedSession).2 = after := congrArg Prod.snd reached
  have awake : after.connection.listening = true := by
    rw [← same]
    decide +kernel
  obtain ⟨rfl, ⟨handled, answers, dispatched, complete⟩, taken⟩ :=
    questions_answered Client.decent_handlers reached awake
  have made : answers.map Prod.fst = (replies after.world.sent).reverse := by
    rw [dispatched.sent, List.reverse_append, List.reverse_reverse]
    rfl
  refine ⟨after, handled, answers, reached, awake, dispatched, complete (by decide), ?_, ?_, ?_⟩
  · have three : (replies after.world.sent).length = 3 := by
      rw [← same]
      decide +kernel
    calc answers.length
        = (answers.map Prod.fst).length := (List.length_map _).symm
      _ = (replies after.world.sent).length := by rw [made, List.length_reverse]
      _ = 3 := three
  · have halved : ((replies after.world.sent).any fun reply =>
        reply.compact.toList.any Half.isHalf) = true := by
      rw [← same]
      decide +kernel
    obtain ⟨reply, sent, half⟩ := List.any_eq_true.mp halved
    have broken : ¬Text.IsWhole reply.compact := by
      intro whole
      obtain ⟨c, member, found⟩ := List.any_eq_true.mp half
      cases (whole c member).symm.trans found
    have kept : keeping.served.lookup "py" = some keptServer := rfl
    obtain ⟨known, untouched⟩ := taken kept reply {}
    refine ⟨reply, made ▸ List.mem_reverse.mpr sent, broken, ?_, untouched broken⟩
    intro accepted
    exact broken (known.mp accepted).1
  · rw [made, ← same]
    decide +kernel

end Session

end Scalpel
