import Scalpel.Proofs.Intake

/-!
Frames of a client. What a client does when messages arrive, and what it does at the beginning and at
the end of a session, is made of few kinds of steps; an operation stays within every frame that takes
in these steps. Frames differ in what they say of changes to documents, which are left to them.
-/

set_option autoImplicit false

namespace Scalpel

/-! ### Connections that are looked after -/

/-- All requests of a connection, also those that ended, have numbers that were given out; and an open
connection listens. -/
structure Connection.Sound (c : Connection) : Prop where
  waiting : ∀ entry ∈ c.waiting, entry.1 < c.nextId
  outcomes : ∀ entry ∈ c.outcomes, entry.1 < c.nextId
  awake : c.closed = false → c.listening = true

/-- A connection is looked after: no message joins its queue, and it is not reopened. -/
structure Connection.Tended (before after : Connection) : Prop where
  language : after.language = before.language
  listening : after.listening = true → before.listening = true
  inbox : ∀ value, .message value ∈ after.inbox → .message value ∈ before.inbox
  sound : before.Sound → after.Sound

namespace Connection

variable {c d e : Connection}

theorem Tended.refl : Tended c c :=
  ⟨rfl, id, fun _ member => member, id⟩

theorem Tended.trans (first : Tended c d) (second : Tended d e) : Tended c e :=
  ⟨second.language.trans first.language, fun awake => first.listening (second.listening awake),
    fun value member => first.inbox value (second.inbox value member),
    fun sound => second.sound (first.sound sound)⟩

theorem tended_register (c : Connection) (method : String) : Tended c (c.register method).2 := by
  refine ⟨rfl, id, fun _ member => member, fun sound => ⟨fun entry member => ?_, ?_, sound.awake⟩⟩
  · change entry.1 < c.nextId + 1
    rcases List.mem_append.mp member with old | new
    · exact Int.lt_add_one_of_le (Int.le_of_lt (sound.waiting entry old))
    · rw [List.mem_singleton.mp new]
      exact Int.lt_succ c.nextId
  · intro entry member
    exact Int.lt_add_one_of_le (Int.le_of_lt (sound.outcomes entry member))

theorem tended_forget (c : Connection) (number : Int) : Tended c (c.forget number) :=
  ⟨rfl, id, fun _ member => member, fun sound =>
    ⟨fun entry member => sound.waiting entry (List.mem_filter.mp member).1, sound.outcomes,
      sound.awake⟩⟩

theorem tended_fetch (c : Connection) (number : Int) : Tended c (c.fetch number).2 :=
  ⟨rfl, id, fun _ member => member, fun sound =>
    ⟨sound.waiting, fun entry member => sound.outcomes entry (List.mem_filter.mp member).1,
      sound.awake⟩⟩

theorem tended_filed (filed : c.Filed d) : Tended c d := by
  cases filed with
  | registered method => exact tended_register c method
  | forgotten number => exact tended_forget c number
  | fetched number => exact tended_fetch c number

theorem tended_hangUp (c : Connection) : Tended c c.hangUp := by
  unfold hangUp endTransport
  split
  · exact ⟨rfl, id, fun _ member => member,
      fun sound => ⟨sound.waiting, sound.outcomes, sound.awake⟩⟩
  · refine ⟨rfl, id, fun value member => ?_,
      fun sound => ⟨sound.waiting, sound.outcomes, sound.awake⟩⟩
    rcases List.mem_append.mp member with old | new
    · exact old
    · cases List.mem_singleton.mp new

theorem sound_failAll {c : Connection} (sound : c.Sound) (reason : Problem) :
    (c.failAll reason).Sound := by
  refine ⟨fun _ member => absurd member List.not_mem_nil, fun entry member => ?_, sound.awake⟩
  rcases List.mem_append.mp member with old | new
  · exact sound.outcomes entry old
  · obtain ⟨waiting, known, rfl⟩ := List.mem_map.mp new
    exact sound.waiting waiting known

private theorem tended_closed (c : Connection) (reason : Problem) :
    Tended c ({ c with closed := true, listening := false }.failAll reason) := by
  refine ⟨rfl, fun awake => absurd awake Bool.false_ne_true, fun _ member => member,
    fun sound => ?_⟩
  have same : ({ c with closed := true, listening := false } : Connection).Sound :=
    ⟨sound.waiting, sound.outcomes, fun opened => absurd opened.symm Bool.false_ne_true⟩
  exact sound_failAll same reason

theorem tended_finish (c : Connection) : Tended c c.finish :=
  tended_closed c _

theorem transportClosed_hangUp (c : Connection) : c.hangUp.transportClosed = true := by
  unfold hangUp endTransport
  split
  · assumption
  · exact Bool.or_true _

theorem language_endTransport (c : Connection) (closure : Closure) :
    (c.endTransport closure).language = c.language := by
  unfold endTransport
  split <;> rfl

theorem transportClosed_endTransport (c : Connection) (closure : Closure) :
    (c.endTransport closure).transportClosed = true := by
  unfold endTransport
  split
  · assumption
  · exact Bool.or_true _

variable [Halves]

theorem tended_answer (c : Connection) (number message : Json) :
    Tended c (c.answer number message) := by
  unfold answer
  split
  · exact .refl
  · next number _ =>
    split
    · exact .refl
    · next method found =>
      split
      · exact tended_forget c number
      · have forgotten := tended_forget c number
        refine ⟨rfl, id, forgotten.inbox, fun sound =>
          ⟨(forgotten.sound sound).waiting, fun entry member => ?_, sound.awake⟩⟩
        rcases List.mem_append.mp member with old | new
        · exact sound.outcomes entry old
        · rw [List.mem_singleton.mp new]
          obtain ⟨before, rest, parted, _⟩ := List.lookup_eq_some_iff.mp found
          refine sound.waiting (number, method) ?_
          rw [parted]
          exact List.mem_append_right _ List.mem_cons_self

theorem tended_take (c : Connection) (message : Json) : Tended c (c.take message).2 := by
  unfold take
  split
  · split
    · exact .refl
    · exact tended_answer c _ _
    · exact .refl
    · exact .refl
  · exact .refl

theorem received {arrival : Arrival} (arrived : c.receive? = some (arrival, d)) :
    c.listening = true ∧
      ((∃ message rest, c.inbox = .message message :: rest ∧
          ({ c with inbox := rest } : Connection).take message = (arrival, d)) ∨
        ∃ closure rest, c.inbox = .closure closure :: rest ∧
          ({ c with inbox := rest } : Connection).takeEnd closure = (arrival, d)) := by
  unfold receive? at arrived
  split at arrived
  · next awake =>
    split at arrived
    · cases arrived
    · next message rest queue => exact ⟨awake, .inl ⟨message, rest, queue, Option.some.inj arrived⟩⟩
    · next closure rest queue => exact ⟨awake, .inr ⟨closure, rest, queue, Option.some.inj arrived⟩⟩
  · cases arrived

theorem tended_receive {arrival : Arrival} {after : Connection}
    (arrived : c.receive? = some (arrival, after)) : Tended c after := by
  have shorter {first : Inbound} {rest : List Inbound} (queue : c.inbox = first :: rest) :
      Tended c { c with inbox := rest } := by
    refine ⟨rfl, id, fun value member => ?_,
      fun sound => ⟨sound.waiting, sound.outcomes, sound.awake⟩⟩
    rw [queue]
    exact List.mem_cons_of_mem _ member
  rcases received arrived with ⟨_, ⟨message, rest, queue, taken⟩ | ⟨closure, rest, queue, ended⟩⟩
  · have kept := tended_take { c with inbox := rest } message
    rw [taken] at kept
    exact (shorter queue).trans kept
  · cases ended
    exact (shorter queue).trans (tended_closed { c with inbox := rest } _)

theorem transportClosed_take (c : Connection) (message : Json) :
    (c.take message).2.transportClosed = c.transportClosed := by
  unfold take answer
  repeat' split
  all_goals rfl

theorem transportClosed_receive {arrival : Arrival} (arrived : c.receive? = some (arrival, d)) :
    d.transportClosed = c.transportClosed := by
  rcases received arrived with ⟨_, ⟨message, rest, _, taken⟩ | ⟨closure, rest, _, ended⟩⟩
  · have same := transportClosed_take { c with inbox := rest } message
    rw [taken] at same
    exact same
  · cases ended
    rfl

end Connection

/-! ### What handlers do -/

namespace Client

/-- A change of a client that does not touch its documents, nor what the client is for. -/
structure Mild (f : Client → Client) : Prop where
  documents : ∀ c, (f c).documents = c.documents
  config : ∀ c, (f c).config = c.config

theorem mild_touched (now : Float) : Mild (·.touched now) := by
  constructor
  all_goals
    intro c
    unfold touched
    split <;> rfl

/-! ### Calls that a client asks for -/

/-- A client that has given its session up for a restart asks the clock for the second half. -/
def askForReturn {σ : Type} (c : Client) : Action σ Client Bool := do
  let delay ← Session.settle (Settings.duration c.settings.restartBackoff)
  let s ← get
  let (id, clock) := s.world.clock.later delay { language := c.language, job := .restart }
  Session.modifyWorld fun world => { world with clock }
  update fun c => { c with backoff := some id }
  return true

def askForChecks {σ : Type} (c : Client) : Action σ Client Unit := do
  let interval ← Session.settle (Settings.duration c.monitor.interval)
  let s ← get
  let (number, clock) := s.world.clock.every interval { language := c.language, job := .healthCheck }
  Session.modifyWorld fun world => { world with clock }
  update fun c => { c with monitor := { c.monitor with call := some number } }

/-! ### Frames -/

variable [Halves]

variable {σ : Type} [Peer σ]

/-- A frame takes in what a client does about arrivals: answers to questions, mild changes, the end of
the connection, and the times of later calls. An edit that the server asks for has to stay within the
frame as well. -/
structure Upkeep (F : Frame (Session σ Client)) : Prop where
  reply : ∀ number outcome, Within F (Session.emit (Connection.replyMessage number outcome))
  update : ∀ (f : Client → Client) (s : Session σ Client),
    Mild f → F.holds s { s with owner := f s.owner }
  shut : ∀ s : Session σ Client,
    F.holds s { s with connection := s.connection.hangUp.finish }
  clock : ∀ (s : Session σ Client) (clock : Clock Task),
    F.holds s { s with world := { s.world with clock } }
  receive : ∀ {s : Session σ Client} {arrival : Arrival} {connection : Connection},
    s.connection.receive? = some (arrival, connection) → F.holds s { s with connection }
  edit : ∀ {s after : Session σ Client} {number params : Json} {connection : Connection}
    {edit : WorkspaceEdit} {outcome : Outcome Unit},
    s.connection.receive? =
      some (.question number (.str "workspace/applyEdit") params, connection) →
    Ends (applyServerEdit edit) { s with connection } outcome after → F.holds s after

namespace Upkeep

variable {F : Frame (Session σ Client)}

theorem within_update (upkeep : Upkeep F) {f : Client → Client} (mild : Mild f) :
    Within F (Client.update f : Action σ Client Unit) :=
  within_modify fun s => upkeep.update f s mild

theorem within_clock (upkeep : Upkeep F) (clock : Clock Task) :
    Within F (Session.modifyWorld fun world => { world with clock } : Action σ Client Unit) :=
  within_modify fun s => upkeep.clock s clock

theorem within_touch (upkeep : Upkeep F) : Within F (touch : Action σ Client Unit) :=
  within_bind within_get fun _ => upkeep.within_update (mild_touched _)

theorem within_askForReturn (upkeep : Upkeep F) (c : Client) :
    Within F (askForReturn c : Action σ Client Bool) := by
  refine within_bind (Session.within_settle _) fun delay => ?_
  refine within_bind within_get fun s => ?_
  refine within_bind (upkeep.within_clock _) fun _ => ?_
  refine within_bind (upkeep.within_update ⟨fun _ => rfl, fun _ => rfl⟩) fun _ => ?_
  exact within_pure true

theorem within_beginRestart (upkeep : Upkeep F) {leave : Action σ Client Unit}
    (left : Within F leave) : Within F (beginRestart leave) := by
  refine within_bind within_current fun c => within_ite (within_pure false) ?_
  refine within_bind (upkeep.within_update ⟨fun _ => rfl, fun _ => rfl⟩) fun _ => ?_
  have rest : Within F (askForReturn c) := upkeep.within_askForReturn c
  exact within_ite (within_bind left fun _ => rest) rest

theorem within_hear (upkeep : Upkeep F) (listener : Listener) :
    Within F (hear listener : Action σ Client Unit) := by
  cases listener with
  | monitor =>
      refine within_bind within_current fun c => within_ite ?_ (within_pure ())
      have shut : Within F (Session.closeWithin : Action σ Client Unit) :=
        within_modify upkeep.shut
      exact within_bind (upkeep.within_beginRestart shut) fun _ => within_pure ()
  | observer => exact upkeep.within_update ⟨fun _ => rfl, fun _ => rfl⟩

theorem within_ended (upkeep : Upkeep F) (closure : Closure) :
    Within F (ended closure : Action σ Client Unit) := by
  refine within_bind (upkeep.within_update ⟨fun _ => rfl, fun _ => rfl⟩) fun _ => ?_
  refine within_bind within_current fun c => within_ite (within_pure ()) ?_
  refine within_ite (within_pure ()) ?_
  refine within_bind (upkeep.within_update ⟨fun _ => rfl, fun _ => rfl⟩) fun _ => ?_
  refine within_ite (within_pure ()) ?_
  refine within_bind (upkeep.within_update ⟨fun _ => rfl, fun _ => rfl⟩) fun _ => ?_
  exact within_bind (within_doEach fun listener _ => upkeep.within_hear listener) fun _ =>
    within_pure ()

/-- Everything that a client does about arrivals is within a frame that takes in their parts. -/
theorem intake (upkeep : Upkeep F) : Intake F where
  reply := upkeep.reply
  touch := upkeep.within_touch
  publish _ _ := upkeep.within_update ⟨fun _ => rfl, fun _ => rfl⟩
  receive arrived _ := upkeep.receive arrived
  edit := upkeep.edit
  lose arrived lost := F.trans (upkeep.receive arrived) (upkeep.within_ended _ lost)

end Upkeep

/-! ### What a client does from outside -/

/-- A frame takes in what a client does apart from its documents, as far as the messages that it sends
fit. -/
structure Routine (F : Frame (Session σ Client)) (fit : Json → Prop) : Prop extends Upkeep F where
  emit : ∀ {message}, fit message → Within F (Session.emit message)
  tend : ∀ {s : Session σ Client} {connection : Connection},
    s.connection.Tended connection → F.holds s { s with connection }

namespace Routine

variable {F G : Frame (Session σ Client)} {fit : Json → Prop}

theorem mono (routine : Routine F fit)
    (wider : ∀ {s after : Session σ Client}, F.holds s after → G.holds s after) : Routine G fit where
  reply number outcome := (routine.reply number outcome).mono wider
  update f s mild := wider (routine.update f s mild)
  shut s := wider (routine.shut s)
  clock s clock := wider (routine.clock s clock)
  receive arrived := wider (routine.receive arrived)
  edit arrived applied := wider (routine.edit arrived applied)
  emit fits := (routine.emit fits).mono wider
  tend tended := wider (routine.tend tended)

theorem within_tend (routine : Routine F fit) {f : Connection → Connection}
    (tended : ∀ c : Connection, c.Tended (f c)) :
    Within F (Session.modifyConnection f : Action σ Client Unit) :=
  within_modify fun s => routine.tend (tended s.connection)

theorem dealings (routine : Routine F fit) : Dealings F fit where
  toIntake := routine.intake
  emit := routine.emit
  file filed := routine.tend (Connection.tended_filed filed)

theorem within_close (routine : Routine F fit) :
    Within F (Session.close (handlers (σ := σ))) := by
  refine within_bind (routine.within_tend Connection.tended_hangUp) fun _ => ?_
  refine within_bind routine.intake.within_drain fun _ => ?_
  exact routine.within_tend Connection.tended_finish

theorem sittings (routine : Routine F fit) : Sittings F fit where
  toDealings := routine.dealings
  close := routine.within_close
  move _ := routine.within_update ⟨fun _ => rfl, fun _ => rfl⟩
  begin _ := routine.within_update ⟨fun _ => rfl, fun _ => rfl⟩

theorem within_requestRestart (routine : Routine F fit) (fits : FitFarewell fit) :
    Within F (requestRestart : Action σ Client Bool) :=
  routine.within_beginRestart (routine.dealings.within_leave fits routine.within_close)

theorem within_checkHealth (routine : Routine F fit) (fits : FitFarewell fit) :
    Within F (checkHealth : Action σ Client Unit) := by
  refine within_bind within_current fun c => within_ite (within_pure ()) ?_
  refine within_ite (within_pure ()) ?_
  refine within_ite ?_ ?_
  · exact within_bind (routine.within_requestRestart fits) fun _ => within_pure ()
  · refine within_bind within_get fun s => within_ite ?_ (within_pure ())
    refine routine.within_update ⟨fun c => ?_, fun c => ?_⟩
    all_goals
      unfold markedDegraded
      split <;> rfl

theorem within_startMonitor (routine : Routine F fit) :
    Within F (startMonitor : Action σ Client Unit) := by
  refine within_bind within_current fun c => within_ite (within_pure ()) ?_
  have rest : Within F (askForChecks c) := by
    refine within_bind (Session.within_settle _) fun interval => ?_
    refine within_bind within_get fun s => ?_
    refine within_bind (routine.within_clock _) fun _ => ?_
    exact routine.within_update ⟨fun _ => rfl, fun _ => rfl⟩
  refine within_ite ?_ rest
  exact within_bind (routine.within_update ⟨fun _ => rfl, fun _ => rfl⟩) fun _ => rest

end Routine

end Client

end Scalpel
