import Scalpel.Proofs.Opening

/-!
Whether a client is aware of the end of its server. Between two operations a client that is attentive
knows of the end of the server that it launched last: it is not ready, it is not healthy, and a restart
is needed or under way. Whatever a server says and whoever ends a session, an attentive client stays
attentive as long as nothing is launched.
-/

set_option autoImplicit false

namespace Scalpel

/-! ### Connections -/

namespace Connection

/-- A connection that is not about to be closed: once it is closed no arrival is taken. -/
structure Firm (c : Connection) : Prop where
  deaf : c.closed = true → c.listening = false
  done : c.closing = true → c.closed = true

def stage (c : Connection) : Bool × Bool × Bool :=
  (c.closed, c.closing, c.listening)

variable {c d : Connection}

theorem Firm.of_stage (firm : c.Firm) (same : d.stage = c.stage) : d.Firm := by
  simp only [stage, Prod.mk.injEq] at same
  obtain ⟨closed, closing, listening⟩ := same
  exact ⟨by rw [closed, listening]; exact firm.deaf, by rw [closing, closed]; exact firm.done⟩

theorem firm_finish (c : Connection) : c.finish.Firm :=
  ⟨fun _ => rfl, fun _ => rfl⟩

theorem stage_filed (filed : c.Filed d) : d.stage = c.stage := by
  cases filed <;> rfl

theorem stage_endTransport (c : Connection) (closure : Closure) :
    (c.endTransport closure).stage = c.stage := by
  unfold endTransport
  split <;> rfl

variable [Halves]

theorem stage_answer (c : Connection) (number message : Json) :
    (c.answer number message).stage = c.stage := by
  unfold answer
  split
  · rfl
  · split
    · rfl
    · split <;> rfl

theorem stage_receive {arrival : Arrival} (arrived : c.receive? = some (arrival, d)) :
    d.stage = c.stage ∨ c.listening = true ∧ d.closed = true ∧ d.listening = false ∧
      (c.closing = false → ∃ closure, arrival = .ended closure) := by
  rcases received arrived with ⟨awake, ⟨message, rest, _, taken⟩ | ⟨closure, rest, _, ended⟩⟩
  · refine .inl ?_
    unfold take at taken
    split at taken
    · split at taken <;> obtain ⟨_, rfl⟩ := Prod.mk.inj taken
      · rfl
      · exact stage_answer { c with inbox := rest } _ _
      · rfl
      · rfl
    · obtain ⟨_, rfl⟩ := Prod.mk.inj taken
      rfl
  · cases ended
    refine .inr ⟨awake, rfl, rfl, fun opened => ⟨closure, ?_⟩⟩
    exact if_neg (Bool.eq_false_iff.mp opened)

theorem Firm.receive {arrival : Arrival} (firm : c.Firm)
    (arrived : c.receive? = some (arrival, d)) : d.Firm := by
  rcases stage_receive arrived with same | ⟨_, closed, deaf, _⟩
  · exact firm.of_stage same
  · exact ⟨fun _ => deaf, fun _ => closed⟩

theorem Firm.stage_of_other {arrival : Arrival} (firm : c.Firm)
    (arrived : c.receive? = some (arrival, d)) (other : ∀ closure, arrival ≠ .ended closure) :
    d.stage = c.stage := by
  rcases stage_receive arrived with same | ⟨awake, _, _, last⟩
  · exact same
  · have opened : c.closed = false := by
      by_contra closed
      exact absurd (awake.symm.trans (firm.deaf (Bool.of_not_eq_false closed))) nofun
    have idle : c.closing = false := by
      by_contra closing
      exact absurd (opened.symm.trans (firm.done (Bool.of_not_eq_false closing))) nofun
    obtain ⟨closure, same⟩ := last idle
    exact absurd same (other closure)

end Connection

namespace Client

variable {σ : Type} {s mid after : Session σ Client}

def firmly : Frame (Session σ Client) :=
  .invariant fun s => s.connection.Firm

theorem within_emit_firmly [Peer σ] (message : Json) :
    Within firmly (Session.emit message : Action σ Client Unit) :=
  Session.within_emit (fun _ firm => firm) fun _ _ firm => firm.of_stage rfl

theorem within_touch_firmly : Within firmly (touch : Action σ Client Unit) :=
  within_bind within_get fun _ => within_modify fun _ firm => firm

theorem within_closeWithin_firmly :
    Within firmly (Session.closeWithin : Action σ Client Unit) :=
  within_modify fun _ _ => Connection.firm_finish _

theorem RestartBegun.firm {leave : Action σ Client Unit} {outcome : Outcome Bool}
    (begun : RestartBegun leave s outcome after) (leaves : Within firmly leave)
    (firm : s.connection.Firm) : after.connection.Firm := by
  have gone {mid : Session σ Client} (left : Left leave s mid) : mid.connection.Firm := by
    cases left with
    | left _ gone => exact leaves gone firm
    | nothing _ => exact firm
  cases begun with
  | declined _ => exact firm
  | unfinished _ _ failed => exact leaves failed firm
  | untimed _ left _ => exact gone left
  | begun _ left _ =>
      have firm := gone left
      exact firm

theorem within_hear_firmly (listener : Listener) :
    Within firmly (hear listener : Action σ Client Unit) := by
  intro s after outcome ended firm
  cases ends_hear ended with
  | observed => exact firm
  | unwatched _ => exact firm
  | watched _ begun _ => exact begun.firm within_closeWithin_firmly firm

theorem within_ended_firmly (closure : Closure) :
    Within firmly (Client.ended closure : Action σ Client Unit) := by
  intro s after outcome ended firm
  cases ends_ended ended with
  | unheeded _ => exact firm
  | restarting _ _ => exact firm
  | noticed _ _ told => exact within_doEach (fun listener _ => within_hear_firmly listener) told firm

section

variable [Halves] [Peer σ]

theorem running_firmly : Running (firmly : Frame (Session σ Client)) where
  reply _ _ := within_emit_firmly _
  touch := within_touch_firmly
  publish _ _ := within_modify fun _ firm => firm
  receive arrived _ firm := firm.receive arrived
  edit arrived applied firm := by
    have roomy : Roomy (firmly : Frame (Session σ Client)) := fun _ _ _ firm => firm
    exact roomy.within_applyServerEdit within_touch_firmly within_emit_firmly _ applied
      (firm.receive arrived)
  lose arrived lost firm := within_ended_firmly _ lost (firm.receive arrived)
  emit _ := within_emit_firmly _
  file filed firm := firm.of_stage (Connection.stage_filed filed)
  roomy _ _ _ firm := firm
  drop _ := within_modify fun _ firm => firm

theorem sittings_firmly : Sittings (firmly : Frame (Session σ Client)) fun _ => True where
  toDealings := running_firmly.toDealings
  close s after outcome ended _ := by
    obtain ⟨_, _, rfl⟩ := Session.ends_close ended
    exact Connection.firm_finish _
  move _ := within_modify fun _ firm => firm
  begin _ := within_modify fun _ firm => firm

theorem within_leave_firmly : Within firmly (leave : Action σ Client Unit) :=
  sittings_firmly.within_leave ⟨fitRequest _, fitNotice _⟩ sittings_firmly.close

theorem within_start_firmly : Within firmly (start : Action σ Client Json) := by
  refine sittings_firmly.within_start ⟨fitRequest _, fitNotice _⟩ ?_
  intro before s after outcome ended firm
  rcases ends_launch ended with ⟨_, _, _, _, rfl⟩ | ⟨_, _, _, _, rfl⟩
  · exact firm
  · exact ⟨nofun, nofun⟩

end

/-! ### Attention -/

/-- The server that was launched last has ended, and that has been handled. -/
def Severed (s : Session σ Client) : Prop :=
  0 < s.owner.launches ∧ s.connection.closed = true

def Noticed (c : Client) : Prop :=
  c.state ≠ .ready ∧ c.healthy = false ∧ (c.restartNeeded = true ∨ c.restarting = true)

/-- A client that is alive knows of the end of its server, and it would notice that end. -/
structure Attentive (s : Session σ Client) : Prop where
  noticed : Severed s →
    s.owner.state = .shutDown ∨ s.owner.state = .uninitialized ∨ s.owner.Noticed
  steady : s.owner.restarting = true → s.owner.state = .restarting ∨ s.owner.state = .shutDown
  settled : s.owner.state ≠ .initializing

theorem Attentive.idle (attentive : Attentive s) (paused : s.owner.state ≠ .restarting)
    (shut : s.owner.state ≠ .shutDown) : s.owner.restarting = false := by
  by_contra busy
  rcases attentive.steady (Bool.of_not_eq_false busy) with state | state
  · exact paused state
  · exact shut state

/-- The client is not in the middle of anything: its connection is firm, and it is in a restart, without
a session, exactly where its state says so. -/
structure Poised (s : Session σ Client) : Prop where
  firm : s.connection.Firm
  fresh : s.owner.state = .uninitialized → s.owner.restarting = false
  pausing : s.owner.state = .restarting →
    s.owner.restarting = true ∧ s.owner.healthy = false ∧ s.owner.attached = false

theorem poised_of_firm (firm : s.connection.Firm)
    (begun : s.owner.state ≠ .uninitialized ∧ s.owner.state ≠ .restarting) : Poised s :=
  ⟨firm, fun fresh => absurd fresh begun.1, fun paused => absurd paused begun.2⟩

/-- A ready client is attentive exactly if its connection is open and it is not in a restart. -/
theorem attentive_iff_of_ready (ready : s.owner.state = .ready) (launched : 0 < s.owner.launches) :
    Attentive s ↔ s.connection.closed = false ∧ s.owner.restarting = false := by
  have other {state : ClientState} (different : ClientState.ready ≠ state) :
      s.owner.state ≠ state := by
    rw [ready]
    exact different
  constructor
  · intro attentive
    refine ⟨Bool.eq_false_iff.mpr fun closed => ?_, attentive.idle (other nofun) (other nofun)⟩
    rcases attentive.noticed ⟨launched, closed⟩ with shut | fresh | noticed
    · cases ready.symm.trans shut
    · cases ready.symm.trans fresh
    · exact noticed.1 ready
  · rintro ⟨opened, idle⟩
    exact ⟨fun severed => (nomatch opened.symm.trans severed.2),
      fun busy => (nomatch idle.symm.trans busy), other nofun⟩

structure Attending (a b : Session σ Client) : Prop where
  poised : Poised b
  launches : b.owner.launches = a.owner.launches
  attentive : Attentive a → Attentive b

def attending : Frame (Session σ Client) where
  holds a b := Poised a → Attending a b
  refl _ poised := ⟨poised, rfl, id⟩
  trans first second poised :=
    have mid := first poised
    have last := second mid.poised
    ⟨last.poised, last.launches.trans mid.launches, fun attentive =>
      last.attentive (mid.attentive attentive)⟩

def aspect (s : Session σ Client) :
    (Bool × Bool × Bool) × ClientState × Bool × Bool × Bool × Bool × Nat :=
  (s.connection.stage, s.owner.state, s.owner.restarting, s.owner.healthy, s.owner.attached,
    s.owner.restartNeeded, s.owner.launches)

theorem attending_of_aspect (same : aspect after = aspect s) : attending.holds s after := by
  simp only [aspect, Prod.mk.injEq] at same
  obtain ⟨stage, state, restarting, healthy, attached, restartNeeded, launches⟩ := same
  have closed : after.connection.closed = s.connection.closed := congrArg (·.1) stage
  intro poised
  refine ⟨⟨poised.firm.of_stage stage, ?_, ?_⟩, launches, fun attentive => ⟨?_, ?_, ?_⟩⟩
  · rw [state, restarting]
    exact poised.fresh
  · rw [state, restarting, healthy, attached]
    exact poised.pausing
  · rw [Severed, Noticed, launches, closed, state, healthy, restartNeeded, restarting]
    exact attentive.noticed
  · rw [state, restarting]
    exact attentive.steady
  · rw [state]
    exact attentive.settled

theorem attending_of_stage {connection : Connection}
    (same : connection.stage = s.connection.stage) : attending.holds s { s with connection } := by
  refine attending_of_aspect ?_
  unfold aspect
  rw [same]

theorem within_touch_attending : Within attending (touch : Action σ Client Unit) := by
  intro s after outcome ended
  obtain ⟨_, rfl⟩ := ends_touch.mp ended
  unfold touchedNow touched
  split
  · next healed =>
    obtain ⟨degraded, content⟩ := Bool.and_eq_true_iff.mp healed
    have state : s.owner.state = .degraded := of_decide_eq_true degraded
    intro poised
    refine ⟨⟨poised.firm, nofun, nofun⟩, rfl, fun attentive => ?_⟩
    have idle := attentive.idle (by rw [state]; exact nofun) (by rw [state]; exact nofun)
    refine ⟨fun severed => ?_, fun busy => (nomatch idle.symm.trans busy), nofun⟩
    have known := attentive.noticed severed
    rw [state, Noticed, idle] at known
    rcases known with known | known | ⟨_, _, needed | known⟩
    · cases known
    · cases known
    · rw [needed] at content
      cases content
    · cases known
  · exact attending_of_aspect rfl

/-! ### Restarts -/

theorem attentive_of_pausing (state : s.owner.state = .restarting)
    (restarting : s.owner.restarting = true) (healthy : s.owner.healthy = false) :
    Attentive s := by
  refine ⟨fun _ => .inr (.inr ⟨?_, healthy, .inr restarting⟩), fun _ => .inl state, ?_⟩
  · rw [state]
    exact fun same => nomatch same
  · rw [state]
    exact fun same => nomatch same

theorem RestartBegun.attends {leave : Action σ Client Unit} {outcome : Outcome Bool}
    (begun : RestartBegun leave s outcome after) (leaves : Within firmly leave)
    (stays : Within (frozen fun _ : World σ => ()) leave) : attending.holds s after := by
  intro poised
  have firm := begun.firm leaves poised.firm
  have busy : (givenUp s).owner.Busy := ⟨nofun, .inl rfl⟩
  have paused {mid : Session σ Client} (frozen : Frozen (fun _ : World σ => ()) (givenUp s) mid) :
      mid.owner.state = .restarting ∧ mid.owner.restarting = true ∧ mid.owner.healthy = false ∧
        mid.owner.attached = false ∧ mid.owner.launches = s.owner.launches := by
    refine ⟨frozen.state, frozen.restarting, ?_, frozen.attached, frozen.launches⟩
    by_contra well
    cases frozen.healthy (Bool.of_not_eq_false well)
  have ending {mid : Session σ Client} (frozen : Frozen (fun _ : World σ => ()) (givenUp s) mid)
      (same : aspect after = aspect mid) : Attending s after := by
    obtain ⟨state, restarting, healthy, attached, launches⟩ := paused frozen
    simp only [aspect, Prod.mk.injEq] at same
    obtain ⟨_, state', restarting', healthy', attached', _, launches'⟩ := same
    refine ⟨⟨firm, ?_, fun _ => ⟨restarting'.trans restarting, healthy'.trans healthy,
      attached'.trans attached⟩⟩, launches'.trans launches, fun _ => ?_⟩
    · rw [state', state]
      exact fun same => nomatch same
    · exact attentive_of_pausing (state'.trans state) (restarting'.trans restarting)
        (healthy'.trans healthy)
  have gone {mid : Session σ Client} (left : Left leave s mid) :
      Frozen (fun _ : World σ => ()) (givenUp s) mid := by
    cases left with
    | left _ gone => exact stays gone busy
    | nothing _ => exact .refl _ _
  cases begun with
  | declined _ => exact ⟨poised, rfl, id⟩
  | unfinished _ _ failed => exact ending (stays failed busy) rfl
  | untimed _ left _ => exact ending (gone left) rfl
  | begun _ left _ => exact ending (gone left) rfl

theorem within_hear_attending (listener : Listener) :
    Within attending (hear listener : Action σ Client Unit) := by
  intro s after outcome ended
  cases ends_hear ended with
  | observed => exact attending_of_aspect rfl
  | unwatched _ => exact attending_of_aspect rfl
  | watched _ begun _ =>
      refine begun.attends within_closeWithin_firmly ?_
      exact within_connection_frozen fun c =>
        ((Connection.tended_hangUp c).trans (Connection.tended_finish _)).language

/-- The end of a server is noticed by a client that was attentive before, whatever became of the
connection. -/
theorem attending_of_ended {connection : Connection} {closure : Closure} {outcome : Outcome Unit}
    (firm : s.connection.Firm → connection.Firm)
    (ended : Ends (Client.ended closure) { s with connection } outcome after) :
    attending.holds s after := by
  intro poised
  have received : Poised { s with connection } := ⟨firm poised.firm, poised.fresh, poised.pausing⟩
  cases ends_ended ended with
  | unheeded deaf =>
      refine ⟨⟨received.firm, received.fresh, received.pausing⟩, rfl, fun attentive => ?_⟩
      refine ⟨fun _ => ?_, attentive.steady, attentive.settled⟩
      rcases deaf with shut | fresh | ⟨initializing, _⟩
      · exact .inl shut
      · exact .inr (.inl fresh)
      · exact absurd initializing attentive.settled
  | restarting heeded busy =>
      refine ⟨⟨received.firm, received.fresh, fun state => ⟨busy, rfl, ?_⟩⟩, rfl, fun attentive => ?_⟩
      · exact (poised.pausing state).2.2
      rcases attentive.steady busy with state | shut
      · exact attentive_of_pausing state busy rfl
      · exact absurd (.inl shut) heeded
  | noticed _ idle told =>
      have alarm : Poised (alarmed closure { s with connection }) := ⟨received.firm, nofun, nofun⟩
      have known : Attentive (alarmed closure { s with connection }) :=
        ⟨fun _ => .inr (.inr ⟨nofun, rfl, .inl rfl⟩), fun busy => (nomatch idle.symm.trans busy),
          nofun⟩
      have rest := within_doEach (fun listener _ => within_hear_attending listener) told alarm
      exact ⟨rest.poised, rest.launches, fun _ => rest.attentive known⟩

/-! ### Exchanges -/

theorem within_emit_attending [Peer σ] (message : Json) :
    Within attending (Session.emit message : Action σ Client Unit) :=
  Session.within_emit (fun _ => attending_of_aspect rfl) fun _ _ => attending_of_aspect rfl

theorem roomy_attending : Roomy (attending : Frame (Session σ Client)) :=
  fun _ _ _ => attending_of_aspect rfl

variable [Halves] [Peer σ]

omit [Peer σ] in
theorem attending_received {arrival : Arrival} {connection : Connection}
    (arrived : s.connection.receive? = some (arrival, connection))
    (other : ∀ closure, arrival ≠ .ended closure) : attending.holds s { s with connection } :=
  fun poised => attending_of_stage (poised.firm.stage_of_other arrived other) poised

theorem running_attending : Running (attending : Frame (Session σ Client)) where
  reply _ _ := within_emit_attending _
  touch := within_touch_attending
  publish _ _ := within_modify fun _ => attending_of_aspect rfl
  receive := attending_received
  edit arrived applied :=
    attending.trans (attending_received arrived fun _ same => nomatch same)
      (roomy_attending.within_applyServerEdit within_touch_attending within_emit_attending _ applied)
  lose arrived lost := attending_of_ended (fun firm => firm.receive arrived) lost
  emit _ := within_emit_attending _
  file filed := attending_of_stage (Connection.stage_filed filed)
  roomy := roomy_attending
  drop _ := within_modify fun _ => attending_of_aspect rfl

/-! ### Operations that launch nothing -/

theorem within_requestRestart_attending :
    Within attending (requestRestart : Action σ Client Bool) :=
  fun _ _ _ ended => (ends_beginRestart ended).attends within_leave_firmly within_leave_frozen

omit [Halves] [Peer σ] in
theorem attending_marked (s : Session σ Client) :
    attending.holds s { s with owner := s.owner.markedDegraded } := by
  unfold markedDegraded
  split
  · next ready =>
    intro poised
    refine ⟨⟨poised.firm, nofun, nofun⟩, rfl, fun attentive => ?_⟩
    have idle := attentive.idle (by rw [ready]; exact nofun) (by rw [ready]; exact nofun)
    refine ⟨fun severed => ?_, fun busy => (nomatch idle.symm.trans busy), nofun⟩
    have known := attentive.noticed severed
    rw [ready] at known
    rcases known with known | known | noticed
    · cases known
    · cases known
    · exact absurd ready noticed.1
  · exact attending_of_aspect rfl

theorem within_checkHealth_attending : Within attending (checkHealth : Action σ Client Unit) := by
  intro s after outcome ended
  cases ends_checkHealth ended with
  | idle _ => exact attending.refl s
  | restarted _ _ _ _ requested _ => exact within_requestRestart_attending requested
  | marked _ _ => exact attending_marked s

theorem within_shutDown_attending : Within attending (shutDown : Action σ Client Unit) := by
  intro s after outcome ended
  rcases ends_shutDown ended with ⟨_, _, rfl⟩ | ⟨_, settling⟩
  · exact attending.refl _
  have busy : (dismissed s).owner.Busy := ⟨nofun, .inr (.inr (.inl rfl))⟩
  have shut {mid : Session σ Client} (firm : mid.connection.Firm)
      (frozen : Frozen (fun _ : World σ => ()) (dismissed s) mid) : Attending s mid := by
    have state : mid.owner.state = .shutDown := frozen.state
    refine ⟨⟨firm, ?_, ?_⟩, frozen.launches, fun _ => ⟨fun _ => .inl state, fun _ => .inr state, ?_⟩⟩
    all_goals
      rw [state]
      exact fun same => nomatch same
  intro poised
  have left {mid : Session σ Client} {reached : Outcome Unit}
      (gone : Ends leave (dismissed s) reached mid) : Attending s mid :=
    shut (within_leave_firmly gone poised.firm) (within_leave_frozen gone busy)
  have cleared {mid last : Session σ Client} {reached : Outcome Unit} (attended : Attending s mid)
      (clearing : Ends (update fun c => { c with documents := {}, diagnostics := [] }) mid reached
        last) : Attending s last := by
    obtain ⟨_, rfl⟩ := ends_update.mp clearing
    have emptied : attending.holds mid { mid with owner :=
      { mid.owner with documents := {}, diagnostics := [] } } := attending_of_aspect rfl
    exact attending.trans (fun _ => attended) emptied poised
  rcases ends_ite.mp settling with ⟨_, leaving⟩ | ⟨_, clearing⟩
  · rcases ends_bind.mp leaving with ⟨_, mid, gone, clearing⟩ | ⟨_, _, failed⟩
    · exact cleared (left gone) clearing
    · exact left failed
  · have gone : Attending s (dismissed s) := shut poised.firm (.refl _ _)
    exact cleared gone clearing

end Client

end Scalpel
