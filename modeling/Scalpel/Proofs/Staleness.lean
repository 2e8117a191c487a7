import Mathlib.Logic.Relation
import Scalpel.Proofs.Acceptance
import Scalpel.Proofs.Attention

/-!
A client that was not active for too long. As long as the end of its server is not handled, and nobody
tells the client to restart or to shut down, it stays with the one server that was launched for it. It
is degraded only by a health check that finds it stale, and everything that goes well between it and
its server makes it ready again.
-/

set_option autoImplicit false

namespace Scalpel.Client

/-! ### Clients in service -/

section

variable {σ : Type}

/-- A client has a session with the only server that was ever launched for it, and needs no restart. -/
structure InService (s : Session σ Client) : Prop where
  launches : s.owner.launches = 1
  alive : s.owner.state = .ready ∨ s.owner.state = .degraded
  calm : s.owner.restarting = false
  content : s.owner.restartNeeded = false
  attached : s.owner.attached = true
  healthy : s.owner.healthy = true ↔ s.owner.state = .ready

structure Fresh (s : Session σ Client) : Prop where
  ready : s.owner.state = .ready
  healthy : s.owner.healthy = true
  active : s.owner.lastActivity = s.world.clock.now

def bearing (s : Session σ Client) : Nat × ClientState × Bool × Bool × Bool × Bool :=
  (s.owner.launches, s.owner.state, s.owner.restarting, s.owner.restartNeeded, s.owner.attached,
    s.owner.healthy)

variable {s after : Session σ Client}

theorem InService.of_bearing (service : InService s) (same : bearing after = bearing s) :
    InService after := by
  simp only [bearing, Prod.mk.injEq] at same
  obtain ⟨launches, state, restarting, restartNeeded, attached, healthy⟩ := same
  exact ⟨launches.trans service.launches, by rw [state]; exact service.alive,
    restarting.trans service.calm, restartNeeded.trans service.content,
    attached.trans service.attached, by rw [healthy, state]; exact service.healthy⟩

theorem InService.state_ne (service : InService s) {state : ClientState}
    (other : state ≠ .ready ∧ state ≠ .degraded) : s.owner.state ≠ state := by
  rintro rfl
  exact service.alive.elim other.1 other.2

theorem InService.touched (service : InService s) :
    InService (touchedNow s) ∧ Fresh (touchedNow s) := by
  unfold touchedNow Client.touched
  rcases service.alive with ready | degraded
  · rw [if_neg (by rw [ready]; exact nofun)]
    exact ⟨service.of_bearing rfl, ready, service.healthy.mpr ready, rfl⟩
  · rw [if_pos (by rw [degraded, service.content]; rfl)]
    exact ⟨⟨service.launches, .inl rfl, service.calm, service.content, service.attached,
      fun _ => rfl, fun _ => rfl⟩, rfl, rfl, rfl⟩

end

section

variable [Halves] {σ : Type} [Peer σ] {a b c s mid after birth first last : Session σ Client}

/-! ### Progress -/

/-- A step in the course of what a client does within its session: a message goes out or comes in, a
request is filed, an arrival is taken, or the client takes note of something. -/
inductive Moves : Session σ Client → Session σ Client → Prop
  | sent {s after : Session σ Client} {message : Json} {outcome : Outcome Unit} :
    Ends (Session.emit message) s outcome after → Moves s after
  | came (s : Session σ Client) (arrivals : List Inbound) :
    Moves s { s with connection := s.connection.deliver arrivals }
  | filed {s : Session σ Client} {connection : Connection} : s.connection.Filed connection →
    Moves s { s with connection }
  | taken {s : Session σ Client} {arrival : Arrival} {connection : Connection} :
    s.connection.receive? = some (arrival, connection) → (∀ closure, arrival ≠ .ended closure) →
    Moves s { s with connection }
  | touched (s : Session σ Client) : Moves s (touchedNow s)
  | drafted (s : Session σ Client) (documents : Tracker) : Moves s (withDocuments s documents)
  | noted (s : Session σ Client) (diagnostics : List (String × List Diagnostic)) :
    Moves s { s with owner := { s.owner with diagnostics } }

inductive Loses : Session σ Client → Session σ Client → Prop
  | lost {s after : Session σ Client} {closure : Closure} {connection : Connection}
    {outcome : Outcome Unit} : s.connection.receive? = some (.ended closure, connection) →
    Ends (ended closure) { s with connection } outcome after → Loses s after

/-- The sessions that a client passes through in the course of what it does within its session. -/
def Proceeds : Session σ Client → Session σ Client → Prop :=
  Relation.ReflTransGen fun s after => Moves s after ∨ Loses s after

/-- On the way from one session to another the end of the server was handled. -/
def Bereft (a b : Session σ Client) : Prop :=
  ∃ mid next, Proceeds a mid ∧ Loses mid next ∧ Proceeds next b

def proceeding : Frame (Session σ Client) :=
  ⟨Proceeds, fun _ => .refl, .trans⟩

theorem Proceeds.move (moves : Moves s after) : Proceeds s after :=
  .single (.inl moves)

theorem within_touch_proceeding : Within proceeding (touch : Action σ Client Unit) := by
  intro s after outcome ended
  obtain ⟨_, rfl⟩ := ends_touch.mp ended
  exact Proceeds.move (.touched s)

theorem within_emit_proceeding (message : Json) :
    Within proceeding (Session.emit message : Action σ Client Unit) :=
  fun _ _ _ ended => Proceeds.move (.sent ended)

theorem within_publish_proceeding (uri : String) (diagnostics : List Diagnostic) :
    Within proceeding (update (·.withDiagnostics uri diagnostics) : Action σ Client Unit) :=
  within_modify fun s => Proceeds.move (.noted s _)

theorem roomy_proceeding : Roomy (proceeding : Frame (Session σ Client)) :=
  fun s documents _ => Proceeds.move (.drafted s documents)

theorem running_proceeding : Running (proceeding : Frame (Session σ Client)) where
  reply _ _ := within_emit_proceeding _
  touch := within_touch_proceeding
  publish := within_publish_proceeding
  receive arrived other := Proceeds.move (.taken arrived other)
  edit arrived applied :=
    proceeding.trans (Proceeds.move (.taken arrived fun _ => nofun))
      (roomy_proceeding.within_applyServerEdit within_touch_proceeding within_emit_proceeding _
        applied)
  lose arrived lost := Relation.ReflTransGen.single (.inr (.lost arrived lost))
  emit _ := within_emit_proceeding _
  file filed := Proceeds.move (.filed filed)
  roomy := roomy_proceeding
  drop uri := within_modify fun s =>
    proceeding.trans (Proceeds.move (.drafted s (s.owner.documents.remove uri)))
      (Proceeds.move (.noted _ _))

theorem Bereft.further (bereft : Bereft a b) (proceeds : Proceeds b c) : Bereft a c := by
  obtain ⟨mid, next, early, loses, late⟩ := bereft
  exact ⟨mid, next, early, loses, late.trans proceeds⟩

/-! ### The end of the server -/

theorem Moves.needed (moves : Moves s after) (needed : s.owner.restartNeeded = true) :
    after.owner.restartNeeded = true := by
  cases moves with
  | sent ended =>
      rcases Session.ends_emit.mp ended with ⟨_, rfl, _⟩ | ⟨_, _, _, rfl, _⟩ | ⟨_, _, rfl, _⟩
      · exact needed
      · exact needed
      · exact needed
  | touched =>
      unfold touchedNow Client.touched
      split <;> exact needed
  | _ => exact needed

def needing : Frame (Session σ Client) :=
  .invariant fun s => s.owner.restartNeeded = true

omit [Halves] [Peer σ] in
theorem within_hear_needing (listener : Listener) :
    Within needing (hear listener : Action σ Client Unit) := by
  intro s after outcome ended needed
  cases ends_hear ended with
  | observed => exact needed
  | unwatched _ => exact needed
  | watched _ begun _ =>
      have gone {mid : Session σ Client} (left : Left Session.closeWithin s mid) :
          mid.owner.restartNeeded = true := by
        cases left with
        | left _ closing =>
            obtain ⟨_, rfl⟩ := Session.ends_modifyConnection.mp closing
            exact needed
        | nothing _ => exact needed
      cases begun with
      | declined _ => exact needed
      | unfinished _ _ closing => cases (Session.ends_modifyConnection.mp closing).1
      | untimed _ left _ => exact gone left
      | begun _ left _ =>
          have same := gone left
          exact same

omit [Peer σ] in
theorem Loses.needed (loses : Loses s after)
    (known : InService s ∨ s.owner.restartNeeded = true) : after.owner.restartNeeded = true := by
  obtain ⟨_, lost⟩ := loses
  cases ends_ended lost with
  | unheeded deaf =>
      rcases known with service | needed
      · rcases deaf with shut | fresh | ⟨initializing, _⟩
        · exact absurd shut (service.state_ne ⟨nofun, nofun⟩)
        · exact absurd fresh (service.state_ne ⟨nofun, nofun⟩)
        · exact absurd initializing (service.state_ne ⟨nofun, nofun⟩)
      · exact needed
  | restarting _ busy =>
      rcases known with service | needed
      · cases service.calm.symm.trans busy
      · exact needed
  | noticed _ _ told => exact within_doEach (fun listener _ => within_hear_needing listener) told rfl

/-- What becomes of a client in service whose server goes on: it stays in service, and it is as it was
unless it has just been active. -/
structure Kept (a b : Session σ Client) : Prop where
  service : InService b
  clock : b.world.clock = a.world.clock
  activity : (b.owner.state = a.owner.state ∧ b.owner.lastActivity = a.owner.lastActivity) ∨ Fresh b

omit [Halves] [Peer σ] in
theorem Kept.refl (service : InService s) : Kept s s :=
  ⟨service, rfl, .inl ⟨rfl, rfl⟩⟩

omit [Halves] [Peer σ] in
theorem Fresh.trans (fresh : Fresh a) (kept : Kept a b) : Fresh b := by
  rcases kept.activity with ⟨state, active⟩ | fresh'
  · have ready := state.trans fresh.ready
    exact ⟨ready, kept.service.healthy.mpr ready, by rw [active, kept.clock]; exact fresh.active⟩
  · exact fresh'

omit [Halves] [Peer σ] in
theorem Kept.trans (first : Kept a b) (second : Kept b c) : Kept a c := by
  refine ⟨second.service, second.clock.trans first.clock, ?_⟩
  rcases first.activity with ⟨state, active⟩ | fresh
  · rcases second.activity with ⟨state', active'⟩ | fresh
    · exact .inl ⟨state'.trans state, active'.trans active⟩
    · exact .inr fresh
  · exact .inr (fresh.trans second)

theorem Moves.kept (moves : Moves s after) (service : InService s) : Kept s after := by
  have same {after : Session σ Client} (clock : after.world.clock = s.world.clock)
      (owner : bearing after = bearing s) (active : after.owner.lastActivity = s.owner.lastActivity) :
      Kept s after :=
    ⟨service.of_bearing owner, clock, .inl ⟨congrArg (·.2.1) owner, active⟩⟩
  cases moves with
  | sent ended =>
      rcases Session.ends_emit.mp ended with ⟨_, rfl, _⟩ | ⟨_, _, _, rfl, _⟩ | ⟨_, _, rfl, _⟩
      · exact same rfl rfl rfl
      · exact same rfl rfl rfl
      · exact same rfl rfl rfl
  | touched => exact ⟨service.touched.1, rfl, .inr service.touched.2⟩
  | _ => exact same rfl rfl rfl

theorem Proceeds.kept (proceeds : Proceeds a b) (service : InService a) :
    Bereft a b ∨ Kept a b := by
  induction proceeds with
  | refl => exact .inr (.refl service)
  | tail early step ih =>
      rcases ih with bereft | kept
      · exact .inl (bereft.further (.single step))
      · rcases step with moves | loses
        · exact .inr (kept.trans (moves.kept kept.service))
        · exact .inl ⟨_, _, early, loses, .refl⟩

theorem Proceeds.needed (proceeds : Proceeds a b) (needed : a.owner.restartNeeded = true) :
    b.owner.restartNeeded = true := by
  induction proceeds with
  | refl => exact needed
  | tail _ step ih =>
      rcases step with moves | loses
      · exact moves.needed ih
      · exact loses.needed (.inr ih)

theorem Proceeds.known (proceeds : Proceeds a b) (service : InService a) :
    InService b ∨ b.owner.restartNeeded = true := by
  induction proceeds with
  | refl => exact .inl service
  | tail _ step ih =>
      rcases step with moves | loses
      · rcases ih with service | needed
        · exact .inl (moves.kept service).service
        · exact .inr (moves.needed needed)
      · exact .inr (loses.needed ih)

theorem Bereft.needed (bereft : Bereft a b) (service : InService a) :
    b.owner.restartNeeded = true := by
  obtain ⟨_, _, early, loses, late⟩ := bereft
  exact late.needed (loses.needed (early.known service))

/-! ### What goes well -/

/-- Something goes well between a client and its server: a request is answered, a notification is sent,
also while an arrival is handled, or a notification of the server is handled. -/
inductive Succeeds (s : Session σ Client) : Session σ Client → Prop
  | answered {method : String} {params timeout answer : Json} {after : Session σ Client} :
    Ends (request method params timeout) s (.ok answer) after → Succeeds s after
  | told {method : String} {params : Json} {after : Session σ Client} :
    Ends (notify method params) s (.ok ()) after → Succeeds s after
  | replied {method : String} {params : Json} {after : Session σ Client} :
    Ends (tell Session.notifyWithin method params) s (.ok ()) after → Succeeds s after
  | heeded {method params : Json} {after : Session σ Client} :
    Ends (notified method params) s (.ok ()) after → Succeeds s after

/-- After something has gone well the client notes that it was active, and that is the last thing it
does about it. -/
theorem Succeeds.touches (succeeds : Succeeds s after) :
    ∃ mid, Proceeds s mid ∧ after = touchedNow mid := by
  have told {send : String → Json → Action σ Client Unit} {method : String} {params : Json}
      (sends : Within proceeding (send method params))
      (ended : Ends (tell send method params) s (.ok ()) after) :
      ∃ mid, Proceeds s mid ∧ after = touchedNow mid := by
    rcases ends_tell ended with ⟨_, _, failed, _⟩ | ⟨_, mid, sent, _, rfl⟩ | ⟨_, _, failed, _⟩
    · cases failed
    · exact ⟨mid, sends sent, rfl⟩
    · cases failed
  cases succeeds with
  | answered ended =>
      obtain ⟨_, s', needed, rest⟩ := ends_bind_ok.mp ended
      obtain ⟨_, mid, requested, touching⟩ := ends_bind_ok.mp (ends_current_bind.mp rest)
      obtain ⟨_, _, touched, done⟩ := ends_bind_ok.mp touching
      obtain ⟨_, rfl⟩ := ends_touch.mp touched
      obtain ⟨_, rfl⟩ := ends_pure.mp done
      refine ⟨mid, proceeding.trans (within_needSession needed) ?_, rfl⟩
      exact running_proceeding.toDealings.within_exchange (fitRequest _) _ _ requested
  | told ended => exact told (running_proceeding.toDealings.within_notify (fitNotice _) _) ended
  | replied ended =>
      exact told (within_bind (Session.within_needOpen _) fun _ => within_emit_proceeding _) ended
  | heeded ended =>
      have last {mid : Session σ Client} (proceeds : Proceeds s mid)
          (touching : Ends (touch : Action σ Client Unit) mid (.ok ()) after) :
          ∃ mid, Proceeds s mid ∧ after = touchedNow mid :=
        ⟨mid, proceeds, (ends_touch.mp touching).2⟩
      rcases ends_ite.mp ended with ⟨_, reading⟩ | ⟨_, touching⟩
      · rcases ends_ite.mp reading with ⟨_, publishing⟩ | ⟨_, reading⟩
        · obtain ⟨_, _, published, touching⟩ := ends_bind_ok.mp publishing
          exact last (within_publish within_publish_proceeding _ published) touching
        · rcases ends_ite.mp reading with ⟨_, looking⟩ | ⟨_, touching⟩
          · obtain ⟨_, _, looked, touching⟩ := ends_bind_ok.mp looking
            exact last (Session.within_settle (F := proceeding) _ looked) touching
          · exact last .refl touching
      · exact last .refl touching

theorem Succeeds.fresh (succeeds : Succeeds s after) (service : InService s)
    (unlost : ¬Bereft s after) : Fresh after := by
  obtain ⟨mid, proceeds, rfl⟩ := succeeds.touches
  rcases proceeds.kept service with bereft | kept
  · exact absurd (bereft.further (.move (.touched mid))) unlost
  · exact kept.service.touched.2

/-! ### Spells of service -/

/-- An event is neither an order to restart or to shut down or to be degraded, nor the end of a server
that was given up. -/
def Event.Ordinary : Event → Prop
  | .stimulus .shutDown | .stimulus .requestRestart | .stimulus .markDegraded
  | .stimulus (.formerEnds _) => False
  | _ => True

def Event.IsCheck : Event → Prop
  | .stimulus .checkHealth | .due .healthCheck => True
  | _ => False

/-- What becomes of a client in service by an event: it is as active as it was, it has just been active,
or a health check has found it stale. -/
inductive Served (event : Event) (s after : Session σ Client) : Prop
  | same : after.owner.state = s.owner.state → after.owner.lastActivity = s.owner.lastActivity →
    Served event s after
  | fresh : Fresh after → Served event s after
  | stale : event.IsCheck → s.owner.isStale after.world.clock.now = true →
    after.owner.lastActivity = s.owner.lastActivity → s.owner.state = .ready →
    after.owner.state = .degraded → Served event s after

theorem ends_checkHealth_served {outcome : Outcome Unit} (service : InService s)
    (ended : Ends checkHealth s outcome after) :
    after = s ∨ s.owner.state = .ready ∧ s.owner.isStale s.world.clock.now = true ∧
      after = { s with owner := s.owner.markedDegraded } := by
  rcases ends_ite.mp (ends_current_bind.mp ended) with ⟨_, done⟩ | ⟨_, checking⟩
  · exact .inl (ends_pure.mp done).2
  rcases ends_ite.mp checking with ⟨_, done⟩ | ⟨_, checking⟩
  · exact .inl (ends_pure.mp done).2
  rcases ends_ite.mp checking with ⟨needed, _⟩ | ⟨_, checking⟩
  · cases service.content.symm.trans needed
  have looked := ends_get_bind.mp checking
  rcases ends_ite.mp looked with ⟨idle, marking⟩ | ⟨_, done⟩
  · obtain ⟨ready, stale⟩ := Bool.and_eq_true_iff.mp idle
    exact .inr ⟨of_decide_eq_true ready, stale, (ends_update.mp marking).2⟩
  · exact .inl (ends_pure.mp done).2

theorem served_checkHealth {event : Event} {outcome : Outcome Unit} (check : event.IsCheck)
    (service : InService s) (ended : Ends checkHealth s outcome after) :
    InService after ∧ Served event s after := by
  rcases ends_checkHealth_served service ended with rfl | ⟨ready, stale, rfl⟩
  · exact ⟨service, .same rfl rfl⟩
  · unfold markedDegraded
    rw [if_pos ready]
    exact ⟨⟨service.launches, .inr rfl, service.calm, service.content, service.attached, nofun, nofun⟩,
      .stale check stale rfl ready rfl⟩

theorem Happens.served {event : Event} {outcome : Outcome Unit} (step : Happens event s outcome after)
    (ordinary : event.Ordinary) (service : InService s) (unlost : ¬Bereft s after) :
    InService after ∧ Served event s after := by
  have proceeding {after : Session σ Client} (proceeds : Proceeds s after)
      (unlost : ¬Bereft s after) : InService after ∧ Served event s after := by
    rcases proceeds.kept service with bereft | kept
    · exact absurd bereft unlost
    · refine ⟨kept.service, ?_⟩
      rcases kept.activity with ⟨state, active⟩ | fresh
      · exact .same state active
      · exact .fresh fresh
  have staying {after : Session σ Client} (owner : bearing after = bearing s)
      (active : after.owner.lastActivity = s.owner.lastActivity) :
      InService after ∧ Served event s after :=
    ⟨service.of_bearing owner, .same (congrArg (·.2.1) owner) active⟩
  have draining {connection : Connection} (enters : Proceeds s { s with connection })
      (drained : Ends (Session.drain handlers) { s with connection } outcome after) :
      InService after ∧ Served event s after :=
    proceeding (enters.trans (running_proceeding.within_drain drained)) unlost
  cases step with
  | @stimulus stimulus _ _ _ ended =>
      cases stimulus with
      | errand errand => exact proceeding (running_proceeding.within_errand errand ended) unlost
      | start =>
          obtain ⟨_, started, _⟩ := ends_ignoring ended
          rw [eq_of_start (service.state_ne ⟨nofun, nofun⟩) (service.state_ne ⟨nofun, nofun⟩) started]
          exact staying rfl rfl
      | checkHealth => exact served_checkHealth trivial service ended
      | startMonitor =>
          cases ends_startMonitor ended with
          | running _ => exact staying rfl rfl
          | untimed _ => exact staying rfl rfl
          | started _ => exact staying rfl rfl
      | stopMonitor =>
          rcases (ends_stopMonitor ended).2 with ⟨_, rfl⟩ | ⟨_, _, rfl⟩
          · exact staying rfl rfl
          · exact staying rfl rfl
      | listen =>
          obtain ⟨_, rfl⟩ := ends_update.mp ended
          exact staying rfl rfl
      | arrive arrivals =>
          obtain ⟨_, _, came, drained⟩ | ⟨_, _, failed⟩ := ends_bind.mp ended
          · obtain ⟨_, rfl⟩ := Session.ends_modifyConnection.mp came
            exact draining (.move (.came s arrivals)) drained
          · cases (Session.ends_modifyConnection.mp failed).1
      | serverEnds closure =>
          obtain ⟨_, _, came, drained⟩ | ⟨_, _, failed⟩ := ends_bind.mp ended
          · obtain ⟨_, rfl⟩ := Session.ends_modifyConnection.mp came
            refine draining ?_ drained
            unfold Connection.endTransport
            split
            · exact .refl
            · exact .move (.came s _)
          · cases (Session.ends_modifyConnection.mp failed).1
      | _ => exact ordinary.elim
  | @due job _ _ _ clock _ _ performed =>
      have service' : InService (moved clock s) := service.of_bearing rfl
      cases job with
      | healthCheck =>
          have check : Event.IsCheck (.due .healthCheck) := trivial
          obtain ⟨serving, served⟩ := served_checkHealth check service' performed
          refine ⟨serving, ?_⟩
          cases served with
          | same state active => exact .same state active
          | fresh fresh => exact .fresh fresh
          | stale check stale active ready degraded => exact .stale check stale active ready degraded
      | restart =>
          obtain ⟨_, rfl⟩ := ends_completeRestart_of_ne (service'.state_ne ⟨nofun, nofun⟩) performed
          refine ⟨⟨service.launches, service.alive, rfl, service.content, service.attached,
            service.healthy⟩, .same rfl rfl⟩
  | elsewhere _ => exact staying rfl rfl

/-- A client serves for a while: ordinary events follow one another, and the end of its server is not
handled. -/
inductive Spell (first : Session σ Client) : Session σ Client → Prop
  | refl : Spell first first
  | step {mid last : Session σ Client} {event : Event} {outcome : Outcome Unit} : Spell first mid →
    Happens event mid outcome last → event.Ordinary → ¬Bereft mid last → Spell first last

theorem Spell.inService (spell : Spell first last) (service : InService first) : InService last := by
  induction spell with
  | refl => exact service
  | step _ step ordinary unlost ih => exact (step.served ordinary ih unlost).1

theorem Spell.further {event : Event} {outcome : Outcome Unit} (spell : Spell first mid)
    (service : InService first) (step : Happens event mid outcome last) (ordinary : event.Ordinary)
    (content : last.owner.restartNeeded = false) : Spell first last := by
  refine spell.step step ordinary fun bereft => ?_
  cases content.symm.trans (bereft.needed (spell.inService service))

theorem inService_of_start {capabilities : Json} (born : Born birth)
    (started : Ends start birth (.ok capabilities) first) : InService first ∧ Fresh first := by
  obtain ⟨_, _⟩ := born
  cases ends_start_began (.inl rfl) started with
  | @begun launched server mid capabilities _ posted _ =>
      have owner := posted.owner
      have opened : InService (opened capabilities mid) :=
        ⟨posted.launches, .inl rfl, posted.restarting, posted.restartNeeded, rfl, fun _ => rfl,
          fun _ => rfl⟩
      exact opened.touched

/-- A client that was brought to life and whose server goes on stays in service as long as it is not told
otherwise: at every moment it is ready or degraded, and no server but the first was launched. It is
degraded only by a health check that finds it stale, and its last activity is then what it was; in the
course of an errand or of what it does about arrivals it never is. Whenever something goes well between
it and its server, it is ready and healthy at once, and that is its last activity. -/
theorem staleness_never_restarts {capabilities : Json} (born : Born birth)
    (started : Ends start birth (.ok capabilities) first) (spell : Spell first last) :
    InService last ∧
      (∀ {event : Event} {outcome : Outcome Unit} {after : Session σ Client},
        Happens event last outcome after → event.Ordinary → ¬Bereft last after →
        Served event last after ∧ (last.owner.state = .ready → after.owner.state = .degraded →
          event.IsCheck ∧ last.owner.isStale after.world.clock.now = true)) ∧
      ∀ {mid : Session σ Client}, Proceeds last mid → ¬Bereft last mid →
        InService mid ∧ (last.owner.state = .ready → mid.owner.state = .ready) ∧
        ∀ {after : Session σ Client}, Succeeds mid after → ¬Bereft mid after → Fresh after := by
  have service := spell.inService (inService_of_start born started).1
  refine ⟨service, fun step ordinary unlost => ?_, fun proceeds unlost => ?_⟩
  · have served := (step.served ordinary service unlost).2
    refine ⟨served, fun ready degraded => ?_⟩
    cases served with
    | same state _ => cases degraded.symm.trans (state.trans ready)
    | fresh fresh => cases degraded.symm.trans fresh.ready
    | stale check stale _ _ _ => exact ⟨check, stale⟩
  · rcases proceeds.kept service with bereft | kept
    · exact absurd bereft unlost
    · refine ⟨kept.service, fun ready => ?_, fun succeeds unlost => ?_⟩
      · rcases kept.activity with ⟨state, _⟩ | fresh
        · exact state.trans ready
        · exact fresh.ready
      · exact succeeds.fresh kept.service unlost

end

end Scalpel.Client

/-! ### A client that falls idle -/

namespace Scalpel.Client

local instance stalenessHalves : Halves :=
  Halves.trial

/-- A client that nothing has happened to. Its server answers everything, and it takes ten seconds
without activity for a sign of trouble. -/
def idleBirth : Session Script.Servers Client :=
  { world := { server := {} }
    owner := make { language := "py", command := .str "py-server" } "/w"
      { heartbeatTimeout := .int 10 } 0.0 }

def idleStart : Session Script.Servers Client :=
  ((start : Action Script.Servers Client Json).run idleBirth).2

def idleWatched : Session Script.Servers Client :=
  follow idleStart (.stimulus .startMonitor)

/-- After thirty seconds the monitor checks the health of the client. -/
def idle : Session Script.Servers Client :=
  follow idleWatched (.wait 1030.0)

def awake : Session Script.Servers Client :=
  ((notify "$/note" .null : Action Script.Servers Client Unit).run idle).2

private theorem ends_of_fine {σ α : Type} {op : Action σ Client α} {s : Session σ Client}
    (fine : (op.run s).1.toBool = true) : ∃ value, Ends op s (.ok value) (op.run s).2 := by
  cases outcome : (op.run s).1 with
  | error failure =>
      rw [outcome] at fine
      cases fine
  | ok value => exact ⟨value, Prod.ext outcome rfl⟩

private theorem spell_idle (service : InService idleStart) : Spell idleStart idle := by
  obtain ⟨_, monitored⟩ := happens_follow_stimulus idleStart .startMonitor
  have watched : Spell idleStart idleWatched :=
    Spell.refl.further service monitored trivial (by decide +kernel)
  have checked : ∃ outcome, Happens (.due .healthCheck) idleWatched outcome idle :=
    happens_due_follow (by decide +kernel)
  obtain ⟨_, checked⟩ := checked
  exact watched.further service checked trivial (by decide +kernel)

theorem staleness_never_restarts_of_idle : Born idleBirth ∧
    (∃ capabilities, Ends start idleBirth (.ok capabilities) idleStart) ∧ Spell idleStart idle ∧
      idle.owner.state = .degraded ∧ idle.owner.launches = 1 ∧ Fresh awake := by
  have born : Born idleBirth := .make ⟨nofun, List.nodup_nil⟩ nofun
  have start : ∃ capabilities, Ends start idleBirth (.ok capabilities) idleStart :=
    ends_of_fine (by decide +kernel)
  obtain ⟨capabilities, started⟩ := start
  have service := (inService_of_start born started).1
  have spell := spell_idle service
  obtain ⟨serving, _, passing⟩ := staleness_never_restarts born started spell
  have unlost {after : Session Script.Servers Client} (content : after.owner.restartNeeded = false) :
      ¬Bereft idle after :=
    fun bereft => nomatch content.symm.trans (bereft.needed (spell.inService service))
  have noted : ∃ value, Ends (notify "$/note" .null) idle (.ok value) awake :=
    ends_of_fine (by decide +kernel)
  obtain ⟨_, noted⟩ := noted
  obtain ⟨_, _, thriving⟩ := passing .refl (unlost (by decide +kernel))
  exact ⟨born, ⟨capabilities, started⟩, spell, by decide +kernel, serving.launches,
    thriving (.told noted) (unlost (by decide +kernel))⟩

end Scalpel.Client
