import Scalpel.Proofs.Errands

/-!
How restarts begin. The end of a server is noted and passed on to whoever listens; a monitor that runs
begins a restart. A restart gives the session up first, then asks the clock for its second half. So
whatever a server says in the course of an exchange and whenever it ends, a restart in progress stays in
progress and nothing is scheduled meanwhile; where none is, at most one is begun, and its second half is
scheduled unless the pause before it cannot be waited for.
-/

set_option autoImplicit false

namespace Scalpel.Client

variable {σ : Type} {a b c s after : Session σ Client}

/-! ### The first half of a restart -/

def Restartable (c : Client) : Prop :=
  c.state ≠ .shutDown ∧ c.restarting = false

def givenUp (s : Session σ Client) : Session σ Client :=
  { s with owner := { s.owner with
      restarting := true, healthy := false, state := .restarting, attached := false } }

def scheduled (language : String) (delay : Float) (s : Session σ Client) : Session σ Client :=
  { s with
    world := { s.world with
      clock := (s.world.clock.later delay { language, job := .restart }).2 }
    owner := { s.owner with backoff := some s.world.clock.nextId } }

/-- A session that was given up has been left, if there was one. -/
inductive Left (leave : Action σ Client Unit) (s : Session σ Client) : Session σ Client → Prop
  | left {after : Session σ Client} : s.owner.attached = true → Ends leave (givenUp s) (.ok ()) after →
    Left leave s after
  | nothing : s.owner.attached = false → Left leave s (givenUp s)

inductive RestartBegun (leave : Action σ Client Unit) (s : Session σ Client) :
    Outcome Bool → Session σ Client → Prop
  | declined : ¬s.owner.Restartable → RestartBegun leave s (.ok false) s
  | unfinished {failure after} : s.owner.Restartable → s.owner.attached = true →
    Ends leave (givenUp s) (.error failure) after → RestartBegun leave s (.error failure) after
  | untimed {failure mid} : s.owner.Restartable → Left leave s mid →
    Settings.duration s.owner.settings.restartBackoff = .error failure →
    RestartBegun leave s (.error failure) mid
  | begun {delay mid} : s.owner.Restartable → Left leave s mid →
    Settings.duration s.owner.settings.restartBackoff = .ok delay →
    RestartBegun leave s (.ok true) (scheduled s.owner.language delay mid)

theorem ends_beginRestart {leave : Action σ Client Unit} {outcome : Outcome Bool}
    (ended : Ends (beginRestart leave) s outcome after) :
    RestartBegun leave s outcome after := by
  rcases ends_ite.mp (ends_current_bind.mp ended) with ⟨idle, done⟩ | ⟨free, beginning⟩
  · obtain ⟨rfl, rfl⟩ := ends_pure.mp done
    refine .declined fun restartable => ?_
    rcases Bool.or_eq_true_iff.mp idle with shut | busy
    · exact restartable.1 (of_decide_eq_true shut)
    · cases restartable.2.symm.trans busy
  have restartable : s.owner.Restartable := by
    rw [Bool.or_eq_true, not_or] at free
    exact ⟨fun shut => free.1 (decide_eq_true shut), Bool.eq_false_iff.mpr free.2⟩
  have timed {mid : Session σ Client} (gone : Left leave s mid)
      (rest : Ends (askForReturn s.owner) mid outcome after) :
      RestartBegun leave s outcome after := by
    rcases ends_settle_bind.mp rest with ⟨failure, untimed, rfl, rfl⟩ | ⟨delay, timed, asking⟩
    · exact .untimed restartable gone untimed
    · rcases ends_bind.mp (ends_get_bind.mp asking) with ⟨_, _, asked, noting⟩ | ⟨_, _, failed⟩
      · obtain ⟨_, rfl⟩ := Session.ends_modifyWorld.mp asked
        have noted := ends_update_bind.mp noting
        obtain ⟨rfl, rfl⟩ := ends_pure.mp noted
        exact .begun restartable gone timed
      · cases (Session.ends_modifyWorld.mp failed).1
  rcases ends_ite.mp (ends_update_bind.mp beginning) with ⟨attached, leaving⟩ | ⟨detached, rest⟩
  · rcases ends_bind.mp leaving with ⟨_, mid, gone, rest⟩ | ⟨failure, rfl, failed⟩
    · exact timed (.left attached gone) rest
    · exact .unfinished restartable attached failed
  · exact timed (.nothing (Bool.eq_false_iff.mpr detached)) rest

/-! ### The end of a server -/

/-- The client does not heed the end of its server: it has none, or it is in the middle of a handshake
that will see to it. -/
def Deaf (c : Client) : Prop :=
  c.state = .shutDown ∨ c.state = .uninitialized ∨
    c.state = .initializing ∧ c.restarting = false

def exited (closure : Closure) (s : Session σ Client) : Session σ Client :=
  { s with owner := { s.owner with lastExitCode := closure.exitCode } }

def ailing (closure : Closure) (s : Session σ Client) : Session σ Client :=
  { s with owner := { s.owner with lastExitCode := closure.exitCode, healthy := false } }

def alarmed (closure : Closure) (s : Session σ Client) : Session σ Client :=
  { s with owner := { s.owner with
      lastExitCode := closure.exitCode, healthy := false, restartNeeded := true
      state := .degraded } }

/-- What became of a client whose server has ended. -/
inductive Lost (closure : Closure) (s : Session σ Client) : Outcome Unit → Session σ Client → Prop
  | unheeded : s.owner.Deaf → Lost closure s (.ok ()) (exited closure s)
  | restarting : ¬s.owner.Deaf → s.owner.restarting = true →
    Lost closure s (.ok ()) (ailing closure s)
  | noticed {outcome after} : ¬s.owner.Deaf → s.owner.restarting = false →
    Ends (doEach s.owner.listeners hear) (alarmed closure s) outcome after →
    Lost closure s outcome after

theorem ends_ended {closure : Closure} {outcome : Outcome Unit}
    (ended : Ends (Client.ended closure) s outcome after) : Lost closure s outcome after := by
  rcases ends_ite.mp (ends_current_bind.mp (ends_update_bind.mp ended)) with
    ⟨gone, done⟩ | ⟨there, heeding⟩
  · obtain ⟨rfl, rfl⟩ := ends_pure.mp done
    refine .unheeded ?_
    rcases Bool.or_eq_true_iff.mp gone with shut | fresh
    · exact .inl (of_decide_eq_true shut)
    · exact .inr (.inl (of_decide_eq_true fresh))
  rcases ends_ite.mp heeding with ⟨beginning, done⟩ | ⟨begun, heeding⟩
  · obtain ⟨rfl, rfl⟩ := ends_pure.mp done
    obtain ⟨initializing, calm⟩ := Bool.and_eq_true_iff.mp beginning
    exact .unheeded (.inr (.inr ⟨of_decide_eq_true initializing, by simpa using calm⟩))
  have heard : ¬s.owner.Deaf := by
    rintro (shut | fresh | ⟨initializing, calm⟩)
    · exact there (Bool.or_eq_true_iff.mpr (.inl (decide_eq_true shut)))
    · exact there (Bool.or_eq_true_iff.mpr (.inr (decide_eq_true fresh)))
    · exact begun (Bool.and_eq_true_iff.mpr
        ⟨decide_eq_true initializing, by rw [calm]; rfl⟩)
  rcases ends_ite.mp (ends_update_bind.mp heeding) with ⟨busy, done⟩ | ⟨idle, noticing⟩
  · obtain ⟨rfl, rfl⟩ := ends_pure.mp done
    exact .restarting heard busy
  · refine .noticed heard (Bool.eq_false_iff.mpr idle) ?_
    rcases ends_bind.mp (ends_update_bind.mp noticing) with ⟨_, _, told, done⟩ | ⟨_, rfl, failed⟩
    · obtain ⟨rfl, rfl⟩ := ends_pure.mp done
      exact told
    · exact failed

inductive Heard (s : Session σ Client) : Outcome Unit → Session σ Client → Prop
  | observed : Heard s (.ok ()) { s with owner := { s.owner with
      heard := s.owner.heard ++ [s.owner.state] } }
  | unwatched : s.owner.monitor.call = none → Heard s (.ok ()) s
  | watched {began outcome after} : s.owner.monitor.call.isSome = true →
    RestartBegun Session.closeWithin s began after → (∀ value, began = .ok value → outcome = .ok ()) →
    Heard s outcome after

theorem ends_hear {listener : Listener} {outcome : Outcome Unit}
    (ended : Ends (hear listener) s outcome after) : Heard s outcome after := by
  cases listener with
  | observer =>
      obtain ⟨rfl, rfl⟩ := ends_update.mp ended
      exact .observed
  | monitor =>
      rcases ends_ite.mp (ends_current_bind.mp ended) with ⟨watched, beginning⟩ | ⟨unwatched, done⟩
      · rcases ends_bind.mp beginning with ⟨_, _, begun, done⟩ | ⟨_, rfl, begun⟩
        · obtain ⟨rfl, rfl⟩ := ends_pure.mp done
          exact .watched watched (ends_beginRestart begun) fun _ _ => rfl
        · exact .watched watched (ends_beginRestart begun) fun _ same => nomatch same
      · obtain ⟨rfl, rfl⟩ := ends_pure.mp done
        exact .unwatched (by simpa using unwatched)

/-! ### What is booked -/

inductive Scheduling (a b : Session σ Client) : Prop
  | kept : b.owner.restarting = a.owner.restarting → b.owner.backoff = a.owner.backoff →
    b.world.clock = a.world.clock → Scheduling a b
  | begun (delay : Float) : a.owner.restarting = false → b.owner.restarting = true →
    Settings.duration a.owner.settings.restartBackoff = .ok delay →
    b.owner.backoff = some a.world.clock.nextId →
    b.world.clock =
      (a.world.clock.later delay { language := a.owner.language, job := .restart }).2 →
    Scheduling a b
  | untimed (failure : Failure) : a.owner.restarting = false → b.owner.restarting = true →
    Settings.duration a.owner.settings.restartBackoff = .error failure →
    b.owner.backoff = a.owner.backoff → b.world.clock = a.world.clock → Scheduling a b

structure Booked (a b : Session σ Client) : Prop where
  config : b.owner.config = a.owner.config
  settings : b.owner.settings = a.owner.settings
  monitor : b.owner.monitor = a.owner.monitor
  restartCount : b.owner.restartCount = a.owner.restartCount
  launches : a.owner.launches ≤ b.owner.launches
  scheduling : Scheduling a b

def ledger (s : Session σ Client) :
    ServerConfig × Settings × Monitor × Nat × Nat × Bool × Option Nat × Clock Task :=
  (s.owner.config, s.owner.settings, s.owner.monitor, s.owner.restartCount, s.owner.launches,
    s.owner.restarting, s.owner.backoff, s.world.clock)

theorem Booked.of_ledger (same : ledger b = ledger a) : Booked a b := by
  simp only [ledger, Prod.mk.injEq] at same
  obtain ⟨config, settings, monitor, count, launches, restarting, backoff, clock⟩ := same
  exact ⟨config, settings, monitor, count, Nat.le_of_eq launches.symm,
    .kept restarting backoff clock⟩

theorem Booked.refl (s : Session σ Client) : Booked s s :=
  .of_ledger rfl

theorem Booked.kept (booked : Booked a b) (restarting : a.owner.restarting = true) :
    b.owner.restarting = true ∧ b.owner.backoff = a.owner.backoff ∧
      b.world.clock = a.world.clock := by
  cases booked.scheduling with
  | kept same backoff clock => exact ⟨same.trans restarting, backoff, clock⟩
  | begun _ idle => cases idle.symm.trans restarting
  | untimed _ idle => cases idle.symm.trans restarting

theorem Booked.trans (first : Booked a b) (second : Booked b c) : Booked a c := by
  refine ⟨second.config.trans first.config, second.settings.trans first.settings,
    second.monitor.trans first.monitor, second.restartCount.trans first.restartCount,
    Nat.le_trans first.launches second.launches, ?_⟩
  have language : b.owner.language = a.owner.language := congrArg (·.language) first.config
  cases first.scheduling with
  | kept same backoff clock =>
      cases second.scheduling with
      | kept again backoff' clock' =>
          exact .kept (again.trans same) (backoff'.trans backoff) (clock'.trans clock)
      | begun delay idle busy timed backoff' clock' =>
          rw [first.settings] at timed
          rw [clock] at backoff'
          rw [clock, language] at clock'
          exact .begun delay (same.symm.trans idle) busy timed backoff' clock'
      | untimed failure idle busy timeless backoff' clock' =>
          rw [first.settings] at timeless
          exact .untimed failure (same.symm.trans idle) busy timeless (backoff'.trans backoff)
            (clock'.trans clock)
  | begun delay idle busy timed backoff clock =>
      obtain ⟨still, backoff', clock'⟩ := second.kept busy
      exact .begun delay idle still timed (backoff'.trans backoff) (clock'.trans clock)
  | untimed failure idle busy timeless backoff clock =>
      obtain ⟨still, backoff', clock'⟩ := second.kept busy
      exact .untimed failure idle still timeless (backoff'.trans backoff) (clock'.trans clock)

def booked : Frame (Session σ Client) :=
  ⟨Booked, .refl, .trans⟩

theorem booked_touchedNow (s : Session σ Client) : Booked s (touchedNow s) := by
  unfold touchedNow touched
  split <;> exact .of_ledger rfl

theorem within_touch_booked : Within booked (touch : Action σ Client Unit) := by
  intro s after outcome ended
  obtain ⟨_, rfl⟩ := ends_touch.mp ended
  exact booked_touchedNow s

theorem within_emit_booked [Peer σ] (message : Json) :
    Within booked (Session.emit message : Action σ Client Unit) :=
  Session.within_emit (fun _ => .of_ledger rfl) fun _ _ => .of_ledger rfl

theorem roomy_booked : Roomy (booked : Frame (Session σ Client)) :=
  fun _ _ _ => .of_ledger rfl

/-! ### Restarts that begin -/

/-- A restart that begins is booked if leaving the session is: it keeps the flag that was set
before. -/
theorem RestartBegun.booked {leave : Action σ Client Unit} {outcome : Outcome Bool}
    (begun : RestartBegun leave s outcome after)
    (leaves : ∀ {reached mid}, Ends leave (givenUp s) reached mid → Booked (givenUp s) mid)
    (timed : ∀ failure, outcome = .error failure →
      Settings.duration s.owner.settings.restartBackoff = .error failure) : Booked s after := by
  have gone {mid : Session σ Client} (left : Left leave s mid) : Booked (givenUp s) mid := by
    cases left with
    | left _ gone => exact leaves gone
    | nothing _ => exact .refl _
  cases begun with
  | declined _ => exact .refl s
  | unfinished free _ failed =>
      obtain ⟨config, settings, monitor, count, launches, _⟩ := leaves failed
      obtain ⟨busy, backoff, clock⟩ := (leaves failed).kept rfl
      exact ⟨config, settings, monitor, count, launches,
        .untimed _ free.2 busy (timed _ rfl) backoff clock⟩
  | untimed free left timeless =>
      obtain ⟨config, settings, monitor, count, launches, _⟩ := gone left
      obtain ⟨busy, backoff, clock⟩ := (gone left).kept rfl
      exact ⟨config, settings, monitor, count, launches,
        .untimed _ free.2 busy timeless backoff clock⟩
  | @begun delay mid free left known =>
      obtain ⟨config, settings, monitor, count, launches, _⟩ := gone left
      obtain ⟨busy, _, clock⟩ := (gone left).kept rfl
      have same : mid.world.clock = s.world.clock := clock
      refine ⟨config, settings, monitor, count, launches, .begun delay free.2 busy known ?_ ?_⟩
      · exact congrArg (fun clock => some clock.nextId) same
      · exact congrArg (fun clock : Clock Task => (clock.later delay _).2) same

/-- Closing the connection does not fail, so only the pause can make a restart fail that a listener
begins. -/
theorem RestartBegun.booked_closeWithin {outcome : Outcome Bool}
    (begun : RestartBegun Session.closeWithin s outcome after) : Booked s after := by
  refine begun.booked (fun closing => ?_) fun failure failed => ?_
  · obtain ⟨_, rfl⟩ := Session.ends_modifyConnection.mp closing
    exact .of_ledger rfl
  · subst failed
    cases begun with
    | unfinished _ _ closing => cases (Session.ends_modifyConnection.mp closing).1
    | untimed _ _ timeless => exact timeless

theorem within_hear_booked (listener : Listener) :
    Within booked (hear listener : Action σ Client Unit) := by
  intro s after outcome ended
  cases ends_hear ended with
  | observed => exact .of_ledger rfl
  | unwatched _ => exact .refl _
  | watched _ begun _ => exact begun.booked_closeWithin

theorem within_ended_booked (closure : Closure) :
    Within booked (Client.ended closure : Action σ Client Unit) := by
  intro s after outcome ended
  cases ends_ended ended with
  | unheeded _ => exact .of_ledger rfl
  | restarting _ _ => exact .of_ledger rfl
  | noticed _ _ told =>
      have alarm : Booked s (alarmed closure s) := .of_ledger rfl
      exact alarm.trans (within_doEach (fun listener _ => within_hear_booked listener) told)

/-! ### Exchanges -/

variable [Halves] [Peer σ]

theorem running_booked : Running (booked : Frame (Session σ Client)) where
  reply _ _ := within_emit_booked _
  touch := within_touch_booked
  publish _ _ := within_modify fun _ => .of_ledger rfl
  receive _ _ := .of_ledger rfl
  edit {s _ _ _ connection _ _} _ applied := by
    have received : Booked s { s with connection } := .of_ledger rfl
    exact received.trans (roomy_booked.within_applyServerEdit within_touch_booked
      within_emit_booked _ applied)
  lose {s _ _ connection _} _ lost := by
    have received : Booked s { s with connection } := .of_ledger rfl
    exact received.trans (within_ended_booked _ lost)
  emit _ := within_emit_booked _
  file _ := .of_ledger rfl
  roomy := roomy_booked
  drop _ := within_modify fun _ => .of_ledger rfl

omit [Halves] [Peer σ] in
theorem within_connection_booked (f : Connection → Connection) :
    Within booked (Session.modifyConnection f : Action σ Client Unit) :=
  within_modify fun _ => .of_ledger rfl

theorem sittings_booked : Sittings (booked : Frame (Session σ Client)) fun _ => True where
  toDealings := running_booked.toDealings
  close := within_bind (within_connection_booked _) fun _ =>
    within_bind running_booked.within_drain fun _ => within_connection_booked _
  move _ := within_modify fun _ => .of_ledger rfl
  begin _ := within_modify fun _ => .of_ledger rfl

theorem within_leave_booked : Within booked (leave : Action σ Client Unit) :=
  sittings_booked.within_leave ⟨fitRequest _, fitNotice _⟩ sittings_booked.close

theorem within_start_booked : Within booked (start : Action σ Client Json) := by
  refine sittings_booked.within_start ⟨fitRequest _, fitNotice _⟩ fun before s after outcome ended => ?_
  rcases ends_launch ended with ⟨_, _, _, _, rfl⟩ | ⟨_, _, _, _, rfl⟩
  · exact .of_ledger rfl
  · exact ⟨rfl, rfl, rfl, rfl, Nat.le_succ _, .kept rfl rfl rfl⟩

end Scalpel.Client
