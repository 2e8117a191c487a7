import Scalpel.Proofs.Recording
import Scalpel.Proofs.Retirement

/-!
How long a client is watched. Its monitor has one call on the clock from the time it is started until
it is stopped. Whatever else is done to the client, whatever its server does and however often it is
restarted, its monitor stays as it is, and no health check is scheduled or cancelled.
-/

set_option autoImplicit false

namespace Scalpel

/-! ### Health checks on a clock -/

namespace Clock

variable {clock later : Clock Task}

def checks (clock : Clock Task) : List (ScheduledCall Task) :=
  clock.callsFor fun task => task.job = .healthCheck

def watches (clock : Clock Task) : List (String × Option Nat) :=
  clock.checks.map fun call => (call.task.language, some call.id)

theorem exists_of_watches {call : ScheduledCall Task} (same : later.watches = clock.watches)
    (due : call ∈ later.checks) : ∃ old ∈ clock.checks, old.id = call.id := by
  have known : (call.task.language, some call.id) ∈ clock.watches := by
    rw [← same]
    exact List.mem_map.mpr ⟨call, due, rfl⟩
  obtain ⟨old, there, alike⟩ := List.mem_map.mp known
  exact ⟨old, there, Option.some.inj (congrArg Prod.snd alike)⟩

theorem mem_of_mem_checks {call : ScheduledCall Task} (member : call ∈ clock.checks) :
    call ∈ clock.calls :=
  (List.mem_filter.mp member).1

theorem checks_later (delay : Float) (language : String) :
    (clock.later delay { language, job := .restart }).2.checks = clock.checks := by
  unfold checks later
  rw [callsFor_schedule, if_neg (by simp), List.append_nil]

/-- Where all health checks are made again and again, the ones that are scheduled stay the same when a
call is made, whatever it is for. -/
theorem Tidy.checks_next {target : Float} {task : Task} (tidy : clock.Tidy)
    (periodic : ∀ call ∈ clock.checks, call.interval.isSome = true)
    (next : clock.next? target = some (task, later)) :
    later.watches = clock.watches ∧ ∀ call ∈ later.checks, call.interval.isSome = true := by
  obtain ⟨before, made, rest, parted, rfl, left, _⟩ := tidy.next?_eq_some next
  by_cases check : made.task.job = .healthCheck
  · have due : made ∈ clock.checks := by
      apply List.mem_filter.mpr
      constructor
      · rw [parted]
        exact List.mem_append_right before List.mem_cons_self
      · exact decide_eq_true check
    obtain ⟨interval, timed⟩ := Option.isSome_iff_exists.mp (periodic made due)
    have again : again made = [{ made with due := made.due + interval }] := by
      unfold Clock.again
      rw [timed]
    have others : ∀ call ∈ before ++ rest, call.task.job = .healthCheck →
        call.interval.isSome = true := by
      intro call member check
      apply periodic call
      apply List.mem_filter.mpr
      constructor
      · rw [parted]
        rcases List.mem_append.mp member with early | late
        · exact List.mem_append_left _ early
        · exact List.mem_append_right _ (List.mem_cons_of_mem _ late)
      · exact decide_eq_true check
    unfold watches checks callsFor
    rw [left, parted, again]
    constructor
    · simp [check]
    · intro call member
      obtain ⟨kept, checked⟩ := List.mem_filter.mp member
      simp only [List.append_assoc, List.singleton_append, List.mem_append, List.mem_cons] at kept
      rcases kept with early | rfl | late
      · exact others call (List.mem_append_left _ early) (of_decide_eq_true checked)
      · exact periodic made due
      · exact others call (List.mem_append_right _ late) (of_decide_eq_true checked)
  · have same : later.checks = clock.checks :=
      tidy.callsFor_next_of_ne next (by simpa using check)
    unfold watches
    rw [same]
    exact ⟨rfl, periodic⟩

end Clock

namespace Client

variable {σ : Type} {s mid after : Session σ Client}

/-- Calls have numbers of their own, and what a client has noted as the second half of a restart is no
health check. -/
structure Unmixed (clock : Clock Task) (backoff : Option Nat) : Prop where
  tidy : clock.Tidy
  apart : ∀ id, backoff = some id → id < clock.nextId ∧ ∀ call ∈ clock.checks, call.id ≠ id

theorem Unmixed.of_none {clock : Clock Task} {backoff : Option Nat} (tidy : clock.Tidy)
    (none : backoff = none) : Unmixed clock backoff :=
  ⟨tidy, fun _ some => nomatch none.symm.trans some⟩

theorem Unmixed.onward {clock later : Clock Task} {backoff : Option Nat}
    (unmixed : Unmixed clock backoff) (tidy : later.Tidy) (numbers : clock.nextId ≤ later.nextId)
    (checks : ∀ call ∈ later.checks,
      (∃ old ∈ clock.checks, old.id = call.id) ∨ clock.nextId ≤ call.id) : Unmixed later backoff := by
  refine ⟨tidy, fun id noted => ?_⟩
  obtain ⟨given, other⟩ := unmixed.apart id noted
  refine ⟨Nat.lt_of_lt_of_le given numbers, fun call member same => ?_⟩
  rcases checks call member with ⟨old, there, known⟩ | fresh
  · exact other old there (known.trans same)
  · omega

/-! ### Steady clients -/

/-- A client stays the one that it is, with its monitor as it was, and no health check is scheduled or
cancelled. -/
structure Steady (a b : Session σ Client) : Prop where
  config : b.owner.config = a.owner.config
  monitor : b.owner.monitor.call = a.owner.monitor.call
  launches : a.owner.launches ≤ b.owner.launches
  clock : Unmixed a.world.clock a.owner.backoff → Unmixed b.world.clock b.owner.backoff ∧
    b.world.clock.checks = a.world.clock.checks ∧ a.world.clock.nextId ≤ b.world.clock.nextId

namespace Steady

theorem of_clock (config : after.owner.config = s.owner.config)
    (monitor : after.owner.monitor.call = s.owner.monitor.call)
    (launches : s.owner.launches ≤ after.owner.launches)
    (clock : after.world.clock = s.world.clock)
    (backoff : after.owner.backoff = s.owner.backoff ∨ after.owner.backoff = none) :
    Steady s after := by
  refine ⟨config, monitor, launches, fun unmixed => ?_⟩
  rw [clock]
  refine ⟨⟨unmixed.tidy, fun id noted => ?_⟩, rfl, Nat.le_refl _⟩
  rcases backoff with same | none
  · exact unmixed.apart id (same.symm.trans noted)
  · cases none.symm.trans noted

theorem refl (s : Session σ Client) : Steady s s :=
  .of_clock rfl rfl (Nat.le_refl _) rfl (.inl rfl)

theorem trans {a b c : Session σ Client} (first : Steady a b) (second : Steady b c) :
    Steady a c := by
  refine ⟨second.config.trans first.config, second.monitor.trans first.monitor,
    Nat.le_trans first.launches second.launches, fun unmixed => ?_⟩
  obtain ⟨unmixed, checks, numbers⟩ := first.clock unmixed
  obtain ⟨unmixed, checks', numbers'⟩ := second.clock unmixed
  exact ⟨unmixed, checks'.trans checks, Nat.le_trans numbers numbers'⟩

theorem of_later {language : String} {delay : Float}
    (config : after.owner.config = s.owner.config)
    (monitor : after.owner.monitor.call = s.owner.monitor.call)
    (launches : s.owner.launches ≤ after.owner.launches)
    (clock : after.world.clock = (s.world.clock.later delay { language, job := .restart }).2)
    (backoff : after.owner.backoff = some s.world.clock.nextId) : Steady s after := by
  refine ⟨config, monitor, launches, fun unmixed => ?_⟩
  rw [clock, Clock.checks_later]
  refine ⟨⟨unmixed.tidy.schedule _ _ _, fun id noted => ?_⟩, rfl, Nat.le_succ _⟩
  have fresh : s.world.clock.nextId = id := Option.some.inj (backoff.symm.trans noted)
  rw [← fresh, Clock.checks_later]
  refine ⟨Nat.lt_succ_self _, fun call member => Nat.ne_of_lt ?_⟩
  exact unmixed.tidy.numbered call (Clock.mem_of_mem_checks member)

end Steady

def steady : Frame (Session σ Client) :=
  ⟨Steady, .refl, .trans⟩

theorem Booked.steady (booked : Booked s after) : Steady s after := by
  have monitor : after.owner.monitor.call = s.owner.monitor.call := congrArg (·.call) booked.monitor
  cases booked.scheduling with
  | kept _ backoff clock => exact .of_clock booked.config monitor booked.launches clock (.inl backoff)
  | begun _ _ _ _ backoff clock => exact .of_later booked.config monitor booked.launches clock backoff
  | untimed _ _ _ _ backoff clock =>
      exact .of_clock booked.config monitor booked.launches clock (.inl backoff)

/-- A restart that is asked for leaves the monitor alone, however leaving the session ends. -/
theorem RestartBegun.steady {leave : Action σ Client Unit} {outcome : Outcome Bool}
    (begun : RestartBegun leave s outcome after) (leaves : Within steady leave) :
    Steady s after := by
  have given : Steady s (givenUp s) := .of_clock rfl rfl (Nat.le_refl _) rfl (.inl rfl)
  have gone {mid : Session σ Client} (left : Left leave s mid) : Steady s mid := by
    cases left with
    | left _ gone => exact given.trans (leaves gone)
    | nothing _ => exact given
  cases begun with
  | declined _ => exact .refl s
  | unfinished _ _ failed => exact given.trans (leaves failed)
  | untimed _ left _ => exact gone left
  | begun _ left _ =>
      exact (gone left).trans (.of_later rfl rfl (Nat.le_refl _) rfl rfl)

section

variable [Halves] [Peer σ]

theorem within_leave_steady : Within steady (leave : Action σ Client Unit) :=
  within_leave_booked.mono Booked.steady

theorem within_requestRestart_steady : Within steady (requestRestart : Action σ Client Bool) :=
  fun _ _ _ ended => (ends_beginRestart ended).steady within_leave_steady

omit [Halves] [Peer σ] in
theorem steady_markedDegraded (s : Session σ Client) :
    Steady s { s with owner := s.owner.markedDegraded } := by
  apply Booked.steady
  apply Booked.of_ledger
  unfold markedDegraded
  split <;> rfl

theorem within_checkHealth_steady : Within steady (checkHealth : Action σ Client Unit) := by
  intro s after outcome ended
  cases ends_checkHealth ended with
  | idle _ => exact .refl s
  | restarted _ _ _ _ requested _ => exact within_requestRestart_steady requested
  | marked _ _ => exact steady_markedDegraded s

theorem within_completeRestart_steady : Within steady (completeRestart : Action σ Client Unit) := by
  intro s after outcome ended
  have begins : Steady s (unbooked s) := .of_clock rfl rfl (Nat.le_refl _) rfl (.inr rfl)
  have came {reached : Outcome Unit} {mid : Session σ Client}
      (coming : Ends comeBack (unbooked s) reached mid) : Steady s mid :=
    begins.trans (Booked.steady (within_comeBack_booked coming))
  cases ends_completeRestart ended with
  | overtaken _ => exact .of_clock rfl rfl (Nat.le_refl _) rfl (.inr rfl)
  | revived _ coming =>
      exact (came coming).trans (.of_clock rfl rfl (Nat.le_refl _) rfl (.inl rfl))
  | @relapsed _ mid _ coming =>
      refine (came coming).trans ?_
      unfold relapsed
      split <;> exact .of_clock rfl rfl (Nat.le_refl _) rfl (.inl rfl)
  | broken _ _ coming => exact came coming

theorem within_perform_steady (job : Job) : Within steady (perform job : Action σ Client Unit) := by
  cases job with
  | restart => exact within_completeRestart_steady
  | healthCheck => exact within_checkHealth_steady

omit [Halves] [Peer σ] in
/-- A client that ends for good cancels what it has noted as the second half of a restart, and nothing
else. -/
theorem steady_dismissed (s : Session σ Client) : Steady s (dismissed s) := by
  cases noted : s.owner.backoff with
  | none =>
      refine .of_clock rfl rfl (Nat.le_refl _) ?_ (.inr rfl)
      unfold dismissed
      rw [noted]
  | some id =>
      have clock : (dismissed s).world.clock = s.world.clock.cancel id := by
        unfold dismissed
        rw [noted]
      refine ⟨rfl, rfl, Nat.le_refl _, fun unmixed => ?_⟩
      rw [clock]
      refine ⟨.of_none (unmixed.tidy.cancel id) rfl, ?_, Nat.le_refl _⟩
      refine Clock.callsFor_cancel.trans (List.filter_eq_self.mpr fun call member => ?_)
      exact decide_eq_true ((unmixed.apart id noted).2 call member)

theorem within_shutDown_steady : Within steady (shutDown : Action σ Client Unit) := by
  intro s after outcome ended
  rcases ends_shutDown ended with ⟨_, _, rfl⟩ | ⟨_, settling⟩
  · exact .refl _
  · have cleared : Within Client.steady
        (update fun c => { c with documents := {}, diagnostics := [] } : Action σ Client Unit) :=
      within_modify fun _ => .of_clock rfl rfl (Nat.le_refl _) rfl (.inl rfl)
    have settled : Within Client.steady (settleUp s.owner.attached : Action σ Client Unit) :=
      within_ite (within_bind within_leave_steady fun _ => cleared) cleared
    exact (steady_dismissed s).trans (settled settling)

def Stimulus.SparesMonitor : Stimulus → Prop
  | .startMonitor | .stopMonitor => False
  | _ => True

theorem within_respond_steady {stimulus : Stimulus} (spares : stimulus.SparesMonitor) :
    Within steady (respond stimulus : Action σ Client Unit) := by
  have alone {α : Type} {action : Action σ Client α} (inside : Within steady action) :
      Within steady (do let _ ← action) :=
    within_bind inside fun _ => within_pure ()
  have booked {α : Type} {action : Action σ Client α} (inside : Within booked action) :
      Within steady action :=
    inside.mono Booked.steady
  cases stimulus with
  | errand errand => exact booked (running_booked.within_errand errand)
  | start => exact alone (booked within_start_booked)
  | shutDown => exact within_shutDown_steady
  | requestRestart => exact alone within_requestRestart_steady
  | checkHealth => exact within_checkHealth_steady
  | markDegraded => exact within_modify steady_markedDegraded
  | startMonitor => exact spares.elim
  | stopMonitor => exact spares.elim
  | listen => exact within_modify fun _ => .of_clock rfl rfl (Nat.le_refl _) rfl (.inl rfl)
  | arrive arrivals =>
      exact booked (within_bind (within_connection_booked _) fun _ => running_booked.within_drain)
  | serverEnds closure =>
      exact booked (within_bind (within_connection_booked _) fun _ => running_booked.within_drain)
  | formerEnds closure => exact booked (within_ended_booked closure)

/-! ### Beginning and end -/

def firstCheck (interval : Float) (s : Session σ Client) : ScheduledCall Task :=
  { id := s.world.clock.nextId, due := s.world.clock.now + interval, interval := some interval
    task := { language := s.owner.language, job := .healthCheck } }

/-- A client that is made has been brought to life, and the one health check that was scheduled is the
call of its monitor. -/
structure SetOut (s after : Session σ Client) : Prop where
  config : after.owner.config = s.owner.config
  ready : after.owner.state = .ready
  launched : 0 < after.owner.launches
  unmixed : Unmixed after.world.clock after.owner.backoff
  numbers : s.world.clock.nextId ≤ after.world.clock.nextId
  watched : ∃ call, after.world.clock.checks = s.world.clock.checks ++ [call] ∧
    call.task.language = s.owner.language ∧ call.interval.isSome = true ∧
    after.owner.monitor.call = some call.id ∧ s.world.clock.nextId ≤ call.id

theorem ends_setOut {config : ServerConfig} {root : String} {settings : Settings} {now : Float}
    (made : s.owner = make config root settings now) (tidy : s.world.clock.Tidy)
    (ended : Ends setOut s (.ok ()) after) : SetOut s after := by
  obtain ⟨_, mid, started, watching⟩ := ends_bind_ok.mp ended
  have fresh : s.owner.state = .uninitialized := by
    rw [made]
    rfl
  have unwatched : s.owner.monitor.call = none := by
    rw [made]
    rfl
  have unmixed : Unmixed s.world.clock s.owner.backoff := by
    apply Unmixed.of_none tidy
    rw [made]
    rfl
  obtain ⟨config, monitor, _, clock⟩ := Booked.steady (within_start_booked started)
  obtain ⟨unmixed, checks, numbers⟩ := clock unmixed
  have begun : mid.owner.state = .ready ∧ 0 < mid.owner.launches := by
    obtain ⟨_, ⟨_, _, _, _, failed⟩ | ⟨_, _, failed⟩ | ⟨ready, launched, _⟩⟩ :=
      (ends_start_began (.inl fresh) started).state
    · cases failed
    · cases failed
    · exact ⟨ready, launched⟩
  cases ends_startMonitor watching with
  | running running =>
      rw [monitor, unwatched] at running
      cases running
  | @started interval listeners watcher called =>
      have language : mid.owner.language = s.owner.language := congrArg (·.language) config
      have more : (watched interval listeners watcher mid).world.clock.checks =
          mid.world.clock.checks ++ [firstCheck interval mid] :=
        Clock.callsFor_schedule
      refine ⟨config, begun.1, begun.2, ?_, Nat.le_succ_of_le numbers, ?_⟩
      · apply unmixed.onward (unmixed.tidy.schedule _ _ _) (Nat.le_succ _)
        intro call member
        have listed : call ∈ mid.world.clock.checks ++ [firstCheck interval mid] := more ▸ member
        rcases List.mem_append.mp listed with old | new
        · exact .inl ⟨call, old, rfl⟩
        · rw [List.mem_singleton.mp new]
          exact .inr (Nat.le_refl _)
      · rw [more, checks]
        exact ⟨_, rfl, language, rfl, called, numbers⟩

theorem steady_of_unset {failure : Failure} (ended : Ends setOut s (.error failure) after) :
    Steady s after := by
  rcases ends_bind.mp ended with ⟨_, mid, started, watching⟩ | ⟨_, _, failed⟩
  · refine (Booked.steady (within_start_booked started)).trans ?_
    cases ends_startMonitor watching with
    | untimed same => exact .of_clock rfl same (Nat.le_refl _) rfl (.inl rfl)
  · exact Booked.steady (within_start_booked failed)

def finish : Action σ Client Unit := do
  stopMonitor
  shutDown

/-- What has become of a client that was finished: it is shut down and not watched, and of all health
checks only its own is gone. -/
structure Finished (s after : Session σ Client) : Prop where
  config : after.owner.config = s.owner.config
  state : after.owner.state = .shutDown
  monitor : after.owner.monitor.call = none
  launches : s.owner.launches ≤ after.owner.launches
  clock : Unmixed s.world.clock s.owner.backoff → Unmixed after.world.clock after.owner.backoff ∧
    s.world.clock.nextId ≤ after.world.clock.nextId ∧
    after.world.clock.checks =
      s.world.clock.checks.filter fun call => some call.id ≠ s.owner.monitor.call

theorem state_of_shutDown {outcome : Outcome Unit} (ended : Ends shutDown s outcome after) :
    after.owner.state = .shutDown := by
  by_cases shut : s.owner.state = .shutDown
  · rcases ends_shutDown ended with ⟨_, _, rfl⟩ | ⟨alive, _⟩
    · exact shut
    · exact absurd shut alive
  · exact (ends_shutDown_alive shut ended).state

theorem ends_finish {outcome : Outcome Unit} (ended : Ends finish s outcome after) :
    Finished s after := by
  rcases ends_bind.mp ended with ⟨_, mid, stopped, shutting⟩ | ⟨_, rfl, stopped⟩
  · obtain ⟨config, monitor, launches, clock⟩ := within_shutDown_steady shutting
    have state := state_of_shutDown shutting
    rcases (ends_stopMonitor stopped).2 with ⟨unwatched, rfl⟩ | ⟨id, watched, rfl⟩
    · refine ⟨config, state, monitor.trans unwatched, launches, fun unmixed => ?_⟩
      obtain ⟨unmixed, checks, numbers⟩ := clock unmixed
      refine ⟨unmixed, numbers, checks.trans ?_⟩
      rw [unwatched]
      exact (List.filter_eq_self.mpr fun _ _ => rfl).symm
    · refine ⟨config, state, monitor, launches, fun unmixed => ?_⟩
      have cancelled : (unwatched id s).world.clock.checks =
          s.world.clock.checks.filter fun call => call.id ≠ id := Clock.callsFor_cancel
      have first : Unmixed (unwatched id s).world.clock (unwatched id s).owner.backoff := by
        apply unmixed.onward (unmixed.tidy.cancel id) (Nat.le_refl _)
        intro call member
        have left : call ∈ s.world.clock.checks.filter fun call => call.id ≠ id := cancelled ▸ member
        exact .inl ⟨call, (List.mem_filter.mp left).1, rfl⟩
      obtain ⟨unmixed, checks, numbers⟩ := clock first
      refine ⟨unmixed, numbers, checks.trans (cancelled.trans ?_)⟩
      rw [watched]
      simp only [ne_eq, Option.some.injEq]
  · cases (ends_stopMonitor stopped).1

end

end Client

end Scalpel
