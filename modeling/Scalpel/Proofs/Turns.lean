import Scalpel.Proofs.Supervision

/-!
What each event does to the restarts of a client. At most one second half of a restart is scheduled,
to be made once, and the client knows its number and is in a restart. An event keeps that as it is, or
a restart is begun, dismissed or made, or it gets stuck between its two halves.
-/

set_option autoImplicit false

namespace Scalpel.Client

variable {σ : Type} {s mid after : Session σ Client}

/-! ### Scheduled restarts -/

theorem restarts_of_clock (config : after.owner.config = s.owner.config)
    (clock : after.world.clock = s.world.clock) : restarts after = restarts s := by
  have language : after.owner.language = s.owner.language := congrArg (·.language) config
  unfold restarts
  rw [clock, language]

def secondHalf (delay : Float) (s : Session σ Client) : ScheduledCall Task :=
  { id := s.world.clock.nextId, due := s.world.clock.now + delay, interval := none
    task := { language := s.owner.language, job := .restart } }

theorem restarts_of_later {delay : Float} (config : after.owner.config = s.owner.config)
    (clock : after.world.clock =
      (s.world.clock.later delay { language := s.owner.language, job := .restart }).2) :
    restarts after = restarts s ++ [secondHalf delay s] := by
  have language : after.owner.language = s.owner.language := congrArg (·.language) config
  unfold restarts
  rw [clock, language]
  exact Clock.callsFor_schedule.trans (by rw [if_pos (decide_eq_true rfl)]; rfl)

theorem restarts_of_every {interval : Float} (config : after.owner.config = s.owner.config)
    (clock : after.world.clock =
      (s.world.clock.every interval { language := s.owner.language, job := .healthCheck }).2) :
    restarts after = restarts s := by
  have language : after.owner.language = s.owner.language := congrArg (·.language) config
  unfold restarts
  rw [clock, language]
  refine Clock.callsFor_schedule.trans ?_
  rw [if_neg (by simp), List.append_nil]

theorem restarts_of_cancel {id : Nat} (config : after.owner.config = s.owner.config)
    (clock : after.world.clock = s.world.clock.cancel id) :
    restarts after = (restarts s).filter fun call => call.id ≠ id := by
  have language : after.owner.language = s.owner.language := congrArg (·.language) config
  unfold restarts
  rw [clock, language]
  exact Clock.callsFor_cancel

theorem restarts_elsewhere {world : World σ} (spares : s.world.Spares s.owner.language world) :
    restarts { s with world } = restarts s := by
  have within (clock : Clock Task) : (clock.callsFor fun task =>
        task = { language := s.owner.language, job := .restart }) =
      (clock.callsFor fun task => task.language = s.owner.language).filter fun call =>
        call.task = { language := s.owner.language, job := .restart } := by
    unfold Clock.callsFor
    rw [List.filter_filter]
    refine List.filter_congr fun call _ => ?_
    by_cases mine : call.task = { language := s.owner.language, job := .restart }
    · simp [mine]
    · simp [mine]
  unfold restarts
  rw [within, spares.calls, ← within]

/-! ### Order -/

/-- At most one second half of a restart is scheduled. It is made once, the client knows its number and
is in a restart; and it is not the call of the monitor. -/
structure Orderly (s : Session σ Client) : Prop where
  tidy : s.world.clock.Tidy
  single : restarts s = [] ∨ ∃ call, restarts s = [call] ∧ call.interval = none ∧
    s.owner.backoff = some call.id ∧ s.owner.restarting = true
  apart : ∀ id, s.owner.monitor.call = some id →
    id < s.world.clock.nextId ∧ ∀ call ∈ restarts s, call.id ≠ id

theorem Orderly.restarts_eq_nil (orderly : Orderly s) (idle : s.owner.restarting = false) :
    restarts s = [] := by
  rcases orderly.single with none | ⟨_, _, _, _, busy⟩
  · exact none
  · cases idle.symm.trans busy

theorem Orderly.restarts_ne_nil {target : Float} {clock : Clock Task} (orderly : Orderly s)
    (next : s.world.clock.next? target =
      some ({ language := s.owner.language, job := .restart }, clock)) : restarts s ≠ [] := by
  obtain ⟨before, due, rest, parted, task, _⟩ := orderly.tidy.next?_eq_some next
  refine List.ne_nil_of_mem (a := due) (List.mem_filter.mpr ⟨?_, decide_eq_true task⟩)
  rw [parted]
  exact List.mem_append_right _ List.mem_cons_self

/-- Where the clock stays as it is, order stays as long as a scheduled restart stays known. -/
theorem Orderly.of_clock (orderly : Orderly s) (config : after.owner.config = s.owner.config)
    (monitor : after.owner.monitor.call = s.owner.monitor.call)
    (clock : after.world.clock = s.world.clock)
    (known : restarts s ≠ [] →
      after.owner.backoff = s.owner.backoff ∧ after.owner.restarting = s.owner.restarting) :
    Orderly after := by
  have same := restarts_of_clock config clock
  refine ⟨clock ▸ orderly.tidy, ?_, ?_⟩
  · rw [same]
    rcases orderly.single with none | ⟨call, only, once, backoff, busy⟩
    · exact .inl none
    · obtain ⟨backoff', busy'⟩ := known (by rw [only]; exact List.cons_ne_nil _ _)
      exact .inr ⟨call, only, once, backoff'.trans backoff, busy'.trans busy⟩
  · rw [same, clock, monitor]
    exact orderly.apart

theorem Orderly.of_later {delay : Float} (orderly : Orderly s) (none : restarts s = [])
    (config : after.owner.config = s.owner.config)
    (monitor : after.owner.monitor.call = s.owner.monitor.call)
    (clock : after.world.clock =
      (s.world.clock.later delay { language := s.owner.language, job := .restart }).2)
    (backoff : after.owner.backoff = some s.world.clock.nextId)
    (busy : after.owner.restarting = true) :
    Orderly after ∧ restarts after = [secondHalf delay s] := by
  have only : restarts after = [secondHalf delay s] := by
    rw [restarts_of_later config clock, none, List.nil_append]
  refine ⟨⟨clock ▸ orderly.tidy.schedule _ _ _, .inr ⟨_, only, rfl, backoff, busy⟩, ?_⟩, only⟩
  intro id called
  rw [monitor] at called
  have given : id < s.world.clock.nextId := (orderly.apart id called).1
  rw [only, clock]
  refine ⟨Nat.lt_succ_of_lt given, fun call member same => ?_⟩
  rw [List.mem_singleton.mp member] at same
  have fresh : s.world.clock.nextId = id := same
  exact absurd given (by rw [fresh]; exact Nat.lt_irrefl _)

theorem Orderly.of_none (orderly : Orderly s) (tidy : after.world.clock.Tidy)
    (none : restarts after = [])
    (monitor : after.owner.monitor.call = s.owner.monitor.call)
    (numbers : after.world.clock.nextId = s.world.clock.nextId) : Orderly after := by
  refine ⟨tidy, .inl none, fun id called => ?_⟩
  rw [monitor] at called
  rw [none, numbers]
  exact ⟨(orderly.apart id called).1, fun _ member => absurd member List.not_mem_nil⟩

/-! ### Turns -/

def Event.AsksForRestart : Event → Prop
  | .stimulus .requestRestart | .stimulus .checkHealth | .due .healthCheck => True
  | _ => False

/-- An event strands a restart between its halves: the client is shut down while the second half is
scheduled, or one of the halves fails with something that is no reported problem. -/
inductive Strands : Event → Outcome Unit → Session σ Client → Prop
  | dismissed {outcome : Outcome Unit} {s : Session σ Client} : s.owner.state ≠ .shutDown →
    restarts s ≠ [] → Strands (.stimulus .shutDown) outcome s
  | broken {s : Session σ Client} {failure : Failure} : Strands (.due .restart) (.error failure) s
  | unfinished {event : Event} {s : Session σ Client} {failure : Failure} :
    event.AsksForRestart → Strands event (.error failure) s

inductive Turn : Event → Outcome Unit → Session σ Client → Session σ Client → Prop
  | kept {event : Event} {outcome : Outcome Unit} {s after : Session σ Client} :
    ¬Strands event outcome s → restarts after = restarts s →
    after.owner.restarting = s.owner.restarting →
    after.owner.restartCount = s.owner.restartCount → Turn event outcome s after
  | begun {event : Event} {outcome : Outcome Unit} {s after : Session σ Client}
    {call : ScheduledCall Task} {delay : Float} : ¬Strands event outcome s →
    s.owner.restarting = false → restarts s = [] → restarts after = [call] →
    s.world.clock.nextId ≤ call.id → after.owner.restarting = true →
    after.owner.restartCount = s.owner.restartCount →
    Settings.duration s.owner.settings.restartBackoff = .ok delay → Turn event outcome s after
  | untimed {event : Event} {outcome : Outcome Unit} {s after : Session σ Client}
    {failure : Failure} : s.owner.restarting = false → restarts s = [] → restarts after = [] →
    after.owner.restarting = true → after.owner.restartCount = s.owner.restartCount →
    Settings.duration s.owner.settings.restartBackoff = .error failure →
    Turn event outcome s after
  | unfinished {event : Event} {s after : Session σ Client} {failure : Failure} :
    event.AsksForRestart → s.owner.restarting = false → restarts s = [] → restarts after = [] →
    after.owner.restarting = true → after.owner.restartCount = s.owner.restartCount →
    Turn event (.error failure) s after
  | dismissed {outcome : Outcome Unit} {s after : Session σ Client} {call : ScheduledCall Task} :
    s.owner.state ≠ .shutDown → restarts s = [call] → restarts after = [] →
    s.owner.restarting = true → after.owner.restarting = true →
    after.owner.restartCount = s.owner.restartCount →
    Turn (.stimulus .shutDown) outcome s after
  | made {s after : Session σ Client} {call : ScheduledCall Task} :
    restarts s = [call] → restarts after = [] → s.owner.restarting = true →
    after.owner.restarting = false →
    after.owner.restartCount ≤ s.owner.restartCount + 1 → Turn (.due .restart) (.ok ()) s after
  | broken {s after : Session σ Client} {call : ScheduledCall Task} {failure : Failure} :
    restarts s = [call] → restarts after = [] → s.owner.restarting = true →
    after.owner.restarting = true → after.owner.restartCount = s.owner.restartCount →
    Turn (.due .restart) (.error failure) s after

structure Turned (event : Event) (outcome : Outcome Unit) (s after : Session σ Client) : Prop where
  orderly : Orderly after
  turn : Turn event outcome s after

structure Alike (s mid : Session σ Client) : Prop where
  restarts : restarts mid = restarts s
  restarting : mid.owner.restarting = s.owner.restarting
  restartCount : mid.owner.restartCount = s.owner.restartCount
  settings : mid.owner.settings = s.owner.settings
  numbers : mid.world.clock.nextId = s.world.clock.nextId

theorem Alike.refl (s : Session σ Client) : Alike s s :=
  ⟨rfl, rfl, rfl, rfl, rfl⟩

section

variable {event : Event} {outcome : Outcome Unit}

theorem Booked.turned (booked : Booked mid after) (calm : ¬Strands event outcome s)
    (alike : Alike s mid) (orderly : Orderly mid) : Turned event outcome s after := by
  have monitor : after.owner.monitor.call = mid.owner.monitor.call :=
    congrArg (·.call) booked.monitor
  have count := booked.restartCount.trans alike.restartCount
  cases booked.scheduling with
  | kept same backoff clock =>
      have still := restarts_of_clock booked.config clock
      exact ⟨orderly.of_clock booked.config monitor clock fun _ => ⟨backoff, same⟩,
        .kept calm (still.trans alike.restarts) (same.trans alike.restarting) count⟩
  | begun delay idle busy timed backoff clock =>
      have none := orderly.restarts_eq_nil idle
      obtain ⟨later, only⟩ := orderly.of_later none booked.config monitor clock backoff busy
      rw [alike.settings] at timed
      exact ⟨later, .begun calm (alike.restarting.symm.trans idle)
        (alike.restarts.symm.trans none) only (Nat.le_of_eq alike.numbers.symm) busy count timed⟩
  | untimed failure idle busy timeless backoff clock =>
      have none := orderly.restarts_eq_nil idle
      have still := (restarts_of_clock booked.config clock).trans none
      rw [alike.settings] at timeless
      exact ⟨orderly.of_clock booked.config monitor clock fun some => absurd none some,
        .untimed (alike.restarting.symm.trans idle) (alike.restarts.symm.trans none) still busy
          count timeless⟩

variable [Halves] [Peer σ]

omit [Halves] [Peer σ] in
private theorem calm_of_ok {reached : Outcome Bool} {value : Bool} (asks : event.AsksForRestart)
    (fails : ∀ failure, reached = .error failure ↔ outcome = .error failure)
    (ok : reached = .ok value) : ¬Strands event outcome s := by
  intro strands
  cases strands with
  | dismissed => exact asks
  | broken => exact asks
  | unfinished => cases ok.symm.trans ((fails _).mpr rfl)

theorem turned_requestRestart {reached : Outcome Bool} (asks : event.AsksForRestart)
    (alike : Alike s mid) (orderly : Orderly mid) (ended : Ends requestRestart mid reached after)
    (fails : ∀ failure, reached = .error failure ↔ outcome = .error failure) :
    Turned event outcome s after := by
  have stuck {failure : Failure} {left : Session σ Client} (free : mid.owner.Restartable)
      (failed : outcome = .error failure) (booked : Booked (givenUp mid) left) :
      Turned event outcome s left := by
    obtain ⟨busy, _, clock⟩ := booked.kept rfl
    have none := orderly.restarts_eq_nil free.2
    have still := (restarts_of_clock (s := mid) booked.config clock).trans none
    rw [failed]
    exact ⟨orderly.of_clock booked.config (congrArg (·.call) booked.monitor) clock
      fun some => absurd none some,
      .unfinished asks (alike.restarting.symm.trans free.2) (alike.restarts.symm.trans none)
        still busy (booked.restartCount.trans alike.restartCount)⟩
  cases ends_beginRestart ended with
  | declined _ => exact (Booked.refl _).turned (calm_of_ok asks fails rfl) alike orderly
  | unfinished free _ failed =>
      exact stuck free ((fails _).mp rfl) (within_leave_booked failed)
  | untimed free left _ =>
      cases left with
      | left _ gone => exact stuck free ((fails _).mp rfl) (within_leave_booked gone)
      | nothing _ => exact stuck free ((fails _).mp rfl) (.refl _)
  | begun free left known =>
      have booked := (RestartBegun.begun free left known).booked
        (fun gone => within_leave_booked gone) fun failure same => nomatch same
      exact booked.turned (calm_of_ok asks fails rfl) alike orderly

theorem turned_checkHealth (asks : event.AsksForRestart) (alike : Alike s mid)
    (orderly : Orderly mid) (ended : Ends checkHealth mid outcome after) :
    Turned event outcome s after := by
  have calm (ok : outcome = .ok ()) : ¬Strands event outcome s := by
    have fails (failure : Failure) :
        (.ok true : Outcome Bool) = .error failure ↔ outcome = .error failure := by
      rw [ok]
      exact ⟨nofun, nofun⟩
    exact calm_of_ok asks fails rfl
  cases ends_checkHealth ended with
  | idle _ => exact (Booked.refl _).turned (calm rfl) alike orderly
  | restarted _ _ _ _ requested fails =>
      exact turned_requestRestart asks alike orderly requested fails
  | marked _ _ =>
      refine (Booked.of_ledger ?_).turned (calm rfl) alike orderly
      unfold markedDegraded
      split <;> rfl

end

/-! ### Monitors, ends and second halves -/

section

variable {outcome : Outcome Unit}

theorem turned_startMonitor (orderly : Orderly s) (ended : Ends startMonitor s outcome after) :
    Turned (.stimulus .startMonitor) outcome s after := by
  have calm : ¬Strands (.stimulus .startMonitor) outcome s := fun | .unfinished asks => asks
  cases ends_startMonitor ended with
  | running _ => exact (Booked.refl _).turned calm (.refl s) orderly
  | untimed same =>
      exact ⟨orderly.of_clock rfl same rfl fun _ => ⟨rfl, rfl⟩, .kept calm rfl rfl rfl⟩
  | @started interval listeners monitor called =>
      have still : restarts (watched interval listeners monitor s) = restarts s :=
        restarts_of_every rfl rfl
      refine ⟨⟨orderly.tidy.schedule _ _ _, ?_, fun id same => ?_⟩, .kept calm still rfl rfl⟩
      · rw [still]
        exact orderly.single
      · have fresh : s.world.clock.nextId = id := Option.some.inj (called.symm.trans same)
        rw [still, ← fresh]
        refine ⟨Nat.lt_succ_self _, fun call member => Nat.ne_of_lt ?_⟩
        exact orderly.tidy.numbered call (List.mem_filter.mp member).1

theorem turned_stopMonitor (orderly : Orderly s) (ended : Ends stopMonitor s outcome after) :
    Turned (.stimulus .stopMonitor) outcome s after := by
  have calm : ¬Strands (.stimulus .stopMonitor) outcome s := fun | .unfinished asks => asks
  rcases (ends_stopMonitor ended).2 with ⟨_, rfl⟩ | ⟨id, called, rfl⟩
  · exact (Booked.refl _).turned calm (.refl _) orderly
  have still : restarts (unwatched id s) = restarts s := by
    have left : restarts (unwatched id s) = (restarts s).filter fun call => call.id ≠ id :=
      restarts_of_cancel rfl rfl
    refine left.trans (List.filter_eq_self.mpr fun call member => ?_)
    exact decide_eq_true ((orderly.apart id called).2 call member)
  refine ⟨⟨orderly.tidy.cancel id, ?_, nofun⟩, .kept calm still rfl rfl⟩
  rw [still]
  exact orderly.single

variable [Halves] [Peer σ]

omit [Halves] [Peer σ] in
theorem orderly_dismissed (orderly : Orderly s) :
    Orderly (dismissed s) ∧ restarts (dismissed s) = [] := by
  have config : (dismissed s).owner.config = s.owner.config := rfl
  have none : restarts (dismissed s) = [] := by
    cases known : s.owner.backoff with
    | none =>
        have clock : (dismissed s).world.clock = s.world.clock := by
          unfold dismissed
          rw [known]
        rcases orderly.single with none | ⟨_, _, _, backoff, _⟩
        · exact (restarts_of_clock config clock).trans none
        · cases known.symm.trans backoff
    | some id =>
        have clock : (dismissed s).world.clock = s.world.clock.cancel id := by
          unfold dismissed
          rw [known]
        rw [restarts_of_cancel config clock]
        rcases orderly.single with none | ⟨call, only, _, backoff, _⟩
        · rw [none]
          rfl
        · cases known.symm.trans backoff
          rw [only]
          simp
  refine ⟨orderly.of_none ?_ none rfl ?_, none⟩
  · unfold dismissed
    cases s.owner.backoff with
    | none => exact orderly.tidy
    | some id => exact orderly.tidy.cancel id
  · unfold dismissed
    cases s.owner.backoff <;> rfl

theorem turned_shutDown (orderly : Orderly s) (ended : Ends shutDown s outcome after) :
    Turned (.stimulus .shutDown) outcome s after := by
  rcases ends_shutDown ended with ⟨shut, _, rfl⟩ | ⟨alive, settling⟩
  · refine (Booked.refl _).turned (fun strands => ?_) (.refl _) orderly
    cases strands with
    | dismissed alive => exact alive shut
    | unfinished asks => exact asks
  have settled : Booked (dismissed s) after := by
    have cleared : Within booked (update fun c => { c with documents := {}, diagnostics := [] } :
        Action σ Client Unit) := within_modify fun _ => .of_ledger rfl
    have settling' : Within booked (settleUp s.owner.attached : Action σ Client Unit) :=
      within_ite (within_bind within_leave_booked fun _ => cleared) cleared
    exact settling' settling
  obtain ⟨orderly', none⟩ := orderly_dismissed orderly
  rcases orderly.single with idle | ⟨call, only, _, _, busy⟩
  · have calm : ¬Strands (.stimulus .shutDown) outcome s := by
      intro strands
      cases strands with
      | dismissed _ some => exact some idle
      | unfinished asks => exact asks
    refine settled.turned calm ⟨none.trans idle.symm, rfl, rfl, rfl, ?_⟩ orderly'
    unfold dismissed
    cases s.owner.backoff <;> rfl
  · obtain ⟨still, _, clock⟩ := settled.kept busy
    have gone := (restarts_of_clock settled.config clock).trans none
    exact ⟨orderly'.of_clock settled.config (congrArg (·.call) settled.monitor) clock
      fun some => absurd none some,
      .dismissed alive only gone busy still settled.restartCount⟩

theorem within_comeBack_booked : Within booked (comeBack : Action σ Client Unit) :=
  within_bind within_start_booked fun _ => running_booked.within_replay

theorem restarting_of_completeRestart (busy : s.owner.restarting = true)
    (ended : Ends completeRestart s outcome after) :
    after.owner.restarting = true ↔ ∃ failure, outcome = .error failure := by
  have well {left : Session σ Client} (idle : left.owner.restarting = false) :
      left.owner.restarting = true ↔ ∃ failure, (.ok () : Outcome Unit) = .error failure := by
    rw [idle]
    exact ⟨fun busy => absurd busy Bool.false_ne_true, fun ⟨_, failed⟩ => nomatch failed⟩
  cases ends_completeRestart ended with
  | overtaken _ => exact well rfl
  | revived _ _ => exact well rfl
  | relapsed _ _ => exact well rfl
  | broken _ _ coming =>
      exact ⟨fun _ => ⟨_, rfl⟩, fun _ => ((within_comeBack_booked coming).kept busy).1⟩

/-- The second half of a restart is made: only a failure that is no reported problem leaves the client
in the restart. -/
theorem turned_completeRestart {call : ScheduledCall Task} (only : restarts s = [call])
    (busy : s.owner.restarting = true) (orderly : Orderly mid) (none : restarts mid = [])
    (same : mid.owner = s.owner) (ended : Ends completeRestart mid outcome after) :
    Turned (.due .restart) outcome s after := by
  have came {reached : Outcome Unit} {last : Session σ Client}
      (coming : Ends comeBack (unbooked mid) reached last) :
      Booked (unbooked mid) last ∧ Orderly last ∧ restarts last = [] ∧
        last.owner.restarting = true := by
    have booked : Booked (unbooked mid) last := within_comeBack_booked coming
    have still : (unbooked mid).owner.restarting = true := by
      rw [← same] at busy
      exact busy
    obtain ⟨busy', _, clock⟩ := booked.kept still
    exact ⟨booked, orderly.of_clock booked.config (congrArg (·.call) booked.monitor) clock
      fun some => absurd none some, (restarts_of_clock booked.config clock).trans none, busy'⟩
  have count : mid.owner.restartCount = s.owner.restartCount := congrArg (·.restartCount) same
  cases ends_completeRestart ended with
  | overtaken _ =>
      exact ⟨orderly.of_clock rfl rfl rfl fun some => absurd none some,
        .made only none busy rfl (Nat.le_succ_of_le (Nat.le_of_eq count))⟩
  | revived _ coming =>
      obtain ⟨booked, orderly', none', _⟩ := came coming
      exact ⟨orderly'.of_clock rfl rfl rfl fun some => absurd none' some,
        .made only none' busy rfl
          (Nat.succ_le_succ (Nat.le_of_eq (booked.restartCount.trans count)))⟩
  | @relapsed _ last _ coming =>
      obtain ⟨booked, orderly', none', _⟩ := came coming
      obtain ⟨config, monitor, _, count'⟩ := relapsed_same last
      exact ⟨orderly'.of_clock config (congrArg (·.call) monitor) rfl
        fun some => absurd none' some,
        .made only ((restarts_of_clock config rfl).trans none') busy rfl
          (Nat.le_succ_of_le (Nat.le_of_eq (count'.trans (booked.restartCount.trans count))))⟩
  | broken _ _ coming =>
      obtain ⟨booked, orderly', none', busy'⟩ := came coming
      exact ⟨orderly', .broken only none' busy busy' (booked.restartCount.trans count)⟩

end

/-! ### Steps -/

variable [Halves] [Peer σ]

omit [Halves] [Peer σ] in
theorem Born.orderly (born : Born s) : Orderly s := by
  obtain ⟨tidy, strange⟩ := born
  refine ⟨tidy, .inl (List.filter_eq_nil_iff.mpr fun call member mine => ?_), nofun⟩
  exact strange call member (congrArg (·.language) (of_decide_eq_true mine))

theorem Happens.turned {event : Event} {outcome : Outcome Unit}
    (step : Happens event s outcome after) (orderly : Orderly s) : Turned event outcome s after := by
  cases step with
  | @stimulus stimulus _ _ _ ended =>
      have exchanged (calm : ¬(Event.stimulus stimulus).AsksForRestart)
          (alive : stimulus ≠ .shutDown) (booked : Booked s after) :
          Turned (.stimulus stimulus) outcome s after := by
        refine booked.turned (fun strands => ?_) (.refl s) orderly
        cases strands with
        | dismissed => exact alive rfl
        | unfinished asks => exact calm asks
      cases stimulus with
      | errand errand => exact exchanged id nofun (running_booked.within_errand errand ended)
      | start =>
          obtain ⟨_, started, _⟩ := ends_ignoring ended
          exact exchanged id nofun (within_start_booked started)
      | shutDown => exact turned_shutDown orderly ended
      | requestRestart =>
          obtain ⟨_, requested, fails⟩ := ends_ignoring ended
          exact turned_requestRestart trivial (.refl s) orderly requested fails
      | checkHealth => exact turned_checkHealth trivial (.refl s) orderly ended
      | markDegraded =>
          obtain ⟨_, rfl⟩ := ends_update.mp ended
          refine exchanged id nofun (.of_ledger ?_)
          unfold markedDegraded
          split <;> rfl
      | startMonitor => exact turned_startMonitor orderly ended
      | stopMonitor => exact turned_stopMonitor orderly ended
      | listen =>
          obtain ⟨_, rfl⟩ := ends_update.mp ended
          exact exchanged id nofun (.of_ledger rfl)
      | arrive arrivals =>
          have inside : Within booked (Session.arrive handlers arrivals : Action σ Client Unit) :=
            within_bind (within_connection_booked _) fun _ => running_booked.within_drain
          exact exchanged id nofun (inside ended)
      | serverEnds closure =>
          have inside : Within booked (Session.arriveEnd handlers closure :
              Action σ Client Unit) :=
            within_bind (within_connection_booked _) fun _ => running_booked.within_drain
          exact exchanged id nofun (inside ended)
      | formerEnds closure =>
          have inside : Within booked (Client.ended closure : Action σ Client Unit) :=
            within_ended_booked closure
          exact exchanged id nofun (inside ended)
  | @due job _ _ target clock _ next performed =>
      have numbers : clock.nextId = s.world.clock.nextId := by
        obtain ⟨_, _, _, _, _, _, same⟩ := orderly.tidy.next?_eq_some next
        exact same
      cases job with
      | healthCheck =>
          have still : restarts (moved clock s) = restarts s :=
            orderly.tidy.callsFor_next_of_ne next (by simp)
          have orderly' : Orderly (moved clock s) := by
            refine ⟨orderly.tidy.next next, still ▸ orderly.single, fun id called => ?_⟩
            rw [still]
            exact ⟨numbers ▸ (orderly.apart id called).1, (orderly.apart id called).2⟩
          exact turned_checkHealth trivial ⟨still, rfl, rfl, rfl, numbers⟩ orderly' performed
      | restart =>
          rcases orderly.single with none | ⟨call, only, once, _, busy⟩
          · exact absurd none (orderly.restarts_ne_nil next)
          · have gone : restarts (moved clock s) = [] :=
              orderly.tidy.callsFor_next_of_once next (decide_eq_true rfl) only once
            exact turned_completeRestart only busy
              (orderly.of_none (orderly.tidy.next next) gone rfl numbers) gone rfl performed
  | @elsewhere _ world spares =>
      have still := restarts_elsewhere spares
      have calm : ¬Strands .elsewhere (.ok ()) s := nofun
      refine ⟨⟨spares.tidy orderly.tidy, still ▸ orderly.single, fun id called => ?_⟩,
        .kept calm still rfl rfl⟩
      rw [still]
      exact ⟨Nat.lt_of_lt_of_le (orderly.apart id called).1 spares.numbers,
        (orderly.apart id called).2⟩

end Scalpel.Client
