import Scalpel.Proofs.Booking
import Scalpel.Proofs.Schedule

/-!
Runs of a client under supervision. Whatever is done to the client, whatever its server does on its
own, the scheduled calls that become due and all that happens elsewhere in the world follow one another
in any order. The operations that begin, end and supervise sessions are taken apart here.
-/

set_option autoImplicit false

namespace Scalpel

/-- A change of the world that happens elsewhere spares the scheduled calls of a language. -/
structure World.Spares {σ : Type} (language : String) (before after : World σ) : Prop where
  calls : (after.clock.callsFor fun task => task.language = language) =
    before.clock.callsFor fun task => task.language = language
  numbers : before.clock.nextId ≤ after.clock.nextId
  tidy : before.clock.Tidy → after.clock.Tidy

theorem World.Spares.refl {σ : Type} (language : String) (world : World σ) :
    world.Spares language world :=
  ⟨rfl, Nat.le_refl _, id⟩

namespace Client

variable [Halves] {σ : Type} [Peer σ] {s after : Session σ Client}

/-! ### Health checks -/

inductive Checked (s : Session σ Client) : Outcome Unit → Session σ Client → Prop
  | idle : s.owner.state = .shutDown ∨ s.owner.state = .uninitialized ∨
      s.owner.restarting = true ∨ s.owner.restartNeeded = false → Checked s (.ok ()) s
  | restarted {reached outcome after} : s.owner.state ≠ .shutDown →
    s.owner.state ≠ .uninitialized → s.owner.restarting = false →
    s.owner.restartNeeded = true → Ends requestRestart s reached after →
    (∀ failure, reached = .error failure ↔ outcome = .error failure) → Checked s outcome after
  | marked : s.owner.restarting = false → s.owner.restartNeeded = false →
    Checked s (.ok ()) { s with owner := s.owner.markedDegraded }

theorem ends_checkHealth {outcome : Outcome Unit} (ended : Ends checkHealth s outcome after) :
    Checked s outcome after := by
  rcases ends_ite.mp (ends_current_bind.mp ended) with ⟨gone, done⟩ | ⟨there, checking⟩
  · obtain ⟨rfl, rfl⟩ := ends_pure.mp done
    refine .idle ?_
    rcases Bool.or_eq_true_iff.mp gone with shut | fresh
    · exact .inl (of_decide_eq_true shut)
    · exact .inr (.inl (of_decide_eq_true fresh))
  rw [Bool.or_eq_true, decide_eq_true_iff, decide_eq_true_iff, not_or] at there
  rcases ends_ite.mp checking with ⟨busy, done⟩ | ⟨free, checking⟩
  · obtain ⟨rfl, rfl⟩ := ends_pure.mp done
    exact .idle (.inr (.inr (.inl busy)))
  rcases ends_ite.mp checking with ⟨needed, restarting⟩ | ⟨content, checking⟩
  · obtain ⟨reached, restarted, fails⟩ := ends_ignoring restarting
    exact .restarted there.1 there.2 (Bool.eq_false_iff.mpr free) needed restarted fails
  · have looked := ends_get_bind.mp checking
    rcases ends_ite.mp looked with ⟨_, marking⟩ | ⟨_, done⟩
    · obtain ⟨rfl, rfl⟩ := ends_update.mp marking
      exact .marked (Bool.eq_false_iff.mpr free) (Bool.eq_false_iff.mpr content)
    · obtain ⟨rfl, rfl⟩ := ends_pure.mp done
      exact .idle (.inr (.inr (.inr (Bool.eq_false_iff.mpr content))))

/-! ### The monitor -/

def watched (interval : Float) (listeners : List Listener) (monitor : Monitor)
    (s : Session σ Client) : Session σ Client :=
  { s with
    world := { s.world with clock :=
      (s.world.clock.every interval { language := s.owner.language, job := .healthCheck }).2 }
    owner := { s.owner with listeners, monitor } }

inductive Watching (s : Session σ Client) : Outcome Unit → Session σ Client → Prop
  | running : s.owner.monitor.call.isSome = true → Watching s (.ok ()) s
  | untimed {failure listeners monitor} : monitor.call = s.owner.monitor.call →
    Watching s (.error failure) { s with owner := { s.owner with listeners, monitor } }
  | started {interval listeners monitor} : monitor.call = some s.world.clock.nextId →
    Watching s (.ok ()) (watched interval listeners monitor s)

omit [Halves] [Peer σ] in
theorem ends_startMonitor {outcome : Outcome Unit} (ended : Ends startMonitor s outcome after) :
    Watching s outcome after := by
  rcases ends_ite.mp (ends_current_bind.mp ended) with ⟨running, done⟩ | ⟨_, starting⟩
  · obtain ⟨rfl, rfl⟩ := ends_pure.mp done
    exact .running running
  have timed {mid : Session σ Client} (listeners : List Listener) (monitor : Monitor)
      (same : monitor.call = s.owner.monitor.call)
      (subscribed : mid = { s with owner := { s.owner with listeners, monitor } })
      (rest : Ends (askForChecks s.owner) mid outcome after) : Watching s outcome after := by
    subst subscribed
    rcases ends_settle_bind.mp rest with ⟨failure, _, rfl, rfl⟩ | ⟨interval, _, asking⟩
    · exact .untimed same
    · rcases ends_bind.mp (ends_get_bind.mp asking) with ⟨_, _, asked, noting⟩ | ⟨_, _, failed⟩
      · obtain ⟨_, rfl⟩ := Session.ends_modifyWorld.mp asked
        obtain ⟨rfl, rfl⟩ := ends_update.mp noting
        exact .started rfl
      · cases (Session.ends_modifyWorld.mp failed).1
  rcases ends_ite.mp starting with ⟨_, subscribing⟩ | ⟨_, rest⟩
  · have rest : Ends (askForChecks s.owner) { s with
        owner := { s.owner with
          listeners := s.owner.listeners ++ [.monitor]
          monitor := { s.owner.monitor with subscribed := true } } } outcome after :=
      ends_update_bind.mp subscribing
    exact timed (s.owner.listeners ++ [.monitor]) { s.owner.monitor with subscribed := true } rfl rfl
      rest
  · exact timed s.owner.listeners s.owner.monitor rfl rfl rest

def unwatched (id : Nat) (s : Session σ Client) : Session σ Client :=
  { s with
    world := { s.world with clock := s.world.clock.cancel id }
    owner := { s.owner with monitor := { s.owner.monitor with call := none } } }

omit [Halves] [Peer σ] in
theorem ends_stopMonitor {outcome : Outcome Unit} (ended : Ends stopMonitor s outcome after) :
    outcome = .ok () ∧ (s.owner.monitor.call = none ∧ after = s ∨
      ∃ id, s.owner.monitor.call = some id ∧ after = unwatched id s) := by
  have looked := ends_current_bind.mp ended
  dsimp only at looked
  split at looked
  · next none =>
    obtain ⟨rfl, rfl⟩ := ends_pure.mp looked
    exact ⟨rfl, .inl ⟨none, rfl⟩⟩
  · next id some =>
    rcases ends_bind.mp looked with ⟨_, _, cancelled, noting⟩ | ⟨_, _, failed⟩
    · obtain ⟨_, rfl⟩ := Session.ends_modifyWorld.mp cancelled
      obtain ⟨rfl, rfl⟩ := ends_update.mp noting
      exact ⟨rfl, .inr ⟨id, some, rfl⟩⟩
    · cases (Session.ends_modifyWorld.mp failed).1

/-! ### The end of a client -/

/-- The session of a client that ends for good, before it leaves its server: what it had scheduled for
a restart is cancelled. -/
def dismissed (s : Session σ Client) : Session σ Client :=
  { s with
    world := { s.world with clock :=
      match s.owner.backoff with
      | some id => s.world.clock.cancel id
      | none => s.world.clock }
    owner := { s.owner with state := .shutDown, attached := false, backoff := none } }

def settleUp (attached : Bool) : Action σ Client Unit := do
  if attached then leave
  update fun c => { c with documents := {}, diagnostics := [] }

theorem ends_shutDown {outcome : Outcome Unit} (ended : Ends shutDown s outcome after) :
    s.owner.state = .shutDown ∧ outcome = .ok () ∧ after = s ∨
      s.owner.state ≠ .shutDown ∧ Ends (settleUp s.owner.attached) (dismissed s) outcome after := by
  rcases ends_ite.mp (ends_current_bind.mp ended) with ⟨shut, done⟩ | ⟨alive, ending⟩
  · obtain ⟨rfl, rfl⟩ := ends_pure.mp done
    exact .inl ⟨shut, rfl, rfl⟩
  refine .inr ⟨alive, ?_⟩
  have dismissing := ends_update_bind.mp ending
  unfold dismissed
  cases scheduled : s.owner.backoff with
  | none =>
      rw [scheduled] at dismissing
      exact dismissing
  | some id =>
      rw [scheduled] at dismissing
      rcases ends_bind.mp dismissing with ⟨_, _, cancelled, rest⟩ | ⟨_, _, failed⟩
      · obtain ⟨_, rfl⟩ := Session.ends_modifyWorld.mp cancelled
        exact rest
      · cases (Session.ends_modifyWorld.mp failed).1

/-! ### The second half of a restart -/

def unbooked (s : Session σ Client) : Session σ Client :=
  { s with owner := { s.owner with backoff := none } }

def revived (s : Session σ Client) : Session σ Client :=
  { s with owner := { s.owner with
      restartNeeded := false, restarting := false, restartCount := s.owner.restartCount + 1
      healthy := true } }

def relapsed (s : Session σ Client) : Session σ Client :=
  { s with owner :=
      let c := if s.owner.state = .shutDown then s.owner else
        { s.owner with state := .degraded, healthy := false, restartNeeded := true }
      { c with restarting := false } }

omit [Halves] [Peer σ] in
theorem relapsed_same (s : Session σ Client) :
    (relapsed s).owner.config = s.owner.config ∧ (relapsed s).owner.monitor = s.owner.monitor ∧
      (relapsed s).owner.attached = s.owner.attached ∧
      (relapsed s).owner.restartCount = s.owner.restartCount := by
  unfold relapsed
  dsimp only
  split <;> exact ⟨rfl, rfl, rfl, rfl⟩

inductive Returned (s : Session σ Client) : Outcome Unit → Session σ Client → Prop
  | overtaken : s.owner.state ≠ .restarting →
    Returned s (.ok ()) { s with owner := { s.owner with backoff := none, restarting := false } }
  | revived {mid} : s.owner.state = .restarting → Ends comeBack (unbooked s) (.ok ()) mid →
    Returned s (.ok ()) (revived mid)
  | relapsed {problem mid} : s.owner.state = .restarting →
    Ends comeBack (unbooked s) (.error (.problem problem)) mid → Returned s (.ok ()) (relapsed mid)
  | broken {failure mid} : s.owner.state = .restarting → (∀ problem, failure ≠ .problem problem) →
    Ends comeBack (unbooked s) (.error failure) mid → Returned s (.error failure) mid

theorem ends_completeRestart {outcome : Outcome Unit}
    (ended : Ends completeRestart s outcome after) : Returned s outcome after := by
  have looked := ends_current_bind.mp (ends_update_bind.mp ended)
  rcases ends_ite.mp looked with ⟨elsewhere, giving⟩ | ⟨there, coming⟩
  · obtain ⟨rfl, rfl⟩ := ends_pure.mp (ends_update_bind.mp giving)
    exact .overtaken elsewhere
  have here : s.owner.state = .restarting := by
    simpa using there
  rcases ends_bind.mp coming with ⟨tried, mid, trying, rest⟩ | ⟨_, _, failed⟩
  · obtain ⟨_, same, came⟩ := Session.ends_attempt.mp trying
    cases same
    cases tried with
    | ok value =>
        obtain ⟨rfl, rfl⟩ := ends_update.mp rest
        exact .revived here came
    | error failure =>
        cases failure with
        | problem problem =>
            obtain ⟨rfl, rfl⟩ := ends_update.mp rest
            exact .relapsed here came
        | _ =>
            obtain ⟨rfl, rfl⟩ := ends_throw.mp rest
            exact .broken here (fun _ same => nomatch same) came
  · obtain ⟨_, impossible, _⟩ := Session.ends_attempt.mp failed
    cases impossible

theorem ends_completeRestart_of_ne {outcome : Outcome Unit} (elsewhere : s.owner.state ≠ .restarting)
    (ended : Ends completeRestart s outcome after) :
    outcome = .ok () ∧
      after = { s with owner := { s.owner with backoff := none, restarting := false } } := by
  cases ends_completeRestart ended with
  | overtaken _ => exact ⟨rfl, rfl⟩
  | revived there _ => exact absurd there elsewhere
  | relapsed there _ => exact absurd there elsewhere
  | broken there _ _ => exact absurd there elsewhere

/-! ### Runs -/

/-- What is done to a client from outside, or happens to it on its own: errands, the life of its
sessions, its supervision, messages and the end of its server. The end of a server that was given up
earlier may be heard late. -/
inductive Stimulus where
  | errand (errand : Errand)
  | start
  | shutDown
  | requestRestart
  | checkHealth
  | markDegraded
  | startMonitor
  | stopMonitor
  | listen
  | arrive (arrivals : List Inbound)
  | serverEnds (closure : Closure)
  | formerEnds (closure : Closure)

def respond : Stimulus → Action σ Client Unit
  | .errand errand => doErrand errand
  | .start => do
    let _ ← start
  | .shutDown => shutDown
  | .requestRestart => do
    let _ ← requestRestart
  | .checkHealth => checkHealth
  | .markDegraded => update (·.markedDegraded)
  | .startMonitor => startMonitor
  | .stopMonitor => stopMonitor
  | .listen => update fun c => { c with listeners := c.listeners ++ [.observer] }
  | .arrive arrivals => Session.arrive handlers arrivals
  | .serverEnds closure => Session.arriveEnd handlers closure
  | .formerEnds closure => Client.ended closure

/-- What happens next: something is done to the client, a call that it has scheduled becomes due, or
something happens elsewhere. -/
inductive Event where
  | stimulus (stimulus : Stimulus)
  | due (job : Job)
  | elsewhere

def moved (clock : Clock Task) (s : Session σ Client) : Session σ Client :=
  { s with world := { s.world with clock } }

inductive Happens : Event → Session σ Client → Outcome Unit → Session σ Client → Prop
  | stimulus {stimulus : Stimulus} {s after : Session σ Client} {outcome : Outcome Unit} :
    Ends (respond stimulus) s outcome after → Happens (.stimulus stimulus) s outcome after
  | due {job : Job} {s after : Session σ Client} {target : Float} {clock : Clock Task}
    {outcome : Outcome Unit} :
    s.world.clock.next? target = some ({ language := s.owner.language, job }, clock) →
    Ends (perform job) (moved clock s) outcome after → Happens (.due job) s outcome after
  | elsewhere {s : Session σ Client} {world : World σ} : s.world.Spares s.owner.language world →
    Happens .elsewhere s (.ok ()) { s with world }

def restarts (s : Session σ Client) : List (ScheduledCall Task) :=
  s.world.clock.callsFor fun task => task = { language := s.owner.language, job := .restart }

/-- How many restarts are scheduled in a later session that were not in an earlier one. -/
def granted (s after : Session σ Client) : Nat :=
  ((restarts after).filter fun call => s.world.clock.nextId ≤ call.id).length

/-- One thing happens after another; the restarts that are granted on the way are counted. -/
inductive Course : Nat → Session σ Client → Session σ Client → Prop
  | refl (first : Session σ Client) : Course 0 first first
  | step {grants : Nat} {first mid last : Session σ Client} {event : Event}
    {outcome : Outcome Unit} : Course grants first mid → Happens event mid outcome last →
    Course (grants + granted mid last) first last

/-- What is to happen next in a run that is carried out: a stimulus, or the next call that is due by a
time. -/
inductive Cue where
  | stimulus (stimulus : Stimulus)
  | wait (target : Float)

/-- The session after a cue. Where nothing is due for the client, nothing happens. -/
def follow (s : Session σ Client) : Cue → Session σ Client
  | .stimulus stimulus => ((respond stimulus).run s).2
  | .wait target =>
    match s.world.clock.next? target with
    | some (task, clock) =>
      if task.language = s.owner.language then
        ((perform task.job).run (moved clock s)).2
      else s
    | none => s

def followAll : Session σ Client → List Cue → Session σ Client
  | s, [] => s
  | s, cue :: rest => followAll (follow s cue) rest

def grantsAmid : Session σ Client → List Cue → Nat
  | _, [] => 0
  | s, cue :: rest => granted s (follow s cue) + grantsAmid (follow s cue) rest

theorem happens_follow_stimulus (s : Session σ Client) (stimulus : Stimulus) :
    ∃ outcome, Happens (.stimulus stimulus) s outcome (follow s (.stimulus stimulus)) :=
  ⟨_, .stimulus rfl⟩

theorem happens_follow (s : Session σ Client) (cue : Cue) :
    ∃ event outcome, Happens event s outcome (follow s cue) := by
  have idle : Happens .elsewhere s (.ok ()) s := .elsewhere (.refl _ _)
  cases cue with
  | stimulus stimulus => exact ⟨_, happens_follow_stimulus s stimulus⟩
  | wait target =>
      cases next : s.world.clock.next? target with
      | none =>
          simp only [follow, next]
          exact ⟨_, _, idle⟩
      | some found =>
          by_cases mine : found.1.language = s.owner.language
          · simp only [follow, next, if_pos mine]
            refine ⟨.due found.1.job, _, .due (next.trans ?_) rfl⟩
            rw [← mine]
          · simp only [follow, next, if_neg mine]
            exact ⟨_, _, idle⟩

theorem happens_due_follow {s : Session σ Client} {target : Float} {job : Job}
    (next : (s.world.clock.next? target).map (·.1) = some { language := s.owner.language, job }) :
    ∃ outcome, Happens (.due job) s outcome (follow s (.wait target)) := by
  obtain ⟨⟨task, clock⟩, found, rfl⟩ := Option.map_eq_some_iff.mp next
  simp only [follow, found, if_pos]
  exact ⟨_, .due found rfl⟩

theorem course_followAll {grants : Nat} {first : Session σ Client} (run : Course grants first s)
    (cues : List Cue) : Course (grants + grantsAmid s cues) first (followAll s cues) := by
  induction cues generalizing grants s with
  | nil => exact run
  | cons cue rest ih =>
      obtain ⟨_, _, step⟩ := happens_follow s cue
      have further := ih (run.step step)
      rw [Nat.add_assoc] at further
      exact further

theorem course_followAll_of {grants : Nat} {cues : List Cue} (counted : grantsAmid s cues = grants) :
    Course grants s (followAll s cues) := by
  have run := course_followAll (.refl s) cues
  rw [Nat.zero_add, counted] at run
  exact run

/-- Nothing has happened yet to a client, and nothing is scheduled for its language. -/
inductive Born : Session σ Client → Prop
  | make {world : World σ} {config : ServerConfig} {root : String} {settings : Settings}
    {now : Float} {interval : Json} : world.clock.Tidy →
    (∀ call ∈ world.clock.calls, call.task.language ≠ config.language) →
    Born { world, owner := make config root settings now interval }

end Client

end Scalpel
