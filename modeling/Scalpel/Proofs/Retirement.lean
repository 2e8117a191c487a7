import Scalpel.Proofs.Acceptance
import Scalpel.Proofs.Phases

/-!
A client that was shut down stays so. Nothing that happens afterwards, in whatever order, brings it back
to life, launches a server, schedules a restart or opens a document, and everything that needs a session
is refused. Only a client that is told to shut down is shut down; where it gives up on the way, because
it cannot wait for its server, it keeps its documents for good.
-/

set_option autoImplicit false

namespace Scalpel.Client

variable {σ α β : Type} {s mid after : Session σ Client}

/-! ### Obstacles -/

def Balks (op : Action σ Client α) : Prop :=
  ∀ ⦃s after : Session σ Client⦄ ⦃outcome : Outcome α⦄ ⦃problem : Problem⦄,
    s.owner.obstacle? = some problem → Ends op s outcome after →
    outcome = .error (.problem problem) ∧ after = s

theorem balks_bind {op : Action σ Client α} {next : α → Action σ Client β} (first : Balks op) :
    Balks (op >>= next) := by
  intro s after outcome problem obstructed ended
  rcases ends_bind.mp ended with ⟨_, _, ran, _⟩ | ⟨_, rfl, ran⟩
  · cases (first obstructed ran).1
  · obtain ⟨same, rfl⟩ := first obstructed ran
    cases same
    exact ⟨rfl, rfl⟩

theorem balks_of_needSession {next : Unit → Action σ Client α} : Balks (needSession >>= next) := by
  intro s after outcome problem obstructed ended
  rcases ends_needSession_bind.mp ended with ⟨found, same, rfl, rfl⟩ | ⟨free, _⟩
  · cases obstructed.symm.trans same
    exact ⟨rfl, rfl⟩
  · cases obstructed.symm.trans free

theorem balks_softly {default : α} {query : Action σ Client α} (balks : Balks query) :
    Balks (softly default query) := by
  intro s after outcome problem obstructed ended
  rcases ends_bind.mp ended with ⟨_, _, tried, rest⟩ | ⟨_, _, failed⟩
  · obtain ⟨_, same, ran⟩ := Session.ends_attempt.mp tried
    cases same
    obtain ⟨rfl, rfl⟩ := balks obstructed ran
    have hard : isSoft (.problem problem) = false := by
      unfold obstacle? at obstructed
      split at obstructed
      · cases obstructed
        rfl
      · split at obstructed
        · cases obstructed
        · cases obstructed
          rfl
    rcases ends_ite.mp rest with ⟨soft, _⟩ | ⟨_, thrown⟩
    · exact absurd (hard.symm.trans soft) nofun
    · exact ends_throw.mp thrown
  · obtain ⟨_, impossible, _⟩ := Session.ends_attempt.mp failed
    cases impossible

def Errand.NeedsSession : Errand → Prop
  | .closeDocument _ | .applyEdit .. | .diagnosticsOf _ => False
  | _ => True

section

variable [Halves] [Peer σ]

theorem balks_change {uri : String} {changes : List ContentChange} :
    Balks (change uri changes : Action σ Client OpenDocument) :=
  balks_of_needSession

theorem balks_notify {method : String} {params : Json} :
    Balks (notify method params : Action σ Client Unit) :=
  balks_of_needSession

theorem balks_request {method : String} {params timeout : Json} :
    Balks (request method params timeout : Action σ Client Json) :=
  balks_of_needSession

theorem balks_symbols {uri : String} : Balks (symbols uri : Action σ Client (List Symbol)) :=
  balks_bind (balks_softly (balks_bind balks_request))

theorem Errand.balks {errand : Errand} (needs : errand.NeedsSession) :
    Balks (doErrand errand : Action σ Client Unit) := by
  cases errand with
  | openDocument => exact balks_bind balks_of_needSession
  | changeDocument => exact balks_bind balks_change
  | saveDocument => exact balks_bind balks_of_needSession
  | notify => exact balks_notify
  | request => exact balks_bind balks_request
  | outline => exact balks_bind (balks_bind balks_request)
  | hover => exact balks_bind (balks_bind balks_request)
  | completion => exact balks_bind (balks_bind balks_request)
  | definition => exact balks_bind (balks_bind balks_request)
  | references => exact balks_bind (balks_bind balks_request)
  | rename => exact balks_bind (balks_bind balks_request)
  | findSymbol => exact balks_bind (balks_bind balks_symbols)
  | findSymbols => exact balks_bind (balks_bind balks_symbols)
  | symbolAt => exact balks_bind (balks_bind balks_symbols)
  | closeDocument => exact needs.elim
  | applyEdit => exact needs.elim
  | diagnosticsOf => exact needs.elim

theorem eq_of_errand {errand : Errand} {outcome : Outcome Unit} {problem : Problem}
    (obstructed : s.owner.obstacle? = some problem)
    (ended : Ends (doErrand errand) s outcome after) : after = s := by
  by_cases needs : errand.NeedsSession
  · exact (Errand.balks needs obstructed ended).2
  have refusal {method : String} {params timeout : Json} {reached : Outcome Json}
      {mid : Session σ Client} (asked : Ends (request method params timeout) s reached mid) :
      reached = .error (.problem problem) ∧ mid = s :=
    balks_request obstructed asked
  have unlike : problem.kind ≠ .protocol := kind_of_obstacle obstructed
  cases errand with
  | closeDocument uri =>
      rcases ends_ite.mp (ends_current_bind.mp ended) with ⟨_, closing⟩ | ⟨_, done⟩
      · exact (balks_bind balks_notify obstructed closing).2
      · exact (ends_pure.mp done).2
  | applyEdit edit label =>
      cases ends_applyEdit ended with
      | unopened => rfl
      | failed _ asked => exact (refusal asked).2
      | told _ protocol asked _ =>
          cases (refusal asked).1
          exact absurd protocol.1 unlike
      | refused _ asked _ => cases (refusal asked).1
      | applied _ asked _ _ => cases (refusal asked).1
  | diagnosticsOf uri =>
      obtain ⟨_, looked, _⟩ := ends_ignoring ended
      rcases ends_ite.mp (ends_current_bind.mp looked) with ⟨_, asking⟩ | ⟨_, fetching⟩
      · rcases ends_bind.mp asking with ⟨_, _, tried, rest⟩ | ⟨_, _, failed⟩
        · obtain ⟨_, same, asked⟩ := Session.ends_attempt.mp tried
          cases same
          obtain ⟨rfl, rfl⟩ := refusal asked
          rcases ends_ite.mp rest with ⟨protocol, _⟩ | ⟨_, raising⟩
          · exact absurd protocol unlike
          · rcases ends_bind.mp raising with ⟨_, _, raised, _⟩ | ⟨_, _, raised⟩
            · cases (Session.ends_raise.mp raised).1
            · exact (Session.ends_raise.mp raised).2
        · obtain ⟨_, impossible, _⟩ := Session.ends_attempt.mp failed
          cases impossible
      · have fetched := ends_current_bind.mp fetching
        exact (ends_pure.mp fetched).2
  | _ => exact absurd trivial needs

end

/-! ### Retirement -/

structure Retired (a b : Session σ Client) : Prop where
  state : b.owner.state = .shutDown
  launches : b.owner.launches = a.owner.launches
  documents : b.owner.documents = a.owner.documents
  restarting : b.owner.restarting = true → a.owner.restarting = true

namespace Retired

theorem refl (shut : s.owner.state = .shutDown) : Retired s s :=
  ⟨shut, rfl, rfl, id⟩

theorem trans {a b c : Session σ Client} (first : Retired a b) (second : Retired b c) :
    Retired a c :=
  ⟨second.state, second.launches.trans first.launches, second.documents.trans first.documents,
    fun busy => first.restarting (second.restarting busy)⟩

theorem of_frozen {a b : Session σ Client} (shut : a.owner.state = .shutDown)
    (frozen : Frozen (fun _ : World σ => ()) a b) : Retired a b :=
  ⟨frozen.state.trans shut, frozen.launches, frozen.documents,
    fun busy => frozen.restarting.symm.trans busy⟩

end Retired

theorem busy_of_shutDown (shut : s.owner.state = .shutDown) : s.owner.Busy :=
  ⟨by rw [shut]; exact nofun, .inr (.inr (.inl shut))⟩

theorem retired_markedDegraded (shut : s.owner.state = .shutDown) :
    Retired s { s with owner := s.owner.markedDegraded } := by
  have same : s.owner.markedDegraded = s.owner := if_neg (by rw [shut]; exact nofun)
  rw [same]
  exact .refl shut

theorem eq_of_beginRestart {leave : Action σ Client Unit} {outcome : Outcome Bool}
    (shut : s.owner.state = .shutDown) (ended : Ends (beginRestart leave) s outcome after) :
    after = s := by
  cases ends_beginRestart ended with
  | declined _ => rfl
  | unfinished free _ _ => exact absurd shut free.1
  | untimed free _ _ => exact absurd shut free.1
  | begun free _ _ => exact absurd shut free.1

section

variable [Halves] [Peer σ]

theorem retired_checkHealth {outcome : Outcome Unit} (shut : s.owner.state = .shutDown)
    (ended : Ends checkHealth s outcome after) : Retired s after := by
  cases ends_checkHealth ended with
  | idle _ => exact .refl shut
  | restarted alive _ _ _ _ _ => exact absurd shut alive
  | marked _ _ => exact retired_markedDegraded shut

theorem start_refused {outcome : Outcome Json} (shut : s.owner.state = .shutDown)
    (ended : Ends start s outcome after) :
    outcome = .error (.problem (.clientShutDown s.owner.language)) ∧ after = s := by
  have looked := ends_current_bind.mp ended
  rw [shut] at looked
  exact Session.ends_raise.mp looked

theorem Happens.retired {event : Event} {outcome : Outcome Unit}
    (step : Happens event s outcome after) (shut : s.owner.state = .shutDown) :
    Retired s after := by
  have busy := busy_of_shutDown shut
  cases step with
  | @stimulus stimulus _ _ _ ended =>
      cases stimulus with
      | errand errand =>
          obtain ⟨_, obstructed⟩ := busy.obstacle?
          rw [eq_of_errand obstructed ended]
          exact .refl shut
      | start =>
          obtain ⟨_, started, _⟩ := ends_ignoring ended
          rw [(start_refused shut started).2]
          exact .refl shut
      | shutDown =>
          rcases ends_shutDown ended with ⟨_, _, rfl⟩ | ⟨alive, _⟩
          · exact .refl shut
          · exact absurd shut alive
      | requestRestart =>
          obtain ⟨_, requested, _⟩ := ends_ignoring ended
          rw [eq_of_beginRestart shut requested]
          exact .refl shut
      | checkHealth => exact retired_checkHealth shut ended
      | markDegraded =>
          obtain ⟨_, rfl⟩ := ends_update.mp ended
          exact retired_markedDegraded shut
      | startMonitor =>
          cases ends_startMonitor ended with
          | running _ => exact .refl shut
          | untimed _ => exact ⟨shut, rfl, rfl, id⟩
          | started _ => exact ⟨shut, rfl, rfl, id⟩
      | stopMonitor =>
          rcases (ends_stopMonitor ended).2 with ⟨_, rfl⟩ | ⟨_, _, rfl⟩
          · exact .refl shut
          · exact ⟨shut, rfl, rfl, id⟩
      | listen =>
          obtain ⟨_, rfl⟩ := ends_update.mp ended
          exact ⟨shut, rfl, rfl, id⟩
      | arrive arrivals =>
          have inside : Within (frozen fun _ : World σ => ())
              (Session.arrive handlers arrivals : Action σ Client Unit) :=
            within_bind (within_connection_frozen fun _ => rfl) fun _ => dealings_busy.within_drain
          exact .of_frozen shut (inside ended busy)
      | serverEnds closure =>
          have inside : Within (frozen fun _ : World σ => ())
              (Session.arriveEnd handlers closure : Action σ Client Unit) :=
            within_bind (within_connection_frozen fun c => c.language_endTransport closure) fun _ =>
              dealings_busy.within_drain
          exact .of_frozen shut (inside ended busy)
      | formerEnds closure => exact .of_frozen shut (within_ended_frozen closure ended busy)
  | @due job _ _ _ clock _ _ performed =>
      have moving : Retired s (moved clock s) := ⟨shut, rfl, rfl, id⟩
      refine moving.trans ?_
      cases job with
      | healthCheck => exact retired_checkHealth shut performed
      | restart =>
          have elsewhere : (moved clock s).owner.state ≠ .restarting :=
            fun restarting => nomatch shut.symm.trans restarting
          obtain ⟨_, rfl⟩ := ends_completeRestart_of_ne elsewhere performed
          exact ⟨shut, rfl, rfl, nofun⟩
  | elsewhere _ => exact ⟨shut, rfl, rfl, id⟩

theorem Happens.unscheduled {event : Event} {outcome : Outcome Unit}
    (step : Happens event s outcome after) (shut : s.owner.state = .shutDown) (orderly : Orderly s)
    (idle : restarts s = []) : restarts after = [] := by
  have retired := step.retired shut
  cases (step.turned orderly).turn with
  | kept _ same _ _ => exact same.trans idle
  | begun _ free _ _ _ busy _ _ => exact absurd (free.symm.trans (retired.restarting busy)) nofun
  | untimed _ _ none _ _ _ => exact none
  | unfinished _ _ _ none _ _ => exact none
  | dismissed alive _ _ _ _ _ => exact absurd shut alive
  | made _ none _ _ _ => exact none
  | broken _ none _ _ _ => exact none

theorem Course.retired {grants : Nat} {first last : Session σ Client}
    (run : Course grants first last) (shut : first.owner.state = .shutDown) :
    Retired first last := by
  induction run with
  | refl first => exact .refl shut
  | step _ step ih => exact (ih shut).trans (step.retired (ih shut).state)

theorem Course.unscheduled {grants : Nat} {first last : Session σ Client}
    (run : Course grants first last) (shut : first.owner.state = .shutDown)
    (orderly : Orderly first) (idle : restarts first = []) : restarts last = [] ∧ grants = 0 := by
  induction run with
  | refl first => exact ⟨idle, rfl⟩
  | @step grants first mid last _ _ run step ih =>
      obtain ⟨idle', rfl⟩ := ih shut orderly idle
      have none := step.unscheduled (run.retired shut).state (run.orderly orderly) idle'
      refine ⟨none, ?_⟩
      unfold granted
      rw [none]
      rfl

end

/-! ### How clients are shut down -/

def alive : Frame (Session σ Client) :=
  .invariant fun s => s.owner.state ≠ .shutDown

theorem phased_alive : Phased (alive : Frame (Session σ Client)) where
  aside state _ there shut := there (state.symm.trans shut)
  serving serving _ shut := by
    rcases serving with state | state
    · cases state.symm.trans shut
    · cases state.symm.trans shut
  paused state _ _ shut := by cases state.symm.trans shut
  underway _ state _ _ shut := by cases state.symm.trans shut

section

variable [Halves] [Peer σ]

theorem Happens.alive {event : Event} {outcome : Outcome Unit}
    (step : Happens event s outcome after) (other : event ≠ .stimulus .shutDown) :
    Client.alive.holds s after :=
  step.phased phased_alive other

/-! ### Shutting down -/

def cleared (s : Session σ Client) : Session σ Client :=
  { s with owner := { s.owner with documents := {}, diagnostics := [] } }

/-- What became of a client that was alive and was told to shut down: it has forgotten its documents, or
it has failed on the way with something that is no reported problem and keeps them. -/
inductive ShutDown (s : Session σ Client) : Outcome Unit → Session σ Client → Prop
  | done {mid : Session σ Client} : Frozen (fun _ : World σ => ()) (dismissed s) mid →
    ShutDown s (.ok ()) (cleared mid)
  | brokenOff {failure : Failure} {after : Session σ Client} : (∀ problem, failure ≠ .problem problem) →
    Frozen (fun _ : World σ => ()) (dismissed s) after → ShutDown s (.error failure) after

theorem unreported_of_leave {failure : Failure} (ended : Ends leave s (.error failure) after) :
    ∀ problem, failure ≠ .problem problem := by
  have close {mid : Session σ Client} (closing : Ends (Session.close handlers) mid (.error failure)
      after) : False :=
    nomatch (Session.ends_close closing).1
  have looked := ends_get_bind.mp ended
  rcases ends_ite.mp looked with ⟨_, parting⟩ | ⟨_, closing⟩
  · have tries := ends_current_bind.mp parting
    rcases ends_bind.mp tries with ⟨_, _, _, rest⟩ | ⟨_, _, failed⟩
    · split at rest
      · exact (close rest).elim
      · exact (close rest).elim
      · next reason unreported _ =>
        rcases ends_bind.mp rest with ⟨_, _, thrown, _⟩ | ⟨_, same, thrown⟩
        · cases (ends_throw.mp thrown).1
        · cases same
          cases (ends_throw.mp thrown).1
          exact unreported
    · obtain ⟨_, impossible, _⟩ := Session.ends_attempt.mp failed
      cases impossible
  · exact (close closing).elim

theorem ends_shutDown_alive {outcome : Outcome Unit} (there : s.owner.state ≠ .shutDown)
    (ended : Ends shutDown s outcome after) : ShutDown s outcome after := by
  rcases ends_shutDown ended with ⟨shut, _, _⟩ | ⟨_, settling⟩
  · exact absurd shut there
  have busy : (dismissed s).owner.Busy := busy_of_shutDown rfl
  rcases ends_ite.mp settling with ⟨_, leaving⟩ | ⟨_, clearing⟩
  · rcases ends_bind.mp leaving with ⟨_, mid, left, clearing⟩ | ⟨failure, rfl, failed⟩
    · obtain ⟨rfl, rfl⟩ := ends_update.mp clearing
      exact .done (within_leave_frozen left busy)
    · exact .brokenOff (unreported_of_leave failed) (within_leave_frozen failed busy)
  · obtain ⟨rfl, rfl⟩ := ends_update.mp clearing
    exact .done (.refl _ _)

theorem ends_shutDown_again (shut : s.owner.state = .shutDown) : Ends shutDown s (.ok ()) s :=
  ends_current_bind.mpr (ends_ite.mpr (.inl ⟨shut, ends_pure.mpr ⟨rfl, rfl⟩⟩))

omit [Halves] [Peer σ] in
theorem ShutDown.state {outcome : Outcome Unit} (shut : ShutDown s outcome after) :
    after.owner.state = .shutDown := by
  cases shut with
  | done frozen => exact frozen.state
  | brokenOff _ frozen => exact frozen.state

omit [Halves] [Peer σ] in
theorem ShutDown.settled {outcome : Outcome Unit} (shut : ShutDown s outcome after) (orderly : Orderly s) :
    after.owner.state = .shutDown ∧ after.owner.launches = s.owner.launches ∧ restarts after = [] := by
  have idle : restarts (dismissed s) = [] := (orderly_dismissed orderly).2
  cases shut with
  | done frozen =>
      exact ⟨frozen.state, frozen.launches, (restarts_of_clock frozen.config frozen.clock).trans idle⟩
  | brokenOff _ frozen =>
      exact ⟨frozen.state, frozen.launches, (restarts_of_clock frozen.config frozen.clock).trans idle⟩

/-! ### Runs -/

/-- In the course of a run a client with open documents was told to shut down, and failed on the way
with something that is no reported problem. -/
def Abandoned (first last : Session σ Client) : Prop :=
  ∃ earlier later failure, ∃ before next : Session σ Client,
    Course earlier first before ∧ before.owner.state ≠ .shutDown ∧
      before.owner.documents.documents ≠ [] ∧ (∀ problem, failure ≠ .problem problem) ∧
      Ends shutDown before (.error failure) next ∧ Course later next last

theorem Abandoned.documents {first last : Session σ Client} (abandoned : Abandoned first last) :
    last.owner.documents.documents ≠ [] := by
  obtain ⟨_, _, _, before, next, _, there, some, _, ended, later⟩ := abandoned
  cases ends_shutDown_alive there ended with
  | brokenOff _ frozen =>
      rw [(later.retired frozen.state).documents, frozen.documents]
      exact some

/-- In a run a client that is shut down has nothing scheduled, and it has open documents exactly if it
was abandoned. -/
theorem Course.shutDown {grants : Nat} {first last : Session σ Client}
    (run : Course grants first last) (born : Born first) (shut : last.owner.state = .shutDown) :
    restarts last = [] ∧ (last.owner.documents.documents = [] ↔ ¬Abandoned first last) := by
  suffices known : restarts last = [] ∧
      (last.owner.documents.documents ≠ [] → Abandoned first last) from
    ⟨known.1, fun none abandoned => abandoned.documents none,
      fun other => by_contra fun some => other (known.2 some)⟩
  induction run with
  | refl first =>
      obtain ⟨_, _⟩ := born
      cases shut
  | @step _ first mid last event outcome run step ih =>
      by_cases there : mid.owner.state = .shutDown
      · obtain ⟨idle, abandoned⟩ := ih born there
        refine ⟨step.unscheduled there (run.orderly born.orderly) idle, fun some => ?_⟩
        rw [(step.retired there).documents] at some
        obtain ⟨_, _, failure, before, next, early, alive, held, unlike, ended, late⟩ :=
          abandoned some
        exact ⟨_, _, failure, before, next, early, alive, held, unlike, ended, late.step step⟩
      · have told : event = .stimulus .shutDown :=
          by_contra fun other => step.alive other there shut
        subst told
        cases step with
        | stimulus ended =>
            have shutting := ends_shutDown_alive there ended
            refine ⟨(shutting.settled (run.orderly born.orderly)).2.2, fun some => ?_⟩
            cases shutting with
            | done _ => exact absurd rfl some
            | brokenOff unlike frozen =>
                rw [frozen.documents] at some
                exact ⟨_, _, _, mid, last, run, there, some, unlike, ended, .refl last⟩

/-- After a client has been told to shut down and has done so, nothing that happens brings it back to
life, launches a server or schedules a restart. Being brought to life is refused, and so is every errand
that needs a session; no errand changes anything. No document is open, unless the client had been told to
shut down before and was abandoned on the way. -/
theorem shut_down_for_good {earlier later : Nat} {first s after last : Session σ Client}
    (born : Born first) (run : Course earlier first s) (ended : Ends shutDown s (.ok ()) after)
    (further : Course later after last) :
    last.owner.state = .shutDown ∧ last.owner.launches = s.owner.launches ∧
      restarts last = [] ∧ later = 0 ∧
      (last.owner.documents.documents = [] ↔ ¬Abandoned first s) ∧
      (∀ {outcome : Outcome Json} {next : Session σ Client}, Ends start last outcome next →
        outcome = .error (.problem (.clientShutDown last.owner.language)) ∧ next = last) ∧
      ∀ {errand : Errand} {outcome : Outcome Unit} {next : Session σ Client},
        Ends (doErrand errand) last outcome next → next = last ∧ (errand.NeedsSession →
          ∃ problem, last.owner.obstacle? = some problem ∧ outcome = .error (.problem problem)) := by
  have orderly := run.orderly born.orderly
  have shut : after.owner.state = .shutDown ∧ after.owner.launches = s.owner.launches ∧
      restarts after = [] ∧ Orderly after ∧
      (after.owner.documents.documents = [] ↔ ¬Abandoned first s) := by
    have orderly' : Orderly after := (turned_shutDown orderly ended).orderly
    rcases ends_shutDown ended with ⟨shut, _, rfl⟩ | ⟨there, _⟩
    · obtain ⟨idle, documents⟩ := run.shutDown born shut
      exact ⟨shut, rfl, idle, orderly', documents⟩
    · have shutting := ends_shutDown_alive there ended
      obtain ⟨state, launches, idle⟩ := shutting.settled orderly
      refine ⟨state, launches, idle, orderly', ?_⟩
      have alive : ¬Abandoned first s := by
        rintro ⟨_, _, _, _, next, _, before, _, _, broken, late⟩
        cases ends_shutDown_alive before broken with
        | brokenOff _ frozen => exact there (late.retired frozen.state).state
      cases shutting with
      | done _ => exact ⟨fun _ => alive, fun _ => rfl⟩
  obtain ⟨state, launches, idle, orderly', documents⟩ := shut
  have retired := further.retired state
  obtain ⟨idle', none⟩ := further.unscheduled state orderly' idle
  obtain ⟨problem, obstructed⟩ := (busy_of_shutDown retired.state).obstacle?
  refine ⟨retired.state, retired.launches.trans launches, idle', none, ?_, ?_, ?_⟩
  · rw [retired.documents]
    exact documents
  · exact fun started => start_refused retired.state started
  · intro errand outcome next doing
    refine ⟨eq_of_errand obstructed doing, fun needs => ⟨problem, obstructed, ?_⟩⟩
    exact (Errand.balks needs obstructed doing).1

end

end Scalpel.Client

/-! ### A client that cannot wait for its server -/

namespace Scalpel.Client

local instance retirementHalves : Halves :=
  Halves.trial

/-- A client that nothing has happened to. Its server answers everything but the request to shut down,
and the time that the client would give it for that is longer than any wait. -/
def hastyBirth : Session Script.Servers Client :=
  { world := { server := { shared := { entries := [("shutdown", [{ silent := true }])] } } }
    owner := make { language := "py", command := .str "py-server" } "/w"
      { shutdownTimeout := .int 10000000000 } 0.0 }

def hasty : Session Script.Servers Client :=
  followAll hastyBirth [.stimulus .start, .stimulus (.errand (.openDocument "a.py" "x" .null)),
    .stimulus .shutDown]

/-- It is told again; then its server ends, and it is to be brought back in every way. -/
def hastyRest : List Cue :=
  [.stimulus (.serverEnds (.exited (some 1) none)), .stimulus .requestRestart,
    .stimulus .checkHealth, .wait 1010.0, .stimulus .start,
    .stimulus (.errand (.openDocument "b.py" "y" .null))]

theorem shut_down_for_good_of_hasty :
    Born hastyBirth ∧ Course 0 hastyBirth hasty ∧
      Ends shutDown hasty (.ok ()) hasty ∧ Course 0 hasty (followAll hasty hastyRest) ∧
      (followAll hasty hastyRest).owner.state = .shutDown ∧
      (followAll hasty hastyRest).owner.launches = 1 ∧
      (followAll hasty hastyRest).owner.documents.documents ≠ [] ∧ Abandoned hastyBirth hasty := by
  have born : Born hastyBirth := .make ⟨nofun, List.nodup_nil⟩ nofun
  have run : Course 0 hastyBirth hasty := course_followAll_of (by decide +kernel)
  have again : Ends shutDown hasty (.ok ()) hasty := ends_shutDown_again (by decide +kernel)
  have further : Course 0 hasty (followAll hasty hastyRest) :=
    course_followAll_of (by decide +kernel)
  have held : (followAll hasty hastyRest).owner.documents.documents ≠ [] := by
    have some : (followAll hasty hastyRest).owner.documents.documents.length ≠ 0 := by
      decide +kernel
    exact fun none => some (congrArg List.length none)
  obtain ⟨shut, launches, _, _, documents, _⟩ := shut_down_for_good born run again further
  refine ⟨born, run, again, further, shut, launches.trans (by decide +kernel), held, ?_⟩
  exact by_contra fun other => held (documents.mpr other)

end Scalpel.Client
