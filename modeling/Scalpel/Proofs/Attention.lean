import Scalpel.Proofs.OneRestart
import Scalpel.Proofs.Poise

/-!
When the end of a server is forgotten. Only a client that is brought to life can lose sight of its
server: the end is not heeded during a handshake or is overruled when a restart has gone well, and a
client that fails on the way stays where it is. Every other end is noticed, and the next health check
restarts the server.
-/

set_option autoImplicit false

namespace Scalpel.Client

variable {σ : Type} {s mid after : Session σ Client}

section

variable [Halves] [Peer σ]

/-! ### Coming to life -/

omit [Peer σ] in
theorem Began.state {outcome : Outcome Json} (began : Began s outcome after) :
    after.owner.restarting = s.owner.restarting ∧
      (after.owner.state = s.owner.state ∧ after.owner.attached = s.owner.attached ∧
          (after.owner.healthy = true → s.owner.healthy = true) ∧
          (∃ problem, outcome = .error (.problem problem)) ∨
        after.owner.state = .initializing ∧ (∃ failure, outcome = .error failure) ∨
        after.owner.state = .ready ∧ 0 < after.owner.launches ∧
          ∀ problem, outcome ≠ .error (.problem problem)) := by
  cases began with
  | @unlaunched failure server =>
      refine ⟨rfl, ?_⟩
      cases failure with
      | problem problem => exact .inl ⟨rfl, rfl, id, problem, rfl⟩
      | _ => exact .inr (.inl ⟨rfl, _, rfl⟩)
  | @refused _ _ _ problem frozen =>
      exact ⟨frozen.restarting, .inl ⟨rfl, frozen.attached, frozen.healthy, problem, rfl⟩⟩
  | stuck frozen => exact ⟨frozen.restarting, .inr (.inl ⟨frozen.state, _, rfl⟩)⟩
  | begun posted sound =>
      refine ⟨posted.restarting, .inr (.inr ⟨rfl, ?_, sound⟩)⟩
      exact Nat.lt_of_lt_of_eq (Nat.succ_pos s.owner.launches) posted.launches.symm

theorem poised_of_start {outcome : Outcome Json} (poised : Poised s)
    (fresh : s.owner.state = .uninitialized ∨ s.owner.state = .restarting)
    (ended : Ends start s outcome after) : Poised after := by
  obtain ⟨restarting, back | ⟨stuck, _⟩ | ⟨ready, _⟩⟩ := (ends_start_began fresh ended).state
  · obtain ⟨state, attached, healthy, _⟩ := back
    refine ⟨within_start_firmly ended poised.firm, fun same => ?_, fun same => ?_⟩
    · exact restarting.trans (poised.fresh (state.symm.trans same))
    · obtain ⟨busy, ill, detached⟩ := poised.pausing (state.symm.trans same)
      refine ⟨restarting.trans busy, ?_, attached.trans detached⟩
      by_contra well
      exact absurd (ill.symm.trans (healthy (Bool.of_not_eq_false well))) nofun
  · refine poised_of_firm (within_start_firmly ended poised.firm) ?_
    rw [stuck]
    exact ⟨nofun, nofun⟩
  · refine poised_of_firm (within_start_firmly ended poised.firm) ?_
    rw [ready]
    exact ⟨nofun, nofun⟩

omit [Halves] [Peer σ] in
theorem Poised.attentive (poised : Poised s)
    (fresh : s.owner.state = .uninitialized ∨ s.owner.state = .restarting) : Attentive s := by
  rcases fresh with state | state
  · refine ⟨fun _ => .inr (.inl state), fun busy => ?_, fun same => ?_⟩
    · exact absurd ((poised.fresh state).symm.trans busy) nofun
    · cases state.symm.trans same
  · obtain ⟨restarting, healthy, _⟩ := poised.pausing state
    exact attentive_of_pausing state restarting healthy

/-- A client that is brought to life from outside stays attentive unless it got stuck, was in the pause
of a restart, or did not hear the end of its server. -/
theorem attentive_of_start_iff {outcome : Outcome Json} (poised : Poised s)
    (fresh : s.owner.state = .uninitialized ∨ s.owner.state = .restarting)
    (ended : Ends start s outcome after) :
    Attentive after ↔ ¬(after.owner.state = .initializing ∨ after.owner.state = .ready ∧
      (s.owner.state = .restarting ∨ after.connection.closed = true)) := by
  have poised' := poised_of_start poised fresh ended
  obtain ⟨restarting, ⟨state, _⟩ | ⟨stuck, _⟩ | ⟨ready, launched, _⟩⟩ :=
    (ends_start_began fresh ended).state
  · rw [state]
    refine ⟨fun _ => ?_, fun _ => poised'.attentive (state.symm ▸ fresh)⟩
    rcases fresh with same | same <;> rw [same] <;> exact nofun
  · exact ⟨fun attentive => absurd stuck attentive.settled, fun other => absurd (.inl stuck) other⟩
  · have calm : after.owner.restarting = false ↔ s.owner.state ≠ .restarting := by
      rw [restarting]
      refine ⟨fun idle paused => (nomatch idle.symm.trans (poised.pausing paused).1), ?_⟩
      exact fun unpaused => poised.fresh (fresh.resolve_right unpaused)
    rw [attentive_iff_of_ready ready launched, calm, ready]
    simp [and_comm]

/-! ### Coming back -/

theorem frozen_of_replay {outcome : Outcome Unit} (busy : s.owner.Busy)
    (ended : Ends replay s outcome after) :
    Frozen (fun _ : World σ => ()) (withDocuments s s.owner.documents.resetVersions) after :=
  dealings_busy.within_reopen (fitNotice _) _ _ (ends_replay_reopen ended) busy

inductive CameBack (s : Session σ Client) : Outcome Unit → Session σ Client → Prop
  | failed {failure after} : Began s (.error failure) after → CameBack s (.error failure) after
  | replayed {capabilities outcome mid after} : Began s (.ok capabilities) mid →
    Ends replay mid outcome after → CameBack s outcome after

theorem ends_comeBack {outcome : Outcome Unit} (paused : s.owner.state = .restarting)
    (ended : Ends comeBack s outcome after) : CameBack s outcome after := by
  rcases ends_bind.mp ended with ⟨_, mid, started, replayed⟩ | ⟨_, rfl, started⟩
  · exact .replayed (ends_start_began (.inr paused) started) replayed
  · exact .failed (ends_start_began (.inr paused) started)

/-- A client that was to come back is still in the restart. It is ready, unless it failed; and then it
is ready or stuck, unless the failure is a reported problem. -/
theorem CameBack.state {outcome : Outcome Unit} (came : CameBack s outcome after)
    (busy : s.owner.restarting = true) :
    after.owner.restarting = true ∧
      (after.owner.state = .ready ∧ 0 < after.owner.launches ∨
        after.owner.state = .initializing ∧ (∃ failure, outcome = .error failure) ∨
        ∃ problem, outcome = .error (.problem problem)) := by
  cases came with
  | failed began =>
      obtain ⟨restarting, ⟨_, _, _, problem, same⟩ | ⟨stuck, _⟩ | ⟨ready, launched, _⟩⟩ := began.state
      · cases same
        exact ⟨restarting.trans busy, .inr (.inr ⟨problem, rfl⟩)⟩
      · exact ⟨restarting.trans busy, .inr (.inl ⟨stuck, _, rfl⟩)⟩
      · exact ⟨restarting.trans busy, .inl ⟨ready, launched⟩⟩
  | @replayed _ _ mid _ began replayed =>
      obtain ⟨restarting, ⟨_, _, _, _, same⟩ | ⟨_, _, same⟩ | ⟨ready, launched, _⟩⟩ := began.state
      · cases same
      · cases same
      have busy' : mid.owner.restarting = true := restarting.trans busy
      have frozen := frozen_of_replay ⟨by rw [ready]; exact nofun, .inl busy'⟩ replayed
      refine ⟨frozen.restarting.trans busy', .inl ⟨frozen.state.trans ready, ?_⟩⟩
      exact Nat.lt_of_lt_of_eq launched frozen.launches.symm

theorem within_comeBack_firmly : Within firmly (comeBack : Action σ Client Unit) :=
  within_bind within_start_firmly fun _ => running_firmly.within_replay

end

/-! ### What is forgotten -/

/-- The ways in which a client that is brought to life loses sight of its server. From outside, it got
stuck on the way, or did not heed the end of its server in the handshake, or was brought to life in the
pause of a restart. In the second half of a restart, all went well although the server has ended, or
something failed that is no reported problem. -/
inductive Forgets : Event → Outcome Unit → Session σ Client → Session σ Client → Prop
  | stuck {outcome : Outcome Unit} {s after : Session σ Client} :
    s.owner.state = .uninitialized ∨ s.owner.state = .restarting →
    after.owner.state = .initializing → Forgets (.stimulus .start) outcome s after
  | unheard {outcome : Outcome Unit} {s after : Session σ Client} :
    s.owner.state = .uninitialized → after.owner.state = .ready → after.connection.closed = true →
    Forgets (.stimulus .start) outcome s after
  | untimely {outcome : Outcome Unit} {s after : Session σ Client} :
    s.owner.state = .restarting → after.owner.state = .ready →
    Forgets (.stimulus .start) outcome s after
  | overruled {s after : Session σ Client} : s.owner.state = .restarting →
    after.owner.restartCount = s.owner.restartCount + 1 → after.connection.closed = true →
    Forgets (.due .restart) (.ok ()) s after
  | broken {failure : Failure} {s after : Session σ Client} : s.owner.state = .restarting →
    Forgets (.due .restart) (.error failure) s after

inductive Launching : Event → Session σ Client → Prop
  | start {s : Session σ Client} : s.owner.state = .uninitialized ∨ s.owner.state = .restarting →
    Launching (.stimulus .start) s
  | back {s : Session σ Client} : s.owner.state = .restarting → Launching (.due .restart) s

theorem Forgets.launching {event : Event} {outcome : Outcome Unit}
    (forgets : Forgets event outcome s after) : Launching event s := by
  cases forgets with
  | stuck fresh _ => exact .start fresh
  | unheard fresh _ _ => exact .start (.inl fresh)
  | untimely paused _ => exact .start (.inr paused)
  | overruled paused _ _ => exact .back paused
  | broken paused => exact .back paused

theorem Launching.fresh {event : Event} (launching : Launching event s) :
    s.owner.state = .uninitialized ∨ s.owner.state = .restarting := by
  cases launching with
  | start fresh => exact fresh
  | back paused => exact .inr paused

variable [Halves] [Peer σ]

/-! ### Steps -/

theorem eq_of_start {outcome : Outcome Json} (alive : s.owner.state ≠ .uninitialized)
    (unpaused : s.owner.state ≠ .restarting) (ended : Ends start s outcome after) : after = s := by
  have looked := ends_current_bind.mp ended
  split at looked
  · exact (ends_pure.mp looked).2
  · exact (ends_pure.mp looked).2
  · exact (Session.ends_raise.mp looked).2
  · exact (Session.ends_raise.mp looked).2
  · next ready degraded shut initializing =>
    cases state : s.owner.state with
    | uninitialized => exact absurd state alive
    | initializing => exact absurd state initializing
    | ready => exact absurd state ready
    | degraded => exact absurd state degraded
    | restarting => exact absurd state unpaused
    | shutDown => exact absurd state shut

omit [Halves] [Peer σ] in
theorem attending_overtaken (overtaken : s.owner.state ≠ .restarting) :
    attending.holds s { s with owner := { s.owner with backoff := none, restarting := false } } := by
  intro poised
  refine ⟨⟨poised.firm, fun _ => rfl, fun paused => absurd paused overtaken⟩, rfl,
    fun attentive => ⟨fun severed => ?_, nofun, attentive.settled⟩⟩
  rcases attentive.noticed severed with shut | fresh | ⟨unready, ill, needed | busy⟩
  · exact .inl shut
  · exact .inr (.inl fresh)
  · exact .inr (.inr ⟨unready, ill, .inl needed⟩)
  · exact .inl ((attentive.steady busy).resolve_left overtaken)

theorem Happens.attending {event : Event} {outcome : Outcome Unit}
    (step : Happens event s outcome after) (idle : ¬Launching event s) : attending.holds s after := by
  cases step with
  | @stimulus stimulus _ _ _ ended =>
      cases stimulus with
      | errand errand => exact running_attending.within_errand errand ended
      | start =>
          obtain ⟨_, started, _⟩ := ends_ignoring ended
          have fresh : ¬(s.owner.state = .uninitialized ∨ s.owner.state = .restarting) :=
            fun fresh => idle (.start fresh)
          rw [not_or] at fresh
          rw [eq_of_start fresh.1 fresh.2 started]
          exact attending_of_aspect rfl
      | shutDown => exact within_shutDown_attending ended
      | requestRestart =>
          obtain ⟨_, requested, _⟩ := ends_ignoring ended
          exact within_requestRestart_attending requested
      | checkHealth => exact within_checkHealth_attending ended
      | markDegraded =>
          obtain ⟨_, rfl⟩ := ends_update.mp ended
          exact attending_marked s
      | startMonitor =>
          cases ends_startMonitor ended with
          | running _ => exact attending_of_aspect rfl
          | untimed _ => exact attending_of_aspect rfl
          | started _ => exact attending_of_aspect rfl
      | stopMonitor =>
          rcases (ends_stopMonitor ended).2 with ⟨_, rfl⟩ | ⟨_, _, rfl⟩
          · exact attending_of_aspect rfl
          · exact attending_of_aspect rfl
      | listen =>
          obtain ⟨_, rfl⟩ := ends_update.mp ended
          exact attending_of_aspect rfl
      | arrive arrivals =>
          have inside : Within Client.attending
              (Session.arrive handlers arrivals : Action σ Client Unit) :=
            within_bind (within_modify fun _ => attending_of_aspect rfl) fun _ =>
              running_attending.within_drain
          exact inside ended
      | serverEnds closure =>
          have inside : Within Client.attending
              (Session.arriveEnd handlers closure : Action σ Client Unit) :=
            within_bind (within_modify fun s =>
              attending_of_stage (s.connection.stage_endTransport closure)) fun _ =>
                running_attending.within_drain
          exact inside ended
      | formerEnds closure =>
          have ended' : Ends (Client.ended closure) { s with connection := s.connection } outcome
            after := ended
          exact attending_of_ended id ended'
  | @due job _ _ target clock _ next performed =>
      have ticked : Client.attending.holds s (moved clock s) := attending_of_aspect rfl
      refine Client.attending.trans ticked ?_
      cases job with
      | healthCheck => exact within_checkHealth_attending performed
      | restart =>
          have overtaken : s.owner.state ≠ .restarting := fun paused => idle (.back paused)
          have elsewhere : (moved clock s).owner.state ≠ .restarting := overtaken
          obtain ⟨_, rfl⟩ := ends_completeRestart_of_ne elsewhere performed
          exact attending_overtaken elsewhere
  | elsewhere _ => exact attending_of_aspect rfl

theorem completeRestart_attentive {clock : Clock Task} {outcome : Outcome Unit} (poised : Poised s)
    (paused : s.owner.state = .restarting)
    (ended : Ends completeRestart (moved clock s) outcome after) :
    Poised after ∧ (Attentive after ↔ ¬Forgets (.due .restart) outcome s after) := by
  have busy := (poised.pausing paused).1
  have facts {reached : Outcome Unit} {last : Session σ Client}
      (coming : Ends comeBack (unbooked (moved clock s)) reached last) :
      last.connection.Firm ∧ last.owner.restartCount = s.owner.restartCount ∧
        CameBack (unbooked (moved clock s)) reached last :=
    ⟨within_comeBack_firmly coming poised.firm, (within_comeBack_booked coming).restartCount,
      ends_comeBack paused coming⟩
  cases ends_completeRestart ended with
  | overtaken elsewhere => exact absurd paused elsewhere
  | @revived mid _ coming =>
      obtain ⟨firm, count, came⟩ := facts coming
      obtain ⟨_, ⟨ready, launched⟩ | ⟨_, _, same⟩ | ⟨_, same⟩⟩ := came.state busy
      · have state : (revived mid).owner.state = .ready := ready
        refine ⟨poised_of_firm firm ?_, ?_⟩
        · rw [state]
          exact ⟨nofun, nofun⟩
        rw [attentive_iff_of_ready state launched]
        refine ⟨fun well forgets => ?_, fun kept => ⟨Bool.eq_false_iff.mpr fun closed => ?_, rfl⟩⟩
        · cases forgets with
          | overruled _ _ closed => cases well.1.symm.trans closed
        · exact kept (.overruled paused (congrArg (· + 1) count) closed)
      · cases same
      · cases same
  | @relapsed _ mid _ coming =>
      obtain ⟨firm, count, _⟩ := facts coming
      have kept : ¬Forgets (.due .restart) (.ok ()) s (relapsed mid) := by
        intro forgets
        cases forgets with
        | overruled _ more _ =>
            have same := (relapsed_same mid).2.2.2
            omega
      have known : Poised (relapsed mid) ∧ Attentive (relapsed mid) := by
        unfold relapsed
        split
        · next shut =>
          have other {state : ClientState} (different : ClientState.shutDown ≠ state) :
              mid.owner.state ≠ state := by
            rw [shut]
            exact different
          exact ⟨poised_of_firm firm ⟨other nofun, other nofun⟩,
            ⟨fun _ => .inl shut, nofun, other nofun⟩⟩
        · exact ⟨⟨firm, nofun, nofun⟩, ⟨fun _ => .inr (.inr ⟨nofun, rfl, .inl rfl⟩), nofun, nofun⟩⟩
      exact ⟨known.1, fun _ => kept, fun _ => known.2⟩
  | @broken failure _ _ unreported coming =>
      obtain ⟨firm, _, came⟩ := facts coming
      have lost : Forgets (.due .restart) (.error failure) s after := .broken paused
      obtain ⟨busy', ⟨ready, launched⟩ | ⟨stuck, _⟩ | ⟨problem, same⟩⟩ := came.state busy
      · refine ⟨poised_of_firm firm ?_, fun attentive => ?_, absurd lost⟩
        · rw [ready]
          exact ⟨nofun, nofun⟩
        · have idle := ((attentive_iff_of_ready ready launched).mp attentive).2
          cases busy'.symm.trans idle
      · refine ⟨poised_of_firm firm ?_, fun attentive => absurd stuck attentive.settled,
          absurd lost⟩
        rw [stuck]
        exact ⟨nofun, nofun⟩
      · cases same
        exact absurd rfl (unreported problem)

/-- Between two events a client is poised, and an attentive client stays attentive unless the event made
it lose sight of its server. -/
theorem Happens.attentive_iff {event : Event} {outcome : Outcome Unit}
    (step : Happens event s outcome after) (poised : Poised s) :
    Poised after ∧ (Attentive s → (Attentive after ↔ ¬Forgets event outcome s after)) := by
  by_cases launching : Launching event s
  · cases launching with
    | start fresh =>
        cases step with
        | stimulus ended =>
            obtain ⟨_, started, _⟩ := ends_ignoring ended
            refine ⟨poised_of_start poised fresh started, fun _ => ?_⟩
            rw [attentive_of_start_iff poised fresh started]
            refine not_congr ⟨?_, fun forgets => ?_⟩
            · rintro (stuck | ⟨ready, paused | closed⟩)
              · exact .stuck fresh stuck
              · exact .untimely paused ready
              · rcases fresh with fresh | paused
                · exact .unheard fresh ready closed
                · exact .untimely paused ready
            · cases forgets with
              | stuck _ stuck => exact .inl stuck
              | unheard _ ready closed => exact .inr ⟨ready, .inr closed⟩
              | untimely paused ready => exact .inr ⟨ready, .inl paused⟩
    | back paused =>
        cases step with
        | due _ performed =>
            obtain ⟨poised', known⟩ := completeRestart_attentive poised paused performed
            exact ⟨poised', fun _ => known⟩
  · have attended := step.attending launching poised
    exact ⟨attended.poised, fun attentive =>
      ⟨fun _ forgets => launching forgets.launching, fun _ => attended.attentive attentive⟩⟩

/-! ### Runs -/

/-- In the course of a run a client lost sight of its server, and no server was launched since. -/
def Forgotten (first last : Session σ Client) : Prop :=
  ∃ earlier later event outcome, ∃ before next : Session σ Client,
    Course earlier first before ∧ Happens event before outcome next ∧
      Forgets event outcome before next ∧ Course later next last ∧
      next.owner.launches = last.owner.launches

omit [Halves] [Peer σ] in
theorem Born.poised (born : Born s) : Poised s := by
  obtain ⟨_, _⟩ := born
  exact ⟨⟨nofun, nofun⟩, fun _ => rfl, nofun⟩

theorem Course.attentive {grants : Nat} {first last : Session σ Client}
    (run : Course grants first last) (born : Born first) :
    Poised last ∧ (Attentive last ∨ Forgotten first last) := by
  induction run with
  | refl first =>
      refine ⟨born.poised, .inl (born.poised.attentive ?_)⟩
      obtain ⟨_, _⟩ := born
      exact .inl rfl
  | @step _ first mid last event outcome run step ih =>
      obtain ⟨poised, known⟩ := ih born
      obtain ⟨poised', kept⟩ := step.attentive_iff poised
      refine ⟨poised', ?_⟩
      have onward (attentive : Attentive mid) : Attentive last ∨ Forgotten first last := by
        by_cases forgets : Forgets event outcome mid last
        · exact .inr ⟨_, _, _, _, _, _, run, step, forgets, .refl _, rfl⟩
        · exact .inl ((kept attentive).mpr forgets)
      by_cases launching : Launching event mid
      · exact onward (poised.attentive launching.fresh)
      · rcases known with attentive | ⟨earlier, later, event, outcome, before, next, early, made,
          forgets, late, same⟩
        · exact onward attentive
        · have still := (step.attending launching poised).launches
          exact .inr ⟨earlier, _, event, outcome, before, next, early, made, forgets,
            late.step step, same.trans still.symm⟩

/-! ### Health checks -/

theorem ok_of_leave {outcome : Outcome Unit} (closed : s.connection.closed = true)
    (ended : Ends leave s outcome after) : outcome = .ok () := by
  have looked := ends_get_bind.mp ended
  rcases ends_ite.mp looked with ⟨opened, _⟩ | ⟨_, closing⟩
  · rw [closed] at opened
    cases opened
  · exact (Session.ends_close closing).1

/-- A client that knows of the end of its server restarts it at the next health check, unless it is in
a restart already. -/
theorem restarted_of_noticed {outcome : Outcome Unit} (orderly : Orderly s) (severed : Severed s)
    (alive : s.owner.state ≠ .shutDown) (begun : s.owner.state ≠ .uninitialized)
    (noticed : s.owner.Noticed) (ended : Ends checkHealth s outcome after) :
    after.owner.restarting = true ∧ (s.owner.restarting = false →
      ∀ delay, Settings.duration s.owner.settings.restartBackoff = .ok delay →
        outcome = .ok () ∧ restarts after ≠ []) := by
  cases ends_checkHealth ended with
  | idle reason =>
      have busy : s.owner.restarting = true := by
        rcases reason with shut | fresh | busy | content
        · exact absurd shut alive
        · exact absurd fresh begun
        · exact busy
        · rcases noticed.2.2 with needed | busy
          · exact absurd (content.symm.trans needed) nofun
          · exact busy
      exact ⟨busy, fun idle => absurd (idle.symm.trans busy) nofun⟩
  | @restarted reached _ _ _ _ free needed requested fails =>
      have restart := ends_beginRestart requested
      have leaves {reached : Outcome Unit} {mid : Session σ Client}
          (gone : Ends leave (givenUp s) reached mid) : Booked (givenUp s) mid :=
        within_leave_booked gone
      have gone {mid : Session σ Client} (left : Left leave s mid) : mid.owner.restarting = true := by
        cases left with
        | left _ gone => exact ((leaves gone).kept rfl).1
        | nothing _ => rfl
      have scheduled : reached = .ok true → outcome = .ok () ∧ restarts after ≠ [] := by
        rintro rfl
        have longer := (restart.true_iff leaves).mp rfl
        rw [orderly.restarts_eq_nil free] at longer
        refine ⟨?_, longer⟩
        cases outcome with
        | ok value => rfl
        | error failure => cases (fails failure).mpr rfl
      cases restart with
      | declined unable => exact absurd ⟨alive, free⟩ unable
      | unfinished _ _ failed =>
          have closed : (givenUp s).connection.closed = true := severed.2
          cases ok_of_leave closed failed
      | untimed _ left timeless =>
          refine ⟨gone left, fun _ delay timed => ?_⟩
          cases timed.symm.trans timeless
      | begun _ left _ =>
          have busy := gone left
          exact ⟨busy, fun _ _ _ => scheduled rfl⟩
  | marked free content =>
      rcases noticed.2.2 with needed | busy
      · exact absurd (content.symm.trans needed) nofun
      · exact absurd (free.symm.trans busy) nofun

/-- In every run, once the end of the server that was launched last has been handled, a client that is
alive knows of it, unless it lost sight of its server when that was launched. A client that is attentive
stays so but for that. The next health check of a client that knows restarts the server. -/
theorem exit_noticed_or_forgotten {grants : Nat} {first last : Session σ Client} (born : Born first)
    (run : Course grants first last) :
    (Severed last → last.owner.state ≠ .shutDown → last.owner.state ≠ .uninitialized →
      last.owner.Noticed ∨ Forgotten first last) ∧
      (Attentive last ∨ Forgotten first last) ∧
      (∀ {event : Event} {outcome : Outcome Unit} {after : Session σ Client},
        Happens event last outcome after → Attentive last →
        (Attentive after ↔ ¬Forgets event outcome last after)) ∧
      ∀ {outcome : Outcome Unit} {after : Session σ Client}, Severed last →
        last.owner.state ≠ .shutDown → last.owner.state ≠ .uninitialized → last.owner.Noticed →
        Ends checkHealth last outcome after →
        after.owner.restarting = true ∧ (last.owner.restarting = false →
          ∀ delay, Settings.duration last.owner.settings.restartBackoff = .ok delay →
            outcome = .ok () ∧ restarts after ≠ []) := by
  obtain ⟨poised, known⟩ := run.attentive born
  refine ⟨fun severed alive begun => ?_, known, fun step attentive => ?_,
    fun severed alive begun noticed ended => ?_⟩
  · refine known.imp (fun attentive => ?_) id
    exact ((attentive.noticed severed).resolve_left alive).resolve_left begun
  · exact (step.attentive_iff poised).2 attentive
  · exact restarted_of_noticed (run.orderly born.orderly) severed alive begun noticed ended

end Scalpel.Client

/-! ### A server that ends while documents are opened again -/

namespace Scalpel.Client

local instance attentionHalves : Halves :=
  Halves.trial

/-- A client that nothing has happened to, with a server that ends when a document is opened for the
second time. -/
def unheededBirth : Session Script.Servers Client :=
  { world := { server := { shared := { entries :=
      [("textDocument/didOpen", [{}, { ending := some (.exited (some 1) none) }])] } } }
    owner := make { language := "py", command := .str "py-server" } "/w" {} 0.0 }

/-- The client is supervised, opens a document and is restarted; the new server ends when it is told of
the document. -/
def unheeded : Session Script.Servers Client :=
  followAll unheededBirth [.stimulus .start, .stimulus .startMonitor,
    .stimulus (.errand (.openDocument "a.py" "x" (.str "python"))), .stimulus .requestRestart,
    .wait 1010.0]

private theorem born_unheededBirth : Born unheededBirth :=
  .make ⟨nofun, List.nodup_nil⟩ nofun

private theorem run_unheeded : Course 1 unheededBirth unheeded :=
  course_followAll_of (by decide +kernel)

theorem exit_noticed_or_forgotten_of_unheeded :
    Born unheededBirth ∧ Course 1 unheededBirth unheeded ∧ Severed unheeded ∧
      unheeded.owner.state = .ready ∧ unheeded.owner.healthy = true ∧
      unheeded.owner.restartNeeded = false ∧ unheeded.owner.restarting = false ∧
      Forgotten unheededBirth unheeded :=
  have severed : Severed unheeded := ⟨by decide +kernel, by decide +kernel⟩
  have ready : unheeded.owner.state = .ready := by decide +kernel
  have known := (exit_noticed_or_forgotten born_unheededBirth run_unheeded).1 severed
    (by rw [ready]; exact nofun) (by rw [ready]; exact nofun)
  ⟨born_unheededBirth, run_unheeded, severed, ready, by decide +kernel, by decide +kernel,
    by decide +kernel, known.resolve_left fun noticed => noticed.1 ready⟩

end Scalpel.Client
