import Scalpel.Proofs.Attention

/-!
How the state of a client changes. A client heals or is degraded, gives up its session for a restart, or
is on the way to a session; everything else that happens leaves its state and its session alone, unless
it is told to shut down. So what survives these few changes survives whatever happens.
-/

set_option autoImplicit false

namespace Scalpel.Client

variable {σ : Type} {s mid after : Session σ Client} {F : Frame (Session σ Client)}

/-- A frame is about the state of a client and its session, and takes in the ways in which these change
while the client is not told to shut down. -/
structure Phased (F : Frame (Session σ Client)) : Prop where
  aside : ∀ {s after : Session σ Client}, after.owner.state = s.owner.state →
    after.owner.attached = s.owner.attached → F.holds s after
  serving : ∀ {s after : Session σ Client},
    after.owner.state = .ready ∨ after.owner.state = .degraded → F.holds s after
  paused : ∀ {s after : Session σ Client}, after.owner.state = .restarting →
    after.owner.attached = false → F.holds s after
  underway : ∀ {s after : Session σ Client},
    s.owner.state = .uninitialized ∨ s.owner.state = .restarting →
    after.owner.state = .initializing → after.owner.attached = s.owner.attached → F.holds s after

namespace Phased

variable (phased : Phased F)

include phased

/-! ### Exchanges -/

theorem within_touch : Within F (touch : Action σ Client Unit) := by
  intro s after outcome ended
  obtain ⟨_, rfl⟩ := ends_touch.mp ended
  unfold touchedNow touched
  split
  · exact phased.serving (.inl rfl)
  · exact phased.aside rfl rfl

theorem within_emit [Peer σ] (message : Json) :
    Within F (Session.emit message : Action σ Client Unit) :=
  Session.within_emit (fun _ => phased.aside rfl rfl) fun _ _ => phased.aside rfl rfl

theorem within_beginRestart {leave : Action σ Client Unit} (left : Within F leave) :
    Within F (beginRestart leave) := by
  intro s after outcome ended
  have given : F.holds s (givenUp s) := phased.paused rfl rfl
  have gone {mid : Session σ Client} (quit : Left leave s mid) : F.holds s mid := by
    cases quit with
    | left _ gone => exact F.trans given (left gone)
    | nothing _ => exact given
  cases ends_beginRestart ended with
  | declined _ => exact F.refl _
  | unfinished _ _ failed => exact F.trans given (left failed)
  | untimed _ quit _ => exact gone quit
  | begun _ quit _ => exact F.trans (gone quit) (phased.aside rfl rfl)

theorem within_ended (closure : Closure) : Within F (Client.ended closure : Action σ Client Unit) := by
  have closing : Within F (Session.closeWithin : Action σ Client Unit) :=
    within_modify fun _ => phased.aside rfl rfl
  have hearing (listener : Listener) : Within F (hear listener : Action σ Client Unit) := by
    cases listener with
    | monitor =>
        refine within_bind within_current fun c => within_ite ?_ (within_pure ())
        exact within_bind (phased.within_beginRestart closing) fun _ => within_pure ()
    | observer => exact within_modify fun _ => phased.aside rfl rfl
  intro s after outcome ended
  cases ends_ended ended with
  | unheeded _ => exact phased.aside rfl rfl
  | restarting _ _ => exact phased.aside rfl rfl
  | noticed _ _ told =>
      have alarm : F.holds s (alarmed closure s) := phased.serving (.inr rfl)
      exact F.trans alarm (within_doEach (fun listener _ => hearing listener) told)

theorem holds_marked (s : Session σ Client) :
    F.holds s { s with owner := s.owner.markedDegraded } := by
  unfold markedDegraded
  split
  · exact phased.serving (.inr rfl)
  · exact F.refl s

variable [Halves] [Peer σ]

theorem running : Running F where
  reply _ _ := phased.within_emit _
  touch := phased.within_touch
  publish _ _ := within_modify fun _ => phased.aside rfl rfl
  receive _ _ := phased.aside rfl rfl
  edit {s _ _ _ connection _ _} _ applied := by
    have roomy : Roomy F := fun _ _ _ => phased.aside rfl rfl
    have received : F.holds s { s with connection } := phased.aside rfl rfl
    exact F.trans received
      (roomy.within_applyServerEdit phased.within_touch phased.within_emit _ applied)
  lose {s _ _ connection _} _ lost := by
    have received : F.holds s { s with connection } := phased.aside rfl rfl
    exact F.trans received (phased.within_ended _ lost)
  emit _ := phased.within_emit _
  file _ := phased.aside rfl rfl
  roomy _ _ _ := phased.aside rfl rfl
  drop _ := within_modify fun _ => phased.aside rfl rfl

/-! ### Sessions -/

theorem within_requestRestart : Within F (requestRestart : Action σ Client Bool) := by
  have closed : Within F (Session.close (handlers (σ := σ))) :=
    within_bind (within_modify fun _ => phased.aside rfl rfl) fun _ =>
      within_bind phased.running.within_drain fun _ => within_modify fun _ => phased.aside rfl rfl
  exact phased.within_beginRestart
    (phased.running.toDealings.within_leave ⟨fitRequest _, fitNotice _⟩ closed)

theorem within_checkHealth : Within F (checkHealth : Action σ Client Unit) := by
  intro s after outcome ended
  cases ends_checkHealth ended with
  | idle _ => exact F.refl _
  | restarted _ _ _ _ requested _ => exact phased.within_requestRestart requested
  | marked _ _ => exact phased.holds_marked s

theorem within_start : Within F (start : Action σ Client Json) := by
  intro s after outcome ended
  by_cases fresh : s.owner.state = .uninitialized ∨ s.owner.state = .restarting
  · cases ends_start_began fresh ended with
    | @unlaunched failure _ =>
        cases failure with
        | problem _ => exact phased.aside rfl rfl
        | _ => exact phased.underway fresh rfl rfl
    | refused frozen => exact phased.aside rfl frozen.attached
    | stuck frozen => exact phased.underway fresh frozen.state frozen.attached
    | begun _ _ => exact phased.serving (.inl rfl)
  · rw [not_or] at fresh
    rw [eq_of_start fresh.1 fresh.2 ended]
    exact F.refl s

theorem within_completeRestart : Within F (completeRestart : Action σ Client Unit) := by
  have coming : Within F (comeBack : Action σ Client Unit) :=
    within_bind phased.within_start fun _ => phased.running.toKeeping.within_replay
  intro s after outcome ended
  have opening : F.holds s (unbooked s) := phased.aside rfl rfl
  cases ends_completeRestart ended with
  | overtaken _ => exact phased.aside rfl rfl
  | revived _ came => exact F.trans opening (F.trans (coming came) (phased.aside rfl rfl))
  | relapsed _ came =>
      apply F.trans opening (F.trans (coming came) _)
      unfold relapsed
      dsimp only
      split
      · exact phased.aside rfl rfl
      · exact phased.serving (.inr rfl)
  | broken _ _ came => exact F.trans opening (coming came)

end Phased

variable [Halves] [Peer σ]

/-- Whatever happens to a client that is not told to shut down stays within a frame that takes in the
ways in which its state changes. -/
theorem Happens.phased {event : Event} {outcome : Outcome Unit}
    (step : Happens event s outcome after) (phased : Phased F)
    (other : event ≠ .stimulus .shutDown) : F.holds s after := by
  cases step with
  | @stimulus stimulus _ _ _ ended =>
      cases stimulus with
      | errand errand => exact phased.running.within_errand errand ended
      | start =>
          obtain ⟨_, started, _⟩ := ends_ignoring ended
          exact phased.within_start started
      | shutDown => exact absurd rfl other
      | requestRestart =>
          obtain ⟨_, requested, _⟩ := ends_ignoring ended
          exact phased.within_requestRestart requested
      | checkHealth => exact phased.within_checkHealth ended
      | markDegraded =>
          obtain ⟨_, rfl⟩ := ends_update.mp ended
          exact phased.holds_marked s
      | startMonitor =>
          cases ends_startMonitor ended with
          | running _ => exact phased.aside rfl rfl
          | untimed _ => exact phased.aside rfl rfl
          | started _ => exact phased.aside rfl rfl
      | stopMonitor =>
          rcases (ends_stopMonitor ended).2 with ⟨_, rfl⟩ | ⟨_, _, rfl⟩
          · exact phased.aside rfl rfl
          · exact phased.aside rfl rfl
      | listen =>
          obtain ⟨_, rfl⟩ := ends_update.mp ended
          exact phased.aside rfl rfl
      | arrive arrivals =>
          have inside : Within F (Session.arrive handlers arrivals : Action σ Client Unit) :=
            within_bind (within_modify fun _ => phased.aside rfl rfl) fun _ =>
              phased.running.within_drain
          exact inside ended
      | serverEnds closure =>
          have inside : Within F (Session.arriveEnd handlers closure : Action σ Client Unit) :=
            within_bind (within_modify fun _ => phased.aside rfl rfl) fun _ =>
              phased.running.within_drain
          exact inside ended
      | formerEnds closure => exact phased.within_ended closure ended
  | @due job _ _ _ clock _ _ performed =>
      have moving : F.holds s (moved clock s) := phased.aside rfl rfl
      apply F.trans moving
      cases job with
      | healthCheck => exact phased.within_checkHealth performed
      | restart => exact phased.within_completeRestart performed
  | elsewhere _ => exact phased.aside rfl rfl

end Scalpel.Client
