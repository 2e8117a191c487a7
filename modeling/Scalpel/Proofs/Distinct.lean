import Scalpel.Proofs.Undoing

/-!
At most one document is open for each uri, in every run of a client.
-/

set_option autoImplicit false

namespace Scalpel.Client

variable {σ : Type} {s after : Session σ Client}

def distinctly : Frame (Session σ Client) :=
  .invariant fun s => s.owner.documents.Distinct

section

variable [Peer σ]

theorem within_emit_distinctly (message : Json) :
    Within distinctly (Session.emit message : Action σ Client Unit) :=
  Session.within_emit (fun _ => id) fun _ _ => id

omit [Peer σ] in
theorem within_changeDocument_distinctly {send : String → Json → Action σ Client Unit}
    (carried : ∀ params, Within distinctly (send "textDocument/didChange" params)) (uri : String)
    (changes : List ContentChange) : Within distinctly (changeDocument send uri changes) := by
  intro s after outcome ended distinct
  cases ends_changeDocument ended with
  | refused _ => exact distinct
  | @sent _ _ documents mid _ _ updated sent =>
      have changed : documents.Distinct := Tracker.distinct_update distinct updated
      have told : mid.owner.documents.Distinct := carried _ sent changed
      rw [← (mild_touched mid.world.clock.now).documents mid.owner] at told
      exact told
  | undone _ updated _ unsent =>
      have changed := Tracker.distinct_update distinct updated
      exact Tracker.distinct_revert (carried _ unsent changed) _ _
  | unsent _ updated _ unsent =>
      have changed := Tracker.distinct_update distinct updated
      exact carried _ unsent changed

variable [Halves]

theorem routine_distinctly : Routine (distinctly (σ := σ)) fun _ => True where
  reply _ _ := within_emit_distinctly _
  update f s mild distinct := by
    change (f s.owner).documents.Distinct
    rw [mild.documents]
    exact distinct
  shut _ := id
  clock _ _ := id
  receive _ := id
  edit {s _ _ _ connection _ _} _ applied := by
    have received : distinctly.holds s { s with connection } := id
    have carried (params : Json) : Within distinctly
        (Session.notifyWithin "textDocument/didChange" params : Action σ Client Unit) :=
      within_bind (Session.within_needOpen _) fun _ => within_emit_distinctly _
    exact distinctly.trans received
      (within_applyServerEdit (within_changeDocument_distinctly carried) _ applied)
  emit _ := within_emit_distinctly _
  tend _ := id

theorem manners_distinctly : Manners (distinctly (σ := σ)) where
  tell _ params := routine_distinctly.dealings.within_tell (fitNotice _) params
  ask _ params timeout := routine_distinctly.dealings.within_request (fitRequest _) params timeout
  change uri changes := within_changeDocument_distinctly
    (routine_distinctly.dealings.within_notify (fitNotice _)) uri changes
  publish _ _ := within_modify fun _ => id
  put _ document distinct := Tracker.distinct_put distinct document

theorem within_errand_distinctly (errand : Errand) :
    Within distinctly (doErrand errand : Action σ Client Unit) :=
  manners_distinctly.within_errand
    (fun uri => within_modify fun _ distinct => Tracker.distinct_remove distinct uri) errand

theorem within_start_distinctly : Within distinctly (start : Action σ Client Json) := by
  refine routine_distinctly.sittings.within_start ⟨fitRequest _, fitNotice _⟩ ?_
  intro before s after outcome ended distinct
  rcases ends_launch ended with ⟨_, _, _, _, rfl⟩ | ⟨_, _, _, _, rfl⟩
  · exact distinct
  · exact distinct

theorem within_comeBack_distinctly : Within distinctly (comeBack : Action σ Client Unit) := by
  refine within_bind within_start_distinctly fun _ => ?_
  intro s after outcome ended distinct
  have reset : s.owner.documents.resetVersions.Distinct := by
    unfold Tracker.Distinct
    rw [Tracker.uris_resetVersions]
    exact distinct
  exact routine_distinctly.dealings.within_reopen (fitNotice _) _ _ (ends_replay_reopen ended) reset

theorem within_completeRestart_distinctly :
    Within distinctly (completeRestart : Action σ Client Unit) := by
  intro s after outcome ended distinct
  cases ends_completeRestart ended with
  | overtaken _ => exact distinct
  | @revived mid _ coming =>
      have kept : mid.owner.documents.Distinct := within_comeBack_distinctly coming distinct
      exact kept
  | @relapsed _ mid _ coming =>
      have kept : mid.owner.documents.Distinct := within_comeBack_distinctly coming distinct
      unfold relapsed
      split
      · exact kept
      · exact kept
  | broken _ _ coming => exact within_comeBack_distinctly coming distinct

theorem within_shutDown_distinctly : Within distinctly (shutDown : Action σ Client Unit) := by
  intro s after outcome ended distinct
  rcases ends_shutDown ended with ⟨_, _, rfl⟩ | ⟨_, settling⟩
  · exact distinct
  have left : Within distinctly (leave : Action σ Client Unit) :=
    routine_distinctly.dealings.within_leave ⟨fitRequest _, fitNotice _⟩
      routine_distinctly.within_close
  have cleared : Within distinctly (update fun c => { c with documents := {}, diagnostics := [] } :
      Action σ Client Unit) :=
    within_modify fun _ _ => List.nodup_nil
  have settled : Within distinctly (settleUp s.owner.attached : Action σ Client Unit) :=
    within_ite (within_bind left fun _ => cleared) cleared
  exact settled settling distinct

theorem Happens.distinct {event : Event} {outcome : Outcome Unit}
    (step : Happens event s outcome after) : distinctly.holds s after := by
  have checks := routine_distinctly (σ := σ).within_checkHealth ⟨fitRequest _, fitNotice _⟩
  cases step with
  | @stimulus stimulus _ _ _ ended =>
      cases stimulus with
      | errand errand => exact within_errand_distinctly errand ended
      | start => exact within_bind within_start_distinctly (fun _ => within_pure ()) ended
      | shutDown => exact within_shutDown_distinctly ended
      | requestRestart =>
          have asked := routine_distinctly (σ := σ).within_requestRestart
            ⟨fitRequest _, fitNotice _⟩
          exact within_bind asked (fun _ => within_pure ()) ended
      | checkHealth => exact checks ended
      | markDegraded =>
          obtain ⟨_, rfl⟩ := ends_update.mp ended
          refine routine_distinctly.update (·.markedDegraded) s ⟨fun c => ?_, fun c => ?_⟩
          all_goals
            unfold markedDegraded
            split <;> rfl
      | startMonitor => exact routine_distinctly.within_startMonitor ended
      | stopMonitor =>
          rcases (ends_stopMonitor ended).2 with ⟨_, rfl⟩ | ⟨_, _, rfl⟩
          · exact id
          · exact id
      | listen =>
          obtain ⟨_, rfl⟩ := ends_update.mp ended
          exact id
      | arrive arrivals =>
          have inside : Within distinctly
              (Session.arrive handlers arrivals : Action σ Client Unit) :=
            within_bind (within_modify fun _ => id) fun _ =>
              routine_distinctly.intake.within_drain
          exact inside ended
      | serverEnds closure =>
          have inside : Within distinctly
              (Session.arriveEnd handlers closure : Action σ Client Unit) :=
            within_bind (within_modify fun _ => id) fun _ =>
              routine_distinctly.intake.within_drain
          exact inside ended
      | formerEnds closure => exact routine_distinctly.within_ended closure ended
  | @due job _ _ _ clock _ _ performed =>
      have ticked : distinctly.holds s (moved clock s) := id
      refine distinctly.trans ticked ?_
      cases job with
      | healthCheck => exact checks performed
      | restart => exact within_completeRestart_distinctly performed
  | elsewhere _ => exact id

theorem Course.distinct {grants : Nat} {first last : Session σ Client}
    (run : Course grants first last) (born : Born first) : last.owner.documents.Distinct := by
  induction run with
  | refl first =>
      obtain ⟨_, _⟩ := born
      exact List.nodup_nil
  | step _ step ih => exact step.distinct (ih born)

end

end Scalpel.Client
