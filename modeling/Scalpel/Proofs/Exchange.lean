import Scalpel.Proofs.Effect

/-!
What holds across an exchange of messages. A message that is sent has one of three fates. Handling
what has arrived never fails, and it stays within a frame if the handling of each arrival does.
-/

set_option autoImplicit false

namespace Scalpel

namespace Session

variable {σ ω α β : Type} {s after : Session σ ω} {F : Frame (Session σ ω)}

/-! ### Small operations -/

theorem ends_raise {p : Problem} {outcome : Outcome α} :
    Ends (raise p : Action σ ω α) s outcome after ↔ outcome = .error (.problem p) ∧ after = s :=
  ends_throw

theorem ends_settle {result outcome : Outcome α} :
    Ends (settle result : Action σ ω α) s outcome after ↔ outcome = result ∧ after = s := by
  cases result with
  | ok value => exact ends_pure
  | error failure => exact ends_throw

theorem ends_attempt {action : Action σ ω α} {outcome : Outcome (Outcome α)} :
    Ends (attempt action) s outcome after ↔
      ∃ reached, outcome = .ok reached ∧ Ends action s reached after := by
  change (Except.ok (action.run s).1, (action.run s).2) = (outcome, after) ↔ _
  unfold Ends
  rcases action.run s with ⟨reached, mid⟩
  constructor
  · intro same
    cases same
    exact ⟨reached, rfl, rfl⟩
  · rintro ⟨_, rfl, same⟩
    cases same
    rfl

theorem ends_quietly {action : Action σ ω α} {outcome : Outcome Unit} :
    Ends (quietly action) s outcome after ↔
      outcome = .ok () ∧ ∃ reached, Ends action s reached after := by
  unfold quietly
  rw [ends_bind]
  constructor
  · rintro (⟨value, mid, tried, done⟩ | ⟨failure, _, failed⟩)
    · obtain ⟨reached, _, ended⟩ := ends_attempt.mp tried
      obtain ⟨rfl, rfl⟩ := ends_pure.mp done
      exact ⟨rfl, reached, ended⟩
    · obtain ⟨_, impossible, _⟩ := ends_attempt.mp failed
      cases impossible
  · rintro ⟨rfl, reached, ended⟩
    exact .inl ⟨reached, after, ends_attempt.mpr ⟨reached, rfl, ended⟩, ends_pure.mpr ⟨rfl, rfl⟩⟩

theorem ends_modifyConnection {f : Connection → Connection} {outcome : Outcome Unit} :
    Ends (modifyConnection f : Action σ ω Unit) s outcome after ↔
      outcome = .ok () ∧ after = { s with connection := f s.connection } :=
  ends_modify

theorem ends_modifyWorld {f : World σ → World σ} {outcome : Outcome Unit} :
    Ends (modifyWorld f : Action σ ω Unit) s outcome after ↔
      outcome = .ok () ∧ after = { s with world := f s.world } :=
  ends_modify

theorem ends_needOpen_bind {method : String} {next : Unit → Action σ ω α} {outcome : Outcome α} :
    Ends (needOpen method >>= next) s outcome after ↔
      (outcome = .error (.problem (.closedBefore method)) ∧ after = s ∧
          s.connection.closed = true) ∨
        (s.connection.closed = false ∧ Ends (next ()) s outcome after) := by
  have opened {reached : Outcome Unit} {mid : Session σ ω} :
      Ends (needOpen method : Action σ ω Unit) s reached mid ↔
        Ends (if s.connection.closed then raise (.closedBefore method) else pure () :
          Action σ ω Unit) s reached mid :=
    ends_get_bind
  rw [ends_bind]
  simp only [opened]
  cases s.connection.closed with
  | true =>
      constructor
      · rintro (⟨_, _, first, _⟩ | ⟨_, rfl, first⟩)
        · cases (ends_raise.mp first).1
        · obtain ⟨same, rfl⟩ := ends_raise.mp first
          cases same
          exact .inl ⟨rfl, rfl, rfl⟩
      · rintro (⟨rfl, rfl, _⟩ | ⟨impossible, _⟩)
        · exact .inr ⟨_, rfl, ends_raise.mpr ⟨rfl, rfl⟩⟩
        · cases impossible
  | false =>
      constructor
      · rintro (⟨_, _, first, rest⟩ | ⟨_, _, first⟩)
        · obtain ⟨_, rfl⟩ := ends_pure.mp first
          exact .inr ⟨rfl, rest⟩
        · cases (ends_pure.mp first).1
      · rintro (⟨_, _, impossible⟩ | ⟨_, rest⟩)
        · cases impossible
        · exact .inl ⟨(), s, ends_pure.mpr ⟨rfl, rfl⟩, rest⟩

private theorem waitingTime_ne_problem {timeout : Json} {p : Problem} :
    waitingTime timeout ≠ .error (.problem p) := by
  intro failed
  cases timeout with
  | null => cases failed
  | int n =>
      change (if _ then _ else (Json.int n).number) = _ at failed
      split at failed
      · cases failed
      · change (if (Decimal.ofWhole n).isInf = true then _ else _) = _ at failed
        split at failed <;> cases failed
  | bool value =>
      change (if _ then _ else _) = _ at failed
      split at failed <;> cases failed
  | float value =>
      change (if _ then _ else _) = _ at failed
      split at failed <;> cases failed
  | str text => cases failed
  | arr items => cases failed
  | obj fields => cases failed

inductive Awaited (number : Int) (method : String) (timeout : Json) (s : Session σ ω) :
    Outcome Json → Session σ ω → Prop
  | fetched {outcome : Outcome Json} : s.connection.outcomes.lookup number = some outcome →
    Awaited number method timeout s outcome { s with connection := (s.connection.fetch number).2 }
  | late {seconds} : s.connection.outcomes.lookup number = none →
    waitingTime timeout = .ok seconds →
    Awaited number method timeout s (.error (.problem (.requestTimeout method seconds)))
      { s with connection := (s.connection.fetch number).2.forget number }
  | endless {failure} : s.connection.outcomes.lookup number = none →
    waitingTime timeout = .error failure →
    Awaited number method timeout s (.error failure)
      { s with connection := (s.connection.fetch number).2 }

theorem awaited_of_ends {number : Int} {method : String} {timeout : Json} {outcome : Outcome Json}
    (ended : Ends (await number method timeout) s outcome after) :
    Awaited number method timeout s outcome after := by
  rcases ends_bind.mp (ends_get_bind.mp ended) with ⟨_, _, fetched, settled⟩ | ⟨_, _, failed⟩
  · obtain ⟨_, rfl⟩ := ends_modifyConnection.mp fetched
    split at settled
    · next found known =>
      obtain ⟨rfl, rfl⟩ := ends_settle.mp settled
      exact .fetched known
    · next unknown =>
      rcases ends_bind.mp settled with ⟨_, _, waited, late⟩ | ⟨failure, rfl, waited⟩
      · obtain ⟨known, rfl⟩ := ends_settle.mp waited
        rcases ends_bind.mp late with ⟨_, _, forgotten, raised⟩ | ⟨_, _, failed⟩
        · obtain ⟨_, rfl⟩ := ends_modifyConnection.mp forgotten
          obtain ⟨rfl, rfl⟩ := ends_raise.mp raised
          exact .late unknown known.symm
        · cases (ends_modifyConnection.mp failed).1
      · obtain ⟨same, rfl⟩ := ends_settle.mp waited
        exact .endless unknown same.symm
  · cases (ends_modifyConnection.mp failed).1

/-- The outcome of a request that was sent is what the connection holds for it, or the failure of
waiting any longer. -/
theorem ends_await {number : Int} {method : String} {timeout : Json} {outcome : Outcome Json}
    (ended : Ends (await number method timeout) s outcome after) :
    (s.connection.outcomes.lookup number = some outcome ∧
        after = { s with connection := (s.connection.fetch number).2 }) ∨
      (s.connection.outcomes.lookup number = none ∧ ∃ failure, outcome = .error failure ∧
        (∀ p, failure = .problem p → p.kind = .requestTimeout) ∧
        (after = { s with connection := (s.connection.fetch number).2 } ∨
          after = { s with connection := (s.connection.fetch number).2.forget number })) := by
  cases awaited_of_ends ended with
  | fetched found => exact .inl ⟨found, rfl⟩
  | late unknown _ =>
      exact .inr ⟨unknown, _, rfl, fun _ same => by cases same; rfl, .inr rfl⟩
  | endless unknown waited =>
      refine .inr ⟨unknown, _, rfl, fun p problem => ?_, .inl rfl⟩
      subst problem
      exact absurd waited waitingTime_ne_problem

theorem within_raise (p : Problem) : Within F (raise p : Action σ ω α) :=
  within_throw _

theorem within_settle (result : Outcome α) : Within F (settle result : Action σ ω α) := by
  cases result with
  | ok value => exact within_pure value
  | error failure => exact within_throw failure

theorem within_attempt {action : Action σ ω α} (inside : Within F action) :
    Within F (attempt action) := by
  intro s after outcome ended
  obtain ⟨reached, _, done⟩ := ends_attempt.mp ended
  exact inside done

theorem within_needOpen (method : String) : Within F (needOpen method : Action σ ω Unit) :=
  within_bind within_get fun _ => within_ite (within_raise _) (within_pure ())

theorem within_quietly {action : Action σ ω α} (inside : Within F action) :
    Within F (quietly action) :=
  within_bind (within_attempt inside) fun _ => within_pure _

end Session

def World.reaction {σ : Type} [Peer σ] (world : World σ) (language : String) (message : Json) :
    Reaction :=
  (Peer.react language message world.files world.server).1

def World.told {σ : Type} [Peer σ] (world : World σ) (language : String) (message : Json) : World σ :=
  { world with
    server := (Peer.react language message world.files world.server).2
    files := (world.reaction language message).files
    sent := (language, message) :: world.sent }

namespace Session

variable {σ ω α β : Type} [Peer σ] {s after : Session σ ω} {F : Frame (Session σ ω)}

/-! ### The fate of a message -/

/-- A message is not sent on a closed transport; else the server refuses it, or it takes it and what
it sends is queued. -/
theorem ends_emit {message : Json} {outcome : Outcome Unit} :
    Ends (emit message : Action σ ω Unit) s outcome after ↔
      (s.connection.transportClosed = true ∧ after = s ∧
        outcome = .error (.problem (.closed
          ("Transport to " ++ s.connection.name ++ " is closed")))) ∨
      (s.connection.transportClosed = false ∧ ∃ failure,
        (s.world.reaction s.connection.language message).refusal = some failure ∧
        after = { s with world := s.world.told s.connection.language message } ∧
        outcome = .error failure) ∨
      (s.connection.transportClosed = false ∧
        (s.world.reaction s.connection.language message).refusal = none ∧
        after = { s with
          world := s.world.told s.connection.language message
          connection := s.connection.deliver
            (s.world.reaction s.connection.language message).arrivals } ∧
        outcome = .ok ()) := by
  unfold emit
  rw [ends_get_bind]
  by_cases shut : s.connection.transportClosed = true
  · rw [if_pos shut, ends_raise]
    simp only [shut, true_and, Bool.true_eq_false, false_and, or_false]
    exact And.comm
  · rw [if_neg shut]
    have unshut : s.connection.transportClosed = false := Bool.eq_false_iff.mpr shut
    simp only [unshut, Bool.false_eq_true, false_and, true_and, false_or]
    cases reacted :
      (Peer.react s.connection.language message s.world.files s.world.server).1.refusal with
    | some failure =>
        have refused : (s.world.reaction s.connection.language message).refusal = some failure :=
          reacted
        simp only [refused, Option.some.injEq, reduceCtorEq, false_and, or_false, exists_eq_left']
        rw [ends_bind]
        constructor
        · rintro (⟨_, mid, first, done⟩ | ⟨_, _, failed⟩)
          · obtain ⟨_, rfl⟩ := ends_set.mp first
            obtain ⟨rfl, rfl⟩ := ends_settle.mp done
            exact ⟨rfl, rfl⟩
          · cases (ends_set.mp failed).1
        · rintro ⟨rfl, rfl⟩
          exact .inl ⟨⟨⟩, _, ends_set.mpr ⟨rfl, rfl⟩, ends_settle.mpr ⟨rfl, rfl⟩⟩
    | none =>
        have taken : (s.world.reaction s.connection.language message).refusal = none := reacted
        rw [ends_set, taken]
        constructor
        · rintro ⟨rfl, rfl⟩
          exact .inr ⟨rfl, rfl, rfl⟩
        · rintro (⟨_, impossible, _⟩ | ⟨_, rfl, rfl⟩)
          · cases impossible
          · exact ⟨rfl, rfl⟩

/-- A message is sent within a frame that takes in what the server is told and what it sends back. -/
theorem within_emit {message : Json}
    (told : ∀ s : Session σ ω, F.holds s
      { s with world := s.world.told s.connection.language message })
    (delivered : ∀ (s : Session σ ω) arrivals, F.holds s
      { s with connection := s.connection.deliver arrivals }) :
    Within F (emit message : Action σ ω Unit) := by
  intro s after outcome ended
  rcases ends_emit.mp ended with ⟨_, rfl, _⟩ | ⟨_, _, _, rfl, _⟩ | ⟨_, _, rfl, _⟩
  · exact F.refl _
  · exact told s
  · exact F.trans (told s) (delivered _ _)

/-! ### Handling what arrived -/

variable [Halves]

theorem handle_ok {h : Handlers σ ω} {arrival : Arrival} {outcome : Outcome Unit}
    (ended : Ends (handle h arrival) s outcome after) : outcome = .ok () := by
  cases arrival with
  | settled => exact (ends_pure.mp ended).1
  | notification method params => exact (ends_quietly.mp ended).1
  | question id method params =>
      unfold handle at ended
      rcases ends_bind.mp ended with ⟨_, _, _, done⟩ | ⟨_, _, failed⟩
      · exact (ends_quietly.mp done).1
      · obtain ⟨_, impossible, _⟩ := ends_attempt.mp failed
        cases impossible
  | ended closure => exact (ends_quietly.mp ended).1

theorem ends_drainUpTo_succ {h : Handlers σ ω} {budget : Nat} {outcome : Outcome Unit} :
    Ends (drainUpTo h (budget + 1)) s outcome after ↔
      (s.connection.receive? = none ∧ outcome = .ok () ∧ after = s) ∨
      ∃ arrival connection mid, s.connection.receive? = some (arrival, connection) ∧
        Ends (handle h arrival) { s with connection } (.ok ()) mid ∧
        Ends (drainUpTo h budget) mid outcome after := by
  rw [drainUpTo, ends_get_bind]
  cases arrived : s.connection.receive? with
  | none => simp [ends_pure]
  | some first =>
      obtain ⟨arrival, connection⟩ := first
      simp only [reduceCtorEq, false_and, Option.some.injEq, Prod.mk.injEq, false_or]
      constructor
      · intro ended
        rcases ends_bind.mp ended with ⟨_, _, placed, rest⟩ | ⟨_, _, failed⟩
        · obtain ⟨_, rfl⟩ := ends_set.mp placed
          rcases ends_bind.mp rest with ⟨_, mid, handled, done⟩ | ⟨_, _, failed⟩
          · exact ⟨arrival, connection, mid, ⟨rfl, rfl⟩, handled, done⟩
          · cases handle_ok failed
        · cases (ends_set.mp failed).1
      · rintro ⟨_, _, mid, ⟨rfl, rfl⟩, handled, done⟩
        refine ends_bind.mpr (.inl ⟨⟨⟩, _, ends_set.mpr ⟨rfl, rfl⟩, ?_⟩)
        exact ends_bind.mpr (.inl ⟨_, mid, handled, done⟩)

theorem drainUpTo_ok {h : Handlers σ ω} {budget : Nat} {outcome : Outcome Unit}
    (ended : Ends (drainUpTo h budget) s outcome after) : outcome = .ok () := by
  induction budget generalizing s with
  | zero => exact (ends_pure.mp ended).1
  | succ budget ih =>
      rcases ends_drainUpTo_succ.mp ended with ⟨_, done, _⟩ | ⟨_, _, _, _, _, rest⟩
      · exact done
      · exact ih rest

theorem ends_drain {h : Handlers σ ω} {outcome : Outcome Unit} :
    Ends (drain h) s outcome after ↔ Ends (drainUpTo h s.world.budget) s outcome after :=
  ends_get_bind

theorem drain_ok {h : Handlers σ ω} {outcome : Outcome Unit}
    (ended : Ends (drain h) s outcome after) : outcome = .ok () :=
  drainUpTo_ok (ends_drain.mp ended)

/-- Handling all that has arrived stays within a frame if each arrival leads within it, from the state
in which it still waits to the state in which it has been handled. -/
theorem within_drain {h : Handlers σ ω}
    (each : ∀ {s mid : Session σ ω} {arrival : Arrival} {connection : Connection},
      s.connection.receive? = some (arrival, connection) →
      Ends (handle h arrival) { s with connection } (.ok ()) mid → F.holds s mid) :
    Within F (drain h) := by
  have steps (budget : Nat) : Within F (drainUpTo h budget) := by
    induction budget with
    | zero => exact within_pure ()
    | succ budget ih =>
        intro s after outcome ended
        rcases ends_drainUpTo_succ.mp ended with ⟨_, _, rfl⟩ | ⟨_, _, _, arrived, handled, rest⟩
        · exact F.refl _
        · exact F.trans (each arrived handled) (ih rest)
  intro s after outcome ended
  exact steps _ (ends_drain.mp ended)

theorem ends_close {h : Handlers σ ω} {outcome : Outcome Unit}
    (ended : Ends (close h) s outcome after) :
    outcome = .ok () ∧ ∃ mid : Session σ ω, after = { mid with
      connection := mid.connection.finish } := by
  rcases ends_bind.mp ended with ⟨_, _, _, draining⟩ | ⟨_, _, failed⟩
  · rcases ends_bind.mp draining with ⟨_, mid, _, finishing⟩ | ⟨_, _, failed⟩
    · obtain ⟨rfl, rfl⟩ := ends_modifyConnection.mp finishing
      exact ⟨rfl, mid, rfl⟩
    · cases drain_ok failed
  · cases (ends_modifyConnection.mp failed).1

/-! ### Requests -/

inductive Posed (h : Handlers σ ω) (method : String) (params : Json) (s : Session σ ω) :
    Outcome Int → Session σ ω → Prop
  | closed : Posed h method params s (.error (.problem (.closedBefore method))) s
  | unsent {mid failure} : s.connection.closed = false →
    Ends (emit (Connection.requestMessage s.connection.nextId method params))
      { s with connection := (s.connection.register method).2 } (.error failure) mid →
    Posed h method params s (.error failure)
      { mid with connection := mid.connection.forget s.connection.nextId }
  | sent {mid after} : s.connection.closed = false →
    Ends (emit (Connection.requestMessage s.connection.nextId method params))
      { s with connection := (s.connection.register method).2 } (.ok ()) mid →
    Ends (drain h) mid (.ok ()) after → Posed h method params s (.ok s.connection.nextId) after

theorem ends_pose {h : Handlers σ ω} {method : String} {params : Json} {outcome : Outcome Int}
    (ended : Ends (pose h method params) s outcome after) :
    Posed h method params s outcome after := by
  rcases ends_needOpen_bind.mp ended with ⟨rfl, rfl, _⟩ | ⟨opened, registering⟩
  · exact .closed
  rcases ends_bind.mp (ends_get_bind.mp registering) with ⟨_, _, changed, sending⟩ | ⟨_, _, failed⟩
  · obtain ⟨_, rfl⟩ := ends_modifyConnection.mp changed
    rcases ends_bind.mp sending with ⟨tried, mid, trying, settled⟩ | ⟨_, _, failed⟩
    · obtain ⟨_, same, emitted⟩ := ends_attempt.mp trying
      cases same
      cases tried with
      | ok value =>
          rcases ends_bind.mp settled with ⟨_, _, drained, done⟩ | ⟨_, _, failed⟩
          · obtain ⟨rfl, rfl⟩ := ends_pure.mp done
            exact .sent opened emitted drained
          · cases drain_ok failed
      | error failure =>
          rcases ends_bind.mp settled with ⟨_, _, forgotten, thrown⟩ | ⟨_, _, failed⟩
          · obtain ⟨_, rfl⟩ := ends_modifyConnection.mp forgotten
            obtain ⟨rfl, rfl⟩ := ends_throw.mp thrown
            exact .unsent opened emitted
          · cases (ends_modifyConnection.mp failed).1
    · obtain ⟨_, impossible, _⟩ := ends_attempt.mp failed
      cases impossible
  · cases (ends_modifyConnection.mp failed).1

end Session

end Scalpel
