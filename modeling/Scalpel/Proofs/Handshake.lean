import Scalpel.Proofs.Retirement

/-!
How a client is left that could not be brought to life. A failure up to the server's answer puts it
back: it is in the state that it was in, it has no session, and the transport of the new server is
closed. What can fail behind that answer is not looked after. The client then stays on the way, where
it can never be brought to life again, or it is ready although its caller was told of a failure.
-/

set_option autoImplicit false

namespace Scalpel.Client

variable {σ : Type} {s mid after : Session σ Client}

/-! ### Sessions of clients that are alive -/

def Dormant (s : Session σ Client) : Prop :=
  s.owner.state = .uninitialized ∨ s.owner.state = .restarting

def Seated (s : Session σ Client) : Prop :=
  s.owner.attached = true → s.owner.state = .ready ∨ s.owner.state = .degraded

def seated : Frame (Session σ Client) :=
  .invariant Seated

theorem Seated.detached (seat : Seated s) (ready : s.owner.state ≠ .ready)
    (degraded : s.owner.state ≠ .degraded) : s.owner.attached = false := by
  by_contra attached
  rcases seat (Bool.of_not_eq_false attached) with state | state
  · exact ready state
  · exact degraded state

theorem Seated.detached_of_dormant (seat : Seated s) (dormant : Dormant s) :
    s.owner.attached = false := by
  apply seat.detached
  · rcases dormant with state | state <;> rw [state] <;> exact nofun
  · rcases dormant with state | state <;> rw [state] <;> exact nofun

theorem phased_seated : Phased (seated : Frame (Session σ Client)) where
  aside state attached seat := by
    unfold Seated
    rw [state, attached]
    exact seat
  serving serving _ _ := serving
  paused _ detached _ attached := by cases detached.symm.trans attached
  underway fresh _ same seat attached := by
    have detached := seat.detached_of_dormant fresh
    cases (same.trans detached).symm.trans attached

section

variable [Halves] [Peer σ]

theorem Happens.seated {event : Event} {outcome : Outcome Unit}
    (step : Happens event s outcome after) : Client.seated.holds s after := by
  by_cases told : event = .stimulus .shutDown
  · subst told
    cases step with
    | stimulus ended =>
        by_cases there : s.owner.state = .shutDown
        · rcases ends_shutDown ended with ⟨_, _, rfl⟩ | ⟨other, _⟩
          · exact Client.seated.refl _
          · exact absurd there other
        · intro _ attached
          cases ends_shutDown_alive there ended with
          | done frozen => cases frozen.attached.symm.trans attached
          | brokenOff _ frozen => cases frozen.attached.symm.trans attached
  · exact step.phased phased_seated told

theorem Course.seated {grants : Nat} {first last : Session σ Client}
    (run : Course grants first last) (born : Born first) : Seated last := by
  induction run with
  | refl first =>
      obtain ⟨_, _⟩ := born
      exact nofun
  | step _ step ih => exact step.seated (ih born)

/-! ### Closed transports -/

def hushed : Frame (Session σ Client) :=
  .invariant fun s => s.connection.transportClosed = true

theorem upkeep_hushed : Upkeep (hushed : Frame (Session σ Client)) := by
  apply upkeep_of_connection
  · intro a b same shut
    rw [same]
    exact shut
  · intro message s after outcome ended shut
    rcases Session.ends_emit.mp ended with ⟨_, rfl, _⟩ | ⟨unshut, _⟩ | ⟨unshut, _⟩
    · exact shut
    · cases shut.symm.trans unshut
    · cases shut.symm.trans unshut
  · intro s _
    exact Connection.transportClosed_hangUp s.connection
  · intro s arrival connection arrived shut
    exact (Connection.transportClosed_receive arrived).trans shut

def HungUp (s : Session σ Client) : Prop :=
  s.connection.closed = true ∧ s.connection.transportClosed = true

theorem hungUp_of_close {outcome : Outcome Unit}
    (closing : Ends (Session.close handlers) s outcome after) : HungUp after := by
  rcases ends_bind.mp closing with ⟨_, _, hanging, rest⟩ | ⟨_, _, failed⟩
  · obtain ⟨_, rfl⟩ := Session.ends_modifyConnection.mp hanging
    rcases ends_bind.mp rest with ⟨_, mid, draining, finishing⟩ | ⟨_, _, failed⟩
    · obtain ⟨_, rfl⟩ := Session.ends_modifyConnection.mp finishing
      have hung := upkeep_hushed.intake.within_drain draining
        (Connection.transportClosed_hangUp s.connection)
      exact ⟨rfl, hung⟩
    · cases Session.drain_ok failed
  · cases (Session.ends_modifyConnection.mp failed).1

theorem hungUp_of_failHandshake {α : Type} {before : ClientState} {problem : Problem}
    {outcome : Outcome α} (failed : Ends (failHandshake before problem) s outcome after) :
    HungUp after := by
  rcases ends_bind.mp failed with ⟨_, mid, closing, moving⟩ | ⟨_, _, unclosed⟩
  · obtain ⟨_, rfl⟩ := Session.ends_raise.mp (ends_update_bind.mp moving)
    have shut : HungUp mid := hungUp_of_close closing
    exact shut
  · cases (Session.ends_close unclosed).1

theorem hungUp_of_shakeHands {before : ClientState} {problem : Problem}
    (failed : Ends (shakeHands before) s (.error (.problem problem)) after) : HungUp after := by
  rcases ends_bind.mp (ends_get_bind.mp failed) with ⟨tried, mid, trying, settled⟩ |
    ⟨_, _, untried⟩
  · cases tried with
    | ok answer =>
        dsimp only at settled
        split at settled
        · cases (ends_pure.mp settled).1
        · exact hungUp_of_failHandshake settled
    | error failure =>
        cases failure with
        | problem cause =>
            rcases ends_ite.mp settled with ⟨_, failing⟩ | ⟨_, failing⟩
            · exact hungUp_of_failHandshake failing
            · exact hungUp_of_failHandshake failing
        | _ => cases (ends_throw.mp settled).1
  · obtain ⟨_, impossible, _⟩ := Session.ends_attempt.mp untried
    cases impossible

/-! ### Up to the answer, and behind it -/

def meet (before : ClientState) : Action σ Client (Json × Json.Fields) := do
  launch before
  shakeHands before

/-- A failed call has left nothing behind: the client is in the state that it was in, it has no session,
and if a server was launched, its connection has ended. -/
structure Cleared (s after : Session σ Client) : Prop where
  state : after.owner.state = s.owner.state
  detached : after.owner.attached = false
  ended : s.owner.launches < after.owner.launches → HungUp after

inductive Met (s : Session σ Client) : Outcome (Json × Json.Fields) → Session σ Client → Prop
  | unlaunched {failure server} : Met s (.error failure)
    { inState (stateUnlaunched failure s.owner.state .initializing) s with
      world := { s.world with server } }
  | refused {launched server mid problem} :
    Frozen (fun _ : World σ => ()) (boarded launched server s) mid →
    HungUp mid → Met s (.error (.problem problem)) (inState s.owner.state mid)
  | broken {launched server failure after} : (∀ problem, failure ≠ .problem problem) →
    Frozen (fun _ : World σ => ()) (boarded launched server s) after → Met s (.error failure) after
  | answered {launched server greeting after} :
    Frozen (fun _ : World σ => ()) (boarded launched server s) after → Met s (.ok greeting) after

theorem ends_meet {outcome : Outcome (Json × Json.Fields)}
    (ended : Ends (meet s.owner.state) (inState .initializing s) outcome after) :
    Met s outcome after := by
  rcases ends_bind.mp ended with ⟨_, mid, launching, shaking⟩ | ⟨_, rfl, launching⟩
  · rcases ends_launch launching with ⟨_, _, _, failed, _⟩ | ⟨launched, server, _, _, rfl⟩
    · cases failed
    · cases ends_shakeHands busy_boarded shaking with
      | refused frozen =>
          have shut := hungUp_of_shakeHands shaking
          exact .refused frozen shut
      | broken unreported frozen => exact .broken unreported frozen
      | welcomed posted => exact .answered posted.toFrozen
  · rcases ends_launch launching with ⟨failure, server, _, same, rfl⟩ | ⟨_, _, _, impossible, _⟩
    · cases same
      exact .unlaunched
    · cases impossible

omit [Halves] [Peer σ] in
/-- A client that could not get its server's answer has left nothing behind, or it is still on the way,
for something that is no reported problem. -/
theorem Met.cleared_or {failure : Failure} (met : Met s (.error failure) after)
    (detached : s.owner.attached = false) :
    (∃ problem, failure = .problem problem) ∧ Cleared s after ∨
      (∀ problem, failure ≠ .problem problem) ∧ after.owner.state = .initializing ∧
        after.owner.attached = false := by
  cases met with
  | unlaunched =>
      cases failure with
      | problem problem =>
          exact .inl ⟨⟨problem, rfl⟩, rfl, detached, fun more => absurd more (Nat.lt_irrefl _)⟩
      | _ =>
          right
          refine ⟨?_, rfl, detached⟩
          intro problem same
          cases same
  | @refused _ _ _ problem frozen shut =>
      exact .inl ⟨⟨problem, rfl⟩, rfl, frozen.attached.trans detached, fun _ => shut⟩
  | broken unreported frozen =>
      exact .inr ⟨unreported, frozen.state, frozen.attached.trans detached⟩

/-- A server cannot be told that the handshake is over: the connection has ended, or the server does
not take the message. -/
def Unreachable (s : Session σ Client) : Prop :=
  s.connection.closed = true ∨ s.connection.transportClosed = true ∨
    (s.world.reaction s.connection.language
      (Connection.notificationMessage "initialized" (.obj []))).refusal ≠ none

omit [Halves] [Peer σ] in
def Nameless (answer : Json) : Prop :=
  ∃ info, answer.field? "serverInfo" = some info ∧ info.isTruthy = true ∧
    ∀ fields, info ≠ .obj fields

inductive Entered (s : Session σ Client) : Outcome Json → Session σ Client → Prop
  | unmet {failure after} :
    Ends (meet s.owner.state) (inState .initializing s) (.error failure) after →
    Entered s (.error failure) after
  | untold {greeting failure met after} :
    Ends (meet s.owner.state) (inState .initializing s) (.ok greeting) met → Unreachable met →
    Frozen (fun _ : World σ => ()) met after → Entered s (.error failure) after
  | unread {answer capabilities failure met last} :
    Ends (meet s.owner.state) (inState .initializing s) (.ok (answer, capabilities)) met →
    ¬Unreachable met → Nameless answer →
    Entered s (.error failure) (touchedNow (opened capabilities last))
  | entered {answer capabilities met last result} :
    Ends (meet s.owner.state) (inState .initializing s) (.ok (answer, capabilities)) met →
    ¬Unreachable met → ¬Nameless answer →
    Entered s (.ok result) (touchedNow (opened capabilities last))

theorem unreachable_iff {outcome : Outcome Unit}
    (told : Ends (Session.notify handlers "initialized" (.obj [])) s outcome after) :
    Unreachable s ↔ ∃ failure, outcome = .error failure := by
  unfold Unreachable
  rcases Session.ends_needOpen_bind.mp told with ⟨rfl, _, closed⟩ | ⟨opened, posting⟩
  · simp [closed]
  · rcases ends_bind.mp posting with ⟨_, mid, emitted, drained⟩ | ⟨failure, rfl, failed⟩
    · obtain rfl := Session.drain_ok drained
      rcases Session.ends_emit.mp emitted with ⟨_, _, failed⟩ | ⟨_, _, _, _, failed⟩ |
        ⟨unshut, taken, _, _⟩
      · cases failed
      · cases failed
      · simp [opened, unshut, taken]
    · rcases Session.ends_emit.mp failed with ⟨shut, _, _⟩ | ⟨_, _, refused, _, _⟩ | ⟨_, _, _, sent⟩
      · simp [shut]
      · simp [refused]
      · cases sent

omit [Halves] [Peer σ] in
theorem nameless_iff {answer : Json} :
    Nameless answer ↔ ∃ failure,
      (((answer.field? "serverInfo").getD .null).orElse (.obj [])).optional "name" .null =
        .error failure := by
  unfold Nameless
  cases found : answer.field? "serverInfo" with
  | none => simp [Json.orElse, Json.isTruthy, Json.optional]
  | some info =>
      by_cases said : info.isTruthy = true
      · cases info <;> simp [Json.orElse, Json.optional, said]
      · simp [Json.orElse, Json.optional, said]

theorem ends_start_entered {outcome : Outcome Json} (dormant : Dormant s)
    (ended : Ends start s outcome after) : Entered s outcome after := by
  have parted : Ends (meet s.owner.state >>= fun greeting => (do
      Session.notify handlers "initialized" (.obj [])
      update fun c => { c with
        attached := true, capabilities := .obj greeting.2, state := .ready, healthy := true }
      touch
      let server := ((greeting.1.field? "serverInfo").getD .null).orElse (.obj [])
      let _ ← Session.settle (server.optional "name" .null)
      return (← current).capabilities : Action σ Client Json))
      (inState .initializing s) outcome after := by
    have whole := ends_start dormant ended
    rw [meet, bind_assoc]
    exact whole
  rcases ends_bind.mp parted with ⟨⟨answer, capabilities⟩, met, meeting, rest⟩ |
    ⟨failure, rfl, unmet⟩
  · have busy : met.owner.Busy := by
      cases ends_meet meeting with
      | answered frozen => exact frozen.busy busy_boarded
    rcases ends_bind.mp rest with ⟨_, last, told, opening⟩ | ⟨failure, rfl, untold⟩
    · have reachable : ¬Unreachable met := by
        intro unreachable
        obtain ⟨_, impossible⟩ := (unreachable_iff told).mp unreachable
        cases impossible
      rcases ends_bind.mp (ends_update_bind.mp opening) with ⟨_, _, touching, settling⟩ |
        ⟨_, _, touching⟩
      · obtain ⟨_, rfl⟩ := ends_touch.mp touching
        rcases ends_settle_bind.mp settling with ⟨failure, misread, rfl, rfl⟩ | ⟨_, named, fetching⟩
        · exact .unread meeting reachable (nameless_iff.mpr ⟨failure, misread⟩)
        · have fetched := ends_current_bind.mp fetching
          obtain ⟨rfl, rfl⟩ := ends_pure.mp fetched
          refine .entered meeting reachable fun nameless => ?_
          obtain ⟨_, misread⟩ := nameless_iff.mp nameless
          cases named.symm.trans misread
      · cases (ends_touch.mp touching).1
    · have unreachable := (unreachable_iff untold).mpr ⟨failure, rfl⟩
      exact .untold meeting unreachable
        (dealings_busy.within_notify (fitNotice _) _ untold busy)
  · exact .unmet unmet

/-! ### Failures that are not looked after -/

/-- The ways in which a client that can be brought to life fails without being put back: its server is
not launched or does not answer for something that is no reported problem; or it answers, and then
cannot be told that the handshake is over, or says something of itself that cannot be read. -/
inductive Unguarded (s : Session σ Client) : Prop
  | unreported {failure : Failure} {after : Session σ Client} :
    (∀ problem, failure ≠ .problem problem) →
    Ends (meet s.owner.state) (inState .initializing s) (.error failure) after → Unguarded s
  | untold {greeting : Json × Json.Fields} {met : Session σ Client} :
    Ends (meet s.owner.state) (inState .initializing s) (.ok greeting) met → Unreachable met →
    Unguarded s
  | unread {answer : Json} {capabilities : Json.Fields} {met : Session σ Client} :
    Ends (meet s.owner.state) (inState .initializing s) (.ok (answer, capabilities)) met →
    ¬Unreachable met → Nameless answer → Unguarded s

/-- How a client is left by a failure that is not looked after: it is on the way to a session, or it has
one. -/
def Astray (s : Session σ Client) : Prop :=
  s.owner.state = .initializing ∧ s.owner.attached = false ∨
    s.owner.state = .ready ∧ s.owner.attached = true

omit [Halves] [Peer σ] in
theorem Astray.not_cleared (astray : Astray after) (dormant : Dormant s) : ¬Cleared s after := by
  intro cleared
  have same := cleared.state
  rcases astray with ⟨state, _⟩ | ⟨state, _⟩
  · rw [state] at same
    rcases dormant with dormant | dormant <;> cases same.trans dormant
  · rw [state] at same
    rcases dormant with dormant | dormant <;> cases same.trans dormant

/-- A client that was to be brought to life and failed has left nothing behind, or it is astray. -/
theorem Entered.cleared_or {failure : Failure} (entered : Entered s (.error failure) after)
    (detached : s.owner.attached = false) :
    Cleared s after ∧ ¬Unguarded s ∨ Astray after ∧ Unguarded s := by
  cases entered with
  | unmet unmet =>
      rcases (ends_meet unmet).cleared_or detached with ⟨⟨problem, rfl⟩, cleared⟩ |
        ⟨unreported, state, detached⟩
      · left
        refine ⟨cleared, fun unguarded => ?_⟩
        cases unguarded with
        | unreported unreported ended =>
            obtain ⟨same, _⟩ := ended.unique unmet
            cases same
            exact unreported problem rfl
        | untold ended _ => cases (ended.unique unmet).1
        | unread ended _ _ => cases (ended.unique unmet).1
      · right
        exact ⟨.inl ⟨state, detached⟩, .unreported unreported unmet⟩
  | untold meeting unreachable frozen =>
      right
      refine ⟨.inl ?_, .untold meeting unreachable⟩
      cases ends_meet meeting with
      | answered begun =>
          have whole := begun.trans frozen
          exact ⟨whole.state, whole.attached.trans detached⟩
  | unread meeting reachable nameless =>
      right
      exact ⟨.inr ⟨rfl, rfl⟩, .unread meeting reachable nameless⟩

theorem exists_of_unguarded (dormant : Dormant s) (unguarded : Unguarded s) :
    ∃ failure after, Ends start s (.error failure) after := by
  obtain ⟨outcome, after, ended⟩ : ∃ outcome after, Ends start s outcome after :=
    ⟨((start : Action σ Client Json).run s).1, ((start : Action σ Client Json).run s).2, rfl⟩
  cases ends_start_entered dormant ended with
  | unmet _ => exact ⟨_, _, ended⟩
  | untold _ _ _ => exact ⟨_, _, ended⟩
  | unread _ _ _ => exact ⟨_, _, ended⟩
  | entered meeting reachable named =>
      cases unguarded with
      | unreported _ unmet => cases (unmet.unique meeting).1
      | untold met unreachable =>
          obtain ⟨_, rfl⟩ := met.unique meeting
          exact absurd unreachable reachable
      | unread met _ nameless =>
          obtain ⟨same, _⟩ := met.unique meeting
          cases same
          exact absurd nameless named

theorem start_while_initializing {outcome : Outcome Json} (state : s.owner.state = .initializing)
    (ended : Ends start s outcome after) :
    outcome = .error (.problem (.alreadyInitializing s.owner.language)) ∧ after = s := by
  have looked := ends_current_bind.mp ended
  rw [state] at looked
  exact Session.ends_raise.mp looked

theorem ok_of_start (alive : s.owner.state = .ready ∨ s.owner.state = .degraded)
    {outcome : Outcome Json} (ended : Ends start s outcome after) :
    outcome = .ok s.owner.capabilities := by
  have looked := ends_current_bind.mp ended
  rcases alive with state | state
  · rw [state] at looked
    exact (ends_pure.mp looked).1
  · rw [state] at looked
    exact (ends_pure.mp looked).1

/-- In every run, a client that could not be brought to life, from outside or in the second half of a
restart, has left nothing behind, unless the failure was not looked after. Each failure that is not
looked after leaves the client with a session, or on the way to one and never to be brought to life
again. -/
theorem failed_start_clears_iff {grants : Nat} {first s base : Session σ Client} (born : Born first)
    (run : Course grants first s) (here : base = s ∨ ∃ clock, base = unbooked (moved clock s)) :
    (∀ {failure : Failure} {after : Session σ Client}, Ends start base (.error failure) after →
      (Cleared base after ↔ ¬(Dormant base ∧ Unguarded base))) ∧
      (Dormant base → Unguarded base → ∃ failure after, Ends start base (.error failure) after ∧
        (after.owner.state = .ready ∧ after.owner.attached = true ∨
          after.owner.state = .initializing ∧ after.owner.attached = false ∧
            ∀ {outcome : Outcome Json} {later : Session σ Client}, Ends start after outcome later →
              outcome = .error (.problem (.alreadyInitializing after.owner.language)) ∧
                later = after)) := by
  have seat : Seated base := by
    have seat := run.seated born
    rcases here with rfl | ⟨_, rfl⟩
    · exact seat
    · exact seat
  constructor
  · intro failure after ended
    by_cases dormant : Dormant base
    · have entered := ends_start_entered dormant ended
      rcases entered.cleared_or (seat.detached_of_dormant dormant) with ⟨cleared, guarded⟩ |
        ⟨astray, unguarded⟩
      · exact iff_of_true cleared fun lapse => guarded lapse.2
      · exact iff_of_false (astray.not_cleared dormant) fun kept => kept ⟨dormant, unguarded⟩
    · have idle := not_or.mp dormant
      obtain rfl := eq_of_start idle.1 idle.2 ended
      have lone : after.owner.attached = false := by
        apply seat.detached
        · intro ready
          cases ok_of_start (.inl ready) ended
        · intro degraded
          cases ok_of_start (.inr degraded) ended
      refine iff_of_true ⟨rfl, lone, fun more => ?_⟩ fun lapse => dormant lapse.1
      exact absurd more (Nat.lt_irrefl _)
  · intro dormant unguarded
    obtain ⟨failure, after, ended⟩ := exists_of_unguarded dormant unguarded
    refine ⟨failure, after, ended, ?_⟩
    have entered := ends_start_entered dormant ended
    rcases entered.cleared_or (seat.detached_of_dormant dormant) with ⟨_, guarded⟩ |
      ⟨⟨state, lone⟩ | ready, _⟩
    · exact absurd unguarded guarded
    · exact .inr ⟨state, lone, fun again => start_while_initializing state again⟩
    · exact .inl ready

end

end Scalpel.Client

/-! ### A server that refuses to hear of the end of the handshake -/

namespace Scalpel.Client

local instance handshakeHalves : Halves :=
  Halves.trial

/-- A client that nothing has happened to, with a server that refuses to hear for the first time that
the handshake is over. -/
def snubbedBirth : Session Script.Servers Client :=
  { world := { server := { shared := { entries := [("initialized", [{ refusal := some "no" }, {}])] } } }
    owner := make { language := "py", command := .str "py-server" } "/w" {} 0.0 }

def snubbed : Session Script.Servers Client :=
  ((start : Action Script.Servers Client Json).run snubbedBirth).2

theorem failed_start_clears_iff_of_snubbed :
    Born snubbedBirth ∧ Course 0 snubbedBirth snubbedBirth ∧
      (∃ problem : Problem, problem.kind = .connectionClosed ∧
        Ends start snubbedBirth (.error (.problem problem)) snubbed) ∧
      snubbed.owner.state = .initializing ∧ snubbed.connection.transportClosed = false ∧
      Unguarded snubbedBirth := by
  have born : Born snubbedBirth := .make ⟨nofun, List.nodup_nil⟩ nofun
  have state : snubbed.owner.state = .initializing := by decide +kernel
  obtain ⟨problem, kind, ended⟩ : ∃ problem : Problem, problem.kind = .connectionClosed ∧
      Ends start snubbedBirth (.error (.problem problem)) snubbed :=
    ends_of_kind? (by decide +kernel)
  refine ⟨born, .refl _, ⟨problem, kind, ended⟩, state, by decide +kernel, ?_⟩
  by_contra guarded
  have cleared := ((failed_start_clears_iff born (.refl snubbedBirth) (.inl rfl)).1 ended).mpr
    fun lapse => guarded lapse.2
  cases state.symm.trans cleared.state

end Scalpel.Client
