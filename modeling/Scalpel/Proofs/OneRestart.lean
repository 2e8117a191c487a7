import Scalpel.Proofs.Turns
import Scalpel.Proofs.Clerk
import Scalpel.Wire.Script

/-!
At most one restart is in flight. Whoever asks for restarts and whatever the server does in between, a
client never has two second halves scheduled, it is in a restart as long as it has one, and it comes
back no more often than restarts were granted.
-/

set_option autoImplicit false

namespace Scalpel.Client

variable {σ : Type} {s mid after : Session σ Client}

/-- At most one restart is scheduled, and where one is the client is in it. -/
def Single (s : Session σ Client) : Prop :=
  (restarts s).length ≤ 1 ∧ (restarts s ≠ [] → s.owner.restarting = true)

theorem Orderly.toSingle (orderly : Orderly s) : Single s := by
  rcases orderly.single with none | ⟨call, only, _, _, busy⟩
  · rw [Single, none]
    exact ⟨Nat.zero_le 1, fun some => absurd rfl some⟩
  · rw [Single, only]
    exact ⟨Nat.le_refl 1, fun _ => busy⟩

/-! ### In the course of an exchange -/

theorem Booked.toSingle (booked : Booked s after) (single : Single s) : Single after := by
  have idle (free : s.owner.restarting = false) : restarts s = [] := by
    by_contra some
    exact absurd (free.symm.trans (single.2 some)) Bool.false_ne_true
  cases booked.scheduling with
  | kept same _ clock =>
      rw [Single, restarts_of_clock booked.config clock, same]
      exact single
  | begun delay free busy _ _ clock =>
      rw [Single, restarts_of_later booked.config clock, idle free]
      exact ⟨Nat.le_refl 1, fun _ => busy⟩
  | untimed _ free busy _ _ clock =>
      rw [Single, restarts_of_clock booked.config clock, idle free]
      exact ⟨Nat.zero_le 1, fun _ => busy⟩

variable [Halves] [Peer σ]

/-- The sessions that a client passes through in the course of exchanges: messages go out, requests are
filed, the connection is closed, and what arrives is handled one by one. -/
inductive Passes (s : Session σ Client) : Session σ Client → Prop
  | here : Passes s s
  | sent {mid after : Session σ Client} {message : Json} {outcome : Outcome Unit} :
    Passes s mid → Ends (Session.emit message) mid outcome after → Passes s after
  | filed {mid : Session σ Client} {connection : Connection} : Passes s mid →
    mid.connection.Filed connection → Passes s { mid with connection }
  | hungUp {mid : Session σ Client} : Passes s mid →
    Passes s { mid with connection := mid.connection.hangUp }
  | finished {mid : Session σ Client} : Passes s mid →
    Passes s { mid with connection := mid.connection.finish }
  | handled {mid after : Session σ Client} {arrival : Arrival} {connection : Connection} :
    Passes s mid → mid.connection.receive? = some (arrival, connection) →
    Ends (Session.handle handlers arrival) { mid with connection } (.ok ()) after → Passes s after

theorem Passes.booked (passes : Passes s after) : Booked s after := by
  induction passes with
  | here => exact .refl s
  | sent _ sent ih => exact ih.trans (within_emit_booked _ sent)
  | filed _ _ ih => exact ih.trans (.of_ledger rfl)
  | hungUp _ ih => exact ih.trans (.of_ledger rfl)
  | finished _ ih => exact ih.trans (.of_ledger rfl)
  | handled _ arrived handled ih =>
      exact ih.trans (running_booked.toIntake.handled arrived handled)

omit [Halves] [Peer σ] in
theorem RestartBegun.true_iff {leave : Action σ Client Unit} {outcome : Outcome Bool}
    (begun : RestartBegun leave s outcome after)
    (leaves : ∀ {reached mid}, Ends leave (givenUp s) reached mid → Booked (givenUp s) mid) :
    outcome = .ok true ↔ restarts after ≠ restarts s := by
  have still {mid : Session σ Client} (booked : Booked (givenUp s) mid) :
      restarts mid = restarts s :=
    restarts_of_clock (s := s) booked.config (booked.kept rfl).2.2
  have gone {mid : Session σ Client} (left : Left leave s mid) : restarts mid = restarts s := by
    cases left with
    | left _ gone => exact still (leaves gone)
    | nothing _ => exact still (.refl _)
  cases begun with
  | declined _ => exact ⟨nofun, fun other => absurd rfl other⟩
  | unfinished _ _ failed => exact ⟨nofun, fun other => absurd (still (leaves failed)) other⟩
  | untimed _ left _ => exact ⟨nofun, fun other => absurd (gone left) other⟩
  | @begun delay mid _ left _ =>
      refine ⟨fun _ same => ?_, fun _ => rfl⟩
      have language : mid.owner.language = s.owner.language := by
        cases left with
        | left _ gone => exact congrArg (·.language) (leaves gone).config
        | nothing _ => rfl
      have longer : restarts (scheduled s.owner.language delay mid) =
          restarts mid ++ [secondHalf delay mid] :=
        restarts_of_later rfl (by rw [language]; rfl)
      rw [longer, gone left] at same
      exact absurd (congrArg List.length same) (by simp)

/-! ### In the course of a run -/

omit [Halves] [Peer σ] in
/-- A turn brings the client back no more often than restarts were scheduled before, and schedules no
more than it grants. -/
theorem Turn.count_le {event : Event} {outcome : Outcome Unit} (turn : Turn event outcome s after) :
    after.owner.restartCount + (restarts after).length ≤
      s.owner.restartCount + (restarts s).length + granted s after := by
  cases turn with
  | kept _ same _ count =>
      rw [same, count]
      exact Nat.le_add_right _ _
  | @begun _ _ _ _ call _ _ _ none only fresh _ count _ =>
      have one : granted s after = 1 := by
        unfold granted
        rw [only, List.filter_cons_of_pos (by simpa using fresh)]
        rfl
      rw [only, count, none, one]
      exact Nat.le_refl _
  | untimed _ none none' _ count _ =>
      rw [none, none', count]
      exact Nat.le_add_right _ _
  | unfinished _ _ none none' _ count =>
      rw [none, none', count]
      exact Nat.le_add_right _ _
  | dismissed _ only none' _ _ count =>
      rw [only, none', count]
      exact Nat.le_trans (Nat.le_add_right _ 1) (Nat.le_add_right _ _)
  | made only none' _ _ count =>
      rw [only, none']
      exact Nat.le_trans count (Nat.le_add_right _ _)
  | broken only none' _ _ count =>
      rw [only, none', count]
      exact Nat.le_trans (Nat.le_add_right _ 1) (Nat.le_add_right _ _)

theorem Course.orderly {grants : Nat} {first last : Session σ Client}
    (run : Course grants first last) (orderly : Orderly first) : Orderly last := by
  induction run with
  | refl => exact orderly
  | step _ step ih => exact (step.turned (ih orderly)).orderly

theorem Course.count_le {grants : Nat} {first last : Session σ Client}
    (run : Course grants first last) (born : Born first) :
    last.owner.restartCount + (restarts last).length ≤ grants := by
  induction run with
  | refl first =>
      have none : first.owner.restartCount = 0 ∧ first.owner.restarting = false := by
        obtain ⟨_, _⟩ := born
        exact ⟨rfl, rfl⟩
      rw [none.1, born.orderly.restarts_eq_nil none.2]
      exact Nat.le_refl 0
  | step run step ih =>
      refine Nat.le_trans (step.turned (run.orderly born.orderly)).turn.count_le ?_
      exact Nat.add_le_add_right (ih born) _

/-- In every run of a client at most one restart is scheduled at a time, and while one is the client is
in it; the same holds at every moment of an exchange. A restart is granted exactly if it is scheduled,
whether it is asked for from outside or by a listener, and the client comes back at most once for each
that was granted. -/
theorem restarts_one_at_a_time {grants : Nat} {first last : Session σ Client} (born : Born first)
    (run : Course grants first last) :
    Single last ∧ last.owner.restartCount ≤ grants ∧
      (∀ {outcome : Outcome Bool} {after : Session σ Client},
        Ends requestRestart last outcome after →
        (outcome = .ok true ↔ restarts after ≠ restarts last)) ∧
      ∀ {start mid : Session σ Client}, Single start → Passes start mid → Single mid ∧
        ∀ {outcome : Outcome Bool} {after : Session σ Client},
          Ends (beginRestart Session.closeWithin) mid outcome after → Single after ∧
            (outcome = .ok true ↔ restarts after ≠ restarts mid) := by
  refine ⟨(run.orderly born.orderly).toSingle, ?_, fun requested => ?_, fun single passes => ?_⟩
  · exact Nat.le_trans (Nat.le_add_right _ _) (run.count_le born)
  · exact (ends_beginRestart requested).true_iff fun gone => within_leave_booked gone
  · have kept := passes.booked.toSingle single
    refine ⟨kept, fun begun => ?_⟩
    have begun := ends_beginRestart begun
    exact ⟨begun.booked_closeWithin.toSingle kept,
      begun.true_iff fun closing => within_connection_booked _ closing⟩

end Scalpel.Client

/-! ### A run in which a server ends twice -/

namespace Scalpel.Client

local instance oneRestartHalves : Halves :=
  Halves.trial

/-- A client that nothing has happened to, with a server that answers the handshake. -/
def bereftBirth : Session Script.Servers Client :=
  { world := { server := {} }
    owner := make { language := "py", command := .str "py-server" } "/w" {} 0.0 }

/-- The server ends while a monitor watches, and ends again after the client has come back; then a
restart is asked for as well. -/
def bereft : Session Script.Servers Client :=
  followAll bereftBirth [.stimulus .start, .stimulus .startMonitor,
    .stimulus (.serverEnds (.exited (some 1) none)), .wait 1010.0,
    .stimulus (.serverEnds (.exited none none)), .stimulus .requestRestart]

private theorem born_bereftBirth : Born bereftBirth :=
  .make ⟨nofun, List.nodup_nil⟩ nofun

private theorem run_bereft : Course 2 bereftBirth bereft :=
  course_followAll_of (by decide +kernel)

theorem restarts_one_at_a_time_of_bereft :
    Born bereftBirth ∧ Course 2 bereftBirth bereft ∧ (restarts bereft).length = 1 ∧
      Single bereft ∧ bereft.owner.restartCount ≤ 2 :=
  have one := restarts_one_at_a_time born_bereftBirth run_bereft
  ⟨born_bereftBirth, run_bereft, by decide +kernel, one.1, one.2.1⟩

end Scalpel.Client
