import Scalpel.Proofs.Busy
import Scalpel.Proofs.OneRestart

/-!
When a client is in a restart. It is in one as long as the second half is scheduled, and for ever after
a restart was stranded: when it was shut down during the pause, when one half failed with something that
is no reported problem, or when the pause could not be waited for. There is no other way to stay in a
restart.
-/

set_option autoImplicit false

namespace Scalpel.Client

variable {σ : Type} {s after : Session σ Client}

def Stuck (s : Session σ Client) : Prop :=
  s.owner.restarting = true ∧ restarts s = []

def Timeless (s after : Session σ Client) : Prop :=
  s.owner.restarting = false ∧ after.owner.restarting = true ∧
    ∃ failure, Settings.duration s.owner.settings.restartBackoff = .error failure

/-- A client gets stuck exactly when a restart is stranded or cannot be timed, and stays so. -/
theorem Turn.stuck_iff {event : Event} {outcome : Outcome Unit} (turn : Turn event outcome s after) :
    Stuck after ↔ Stuck s ∨ Strands event outcome s ∨ Timeless s after := by
  cases turn with
  | kept calm same flag _ =>
      rw [Stuck, same, flag]
      refine ⟨.inl, ?_⟩
      rintro (stuck | strands | ⟨idle, busy, _⟩)
      · exact stuck
      · exact absurd strands calm
      · cases idle.symm.trans (flag.symm.trans busy)
  | begun calm idle _ only _ _ _ timed =>
      rw [Stuck, only]
      refine ⟨fun stuck => (nomatch stuck.2), ?_⟩
      rintro (⟨busy, _⟩ | strands | ⟨_, _, _, timeless⟩)
      · cases idle.symm.trans busy
      · exact absurd strands calm
      · cases timed.symm.trans timeless
  | untimed idle _ none busy _ timeless =>
      exact ⟨fun _ => .inr (.inr ⟨idle, busy, _, timeless⟩), fun _ => ⟨busy, none⟩⟩
  | unfinished asks _ _ none busy _ =>
      exact ⟨fun _ => .inr (.inl (.unfinished asks)), fun _ => ⟨busy, none⟩⟩
  | dismissed alive only none _ busy _ =>
      have scheduled : restarts s ≠ [] := by
        rw [only]
        exact List.cons_ne_nil _ _
      exact ⟨fun _ => .inr (.inl (.dismissed alive scheduled)), fun _ => ⟨busy, none⟩⟩
  | made only _ _ idle _ =>
      refine ⟨fun stuck => (nomatch idle.symm.trans stuck.1), ?_⟩
      rintro (⟨_, none⟩ | strands | ⟨_, busy, _⟩)
      · cases only.symm.trans none
      · cases strands
      · cases idle.symm.trans busy
  | broken _ none _ busy _ => exact ⟨fun _ => .inr (.inl .broken), fun _ => ⟨busy, none⟩⟩

variable [Halves] [Peer σ]

/-- In the course of a run a restart was stranded, or begun without being timed. -/
def Stranded (first last : Session σ Client) : Prop :=
  ∃ earlier later event outcome, ∃ before next : Session σ Client,
    Course earlier first before ∧ Happens event before outcome next ∧
      (Strands event outcome before ∨ Timeless before next) ∧ Course later next last

theorem Course.stuck {grants : Nat} {first last : Session σ Client}
    (run : Course grants first last) (orderly : Orderly first) (stuck : Stuck first) : Stuck last := by
  induction run with
  | refl => exact stuck
  | step run step ih =>
      exact (step.turned (run.orderly orderly)).turn.stuck_iff.mpr (.inl (ih orderly stuck))

theorem Course.stuck_iff {grants : Nat} {first last : Session σ Client}
    (run : Course grants first last) (born : Born first) : Stuck last ↔ Stranded first last := by
  constructor
  · intro stuck
    induction run with
    | refl first =>
        obtain ⟨_, _⟩ := born
        cases stuck.1
    | step run step ih =>
        rcases (step.turned (run.orderly born.orderly)).turn.stuck_iff.mp stuck with
          before | strands
        · obtain ⟨earlier, later, event, outcome, before, next, early, made, strands, late⟩ :=
            ih born before
          exact ⟨earlier, _, event, outcome, before, next, early, made, strands, late.step step⟩
        · exact ⟨_, _, _, _, _, _, run, step, strands, .refl _⟩
  · rintro ⟨earlier, later, event, outcome, before, next, early, made, strands, late⟩
    have turned := made.turned (early.orderly born.orderly)
    exact late.stuck turned.orderly (turned.turn.stuck_iff.mpr (.inr strands))

theorem restarting_of_shutDown {outcome : Outcome Unit} (ended : Ends shutDown s outcome after) :
    after.owner.restarting = s.owner.restarting := by
  rcases ends_shutDown ended with ⟨_, _, rfl⟩ | ⟨_, settling⟩
  · rfl
  have busy : (dismissed s).owner.Busy := ⟨nofun, .inr (.inr (.inl rfl))⟩
  have left {mid : Session σ Client} {reached : Outcome Unit}
      (gone : Ends leave (dismissed s) reached mid) :
      mid.owner.restarting = s.owner.restarting := (within_leave_frozen gone busy).restarting
  rcases ends_ite.mp settling with ⟨_, leaving⟩ | ⟨_, clearing⟩
  · rcases ends_bind.mp leaving with ⟨_, mid, gone, clearing⟩ | ⟨_, _, failed⟩
    · have kept := left gone
      obtain ⟨_, rfl⟩ := ends_update.mp clearing
      exact kept
    · exact left failed
  · obtain ⟨_, rfl⟩ := ends_update.mp clearing
    rfl

/-- In every run a client is in a restart exactly while a second half is scheduled or after a restart
was stranded. After that nothing is scheduled any more and every request is refused with the restart as
the reason. The second half leaves the restart unless it fails with something that is no reported
problem, and shutting the client down does not leave it. -/
theorem restarting_iff_scheduled_or_stranded {grants : Nat} {first last : Session σ Client}
    (born : Born first) (run : Course grants first last) :
    (last.owner.restarting = true ↔ restarts last ≠ [] ∨ Stranded first last) ∧
      (Stranded first last → restarts last = [] ∧
        last.owner.obstacle? = some (.restarting last.owner.language)) ∧
      (∀ {outcome : Outcome Unit} {after : Session σ Client},
        Happens (.due .restart) last outcome after →
        (after.owner.restarting = true ↔ ∃ failure, outcome = .error failure)) ∧
      ∀ {outcome : Outcome Unit} {after : Session σ Client}, Ends shutDown last outcome after →
        after.owner.restarting = last.owner.restarting := by
  have orderly := run.orderly born.orderly
  have stuck := run.stuck_iff born
  refine ⟨⟨fun busy => ?_, ?_⟩, fun stranded => ?_, fun step => ?_, restarting_of_shutDown⟩
  · by_cases none : restarts last = []
    · exact .inr (stuck.mp ⟨busy, none⟩)
    · exact .inl none
  · rintro (some | stranded)
    · exact orderly.toSingle.2 some
    · exact (stuck.mpr stranded).1
  · obtain ⟨busy, none⟩ := stuck.mpr stranded
    refine ⟨none, ?_⟩
    unfold Client.obstacle?
    rw [busy]
    rfl
  · cases step with
    | due next performed =>
        refine restarting_of_completeRestart ?_ performed
        exact orderly.toSingle.2 (orderly.restarts_ne_nil next)

end Scalpel.Client

/-! ### A client that is shut down in the pause of a restart -/

namespace Scalpel.Client

local instance releaseHalves : Halves :=
  Halves.trial

/-- A client that nothing has happened to, with a server that does what it is asked to. -/
def abandonedBirth : Session Script.Servers Client :=
  { world := { server := {} }
    owner := make { language := "py", command := .str "py-server" } "/w" {} 0.0 }

/-- The client is shut down after a restart was begun and before its second half is due. -/
def abandoned : Session Script.Servers Client :=
  followAll abandonedBirth [.stimulus .start, .stimulus .requestRestart, .stimulus .shutDown]

private theorem born_abandonedBirth : Born abandonedBirth :=
  .make ⟨nofun, List.nodup_nil⟩ nofun

private theorem run_abandoned : Course 1 abandonedBirth abandoned :=
  course_followAll_of (by decide +kernel)

theorem restarting_iff_scheduled_or_stranded_of_abandoned :
    Born abandonedBirth ∧ Course 1 abandonedBirth abandoned ∧ restarts abandoned = [] ∧
      abandoned.owner.restarting = true ∧ Stranded abandonedBirth abandoned ∧
      abandoned.owner.obstacle? = some (.restarting abandoned.owner.language) :=
  have none : restarts abandoned = [] := List.isEmpty_iff.mp (by decide +kernel)
  have busy : abandoned.owner.restarting = true := by decide +kernel
  have found := restarting_iff_scheduled_or_stranded born_abandonedBirth run_abandoned
  have stranded := (found.1.mp busy).resolve_left fun some => some none
  ⟨born_abandonedBirth, run_abandoned, none, busy, stranded, (found.2.1 stranded).2⟩

end Scalpel.Client
