import Scalpel.Proofs.Errands

/-!
Frames that take in everything that a client does, from its launch to its end, and do not look at its
documents. Two such frames follow: the files stay as they are when servers leave them alone, and a calm
client stays calm.
-/

set_option autoImplicit false

namespace Scalpel

namespace Client

variable {σ : Type} {F : Frame (Session σ Client)}

variable [Halves] [Peer σ]

section

variable {fit : Json → Prop}
  (updates : ∀ (f : Client → Client) (s : Session σ Client), Mild f →
    F.holds s { s with owner := f s.owner })
  (tends : ∀ {s : Session σ Client} {connection : Connection}, s.connection.Tended connection →
    F.holds s { s with connection })
  (clocks : ∀ (s : Session σ Client) (clock : Clock Task),
    F.holds s { s with world := { s.world with clock } })
  (roomy : Roomy F)

include updates tends clocks roomy

/-- A frame takes in what a client does apart from its documents, and the edits that servers ask for, if
it takes in connections that are looked after and messages that fit, among them answers and changes of
documents. -/
theorem Routine.ofFitting
    (emits : ∀ {message}, fit message →
      Within F (Session.emit message : Action σ Client Unit))
    (replies : ∀ number outcome, fit (Connection.replyMessage number outcome))
    (changes : FitNotice fit "textDocument/didChange") : Routine F fit where
  reply number outcome := emits (replies number outcome)
  update := updates
  shut s := tends ((Connection.tended_hangUp s.connection).trans (Connection.tended_finish _))
  clock := clocks
  receive arrived := tends (Connection.tended_receive arrived)
  edit arrived applied := by
    have touched : Within F (touch : Action σ Client Unit) :=
      within_bind within_get fun _ => within_modify fun s => updates _ s (mild_touched _)
    have carried (params : Json) : Within F
        (Session.notifyWithin "textDocument/didChange" params : Action σ Client Unit) :=
      within_bind (Session.within_needOpen _) fun _ => emits (changes params)
    exact F.trans (tends (Connection.tended_receive arrived))
      (within_applyServerEdit (roomy.within_changeDocument touched carried) _ applied)
  emit := emits
  tend := tends

theorem Routine.ofTended
    (emits : ∀ message, Within F (Session.emit message : Action σ Client Unit)) :
    Routine F fun _ => True :=
  .ofFitting updates tends clocks roomy (fun _ => emits _) (fun _ _ => trivial) (fitNotice _)

end

structure Recording (F : Frame (Session σ Client)) : Prop extends Routine F fun _ => True where
  roomy : Roomy F
  launch : ∀ before, Within F (launch before : Action σ Client Unit)

def setOut : Action σ Client Unit := do
  let _ ← start
  startMonitor

/-- A frame takes in what a client does before an edit is applied: it is started, it takes over the
texts of files, and it is asked about symbols. -/
structure Preparing (F : Frame (Session σ Client)) : Prop where
  begins : Within F (setOut : Action σ Client Unit)
  adopts : ∀ uri content, Within F (adopt uri content : Action σ Client Unit)
  seeks : ∀ uri name, Within F (findSymbol uri name : Action σ Client (Option Symbol))
  renames : ∀ uri place newName,
    Within F (rename uri place newName : Action σ Client WorkspaceEdit)

structure FitPreparing (fit : Json → Prop) : Prop extends FitGreeting fit where
  opening : FitNotice fit "textDocument/didOpen"
  change : FitNotice fit "textDocument/didChange"
  outline : FitRequest fit "textDocument/documentSymbol"
  rename : FitRequest fit "textDocument/rename"

theorem Routine.preparing {fit : Json → Prop} (routine : Routine F fit) (fits : FitPreparing fit)
    (roomy : Roomy F) (launches : ∀ before, Within F (launch before : Action σ Client Unit)) :
    Preparing F where
  begins :=
    within_bind (routine.sittings.within_start fits.toFitGreeting launches) fun _ =>
      routine.within_startMonitor
  adopts uri :=
    { opens := routine.dealings.within_tell fits.opening
      change := roomy.within_changeDocument routine.within_touch
        (routine.dealings.within_notify fits.change) uri
      put := fun s document _ => roomy s _ fun _ => Tracker.isOpen_put document :
        Takeover F uri }.within_adopt
  seeks := routine.dealings.within_findSymbol fits.outline
  renames := routine.dealings.within_rename fits.rename

namespace Recording

theorem keeping (recording : Recording F) : Keeping F where
  toDealings := recording.dealings
  roomy := recording.roomy

theorem preparing (recording : Recording F) : Preparing F :=
  recording.toRoutine.preparing ⟨⟨fitRequest _, fitNotice _⟩, fitNotice _, fitNotice _,
    fitRequest _, fitRequest _⟩ recording.roomy recording.launch

theorem ofIndifferent
    (emits : ∀ message, Within F (Session.emit message : Action σ Client Unit))
    (updates : ∀ (f : Client → Client) (s : Session σ Client), Mild f →
      F.holds s { s with owner := f s.owner })
    (connects : ∀ (s : Session σ Client) (connection : Connection),
      F.holds s { s with connection })
    (clocks : ∀ (s : Session σ Client) (clock : Clock Task),
      F.holds s { s with world := { s.world with clock } })
    (roomy : Roomy F) (launches : ∀ before, Within F (Client.launch before : Action σ Client Unit)) :
    Recording F :=
  { Routine.ofTended updates (fun _ => connects _ _) clocks roomy emits with
    roomy
    launch := launches }

end Recording

end Client

/-! ### Files -/

def Peer.SparesFiles (σ : Type) [Peer σ] : Prop :=
  ∀ language message files (server : σ), (Peer.react language message files server).1.files = files

namespace Client

variable {σ : Type}

def filesStay : Frame (Session σ Client) :=
  Frame.same fun s => s.world.files

theorem within_emit_filesStay [Peer σ] (spares : Peer.SparesFiles σ) (message : Json) :
    Within filesStay (Session.emit message : Action σ Client Unit) :=
  Session.within_emit (fun _ => spares _ _ _ _) fun _ _ => rfl

theorem recording_filesStay [Halves] [Peer σ] (spares : Peer.SparesFiles σ) :
    Recording (filesStay : Frame (Session σ Client)) := by
  refine .ofIndifferent (within_emit_filesStay spares) (fun _ _ _ => rfl) (fun _ _ => rfl)
    (fun _ _ => rfl) (fun _ _ _ => rfl) fun before s after outcome ended => ?_
  rcases ends_launch ended with ⟨_, _, _, _, rfl⟩ | ⟨_, _, _, _, rfl⟩
  · rfl
  · rfl

/-! ### Open documents -/

def opensStay : Frame (Session σ Client) where
  holds s after := ∀ uri, s.owner.documents.isOpen uri = true →
    after.owner.documents.isOpen uri = true
  refl _ _ known := known
  trans first second uri known := second uri (first uri known)

theorem recording_opensStay [Halves] [Peer σ] : Recording (opensStay : Frame (Session σ Client)) := by
  refine .ofIndifferent (fun message => ?_) (fun f s mild uri known => ?_)
    (fun _ _ _ known => known) (fun _ _ _ known => known) (fun _ _ grown => grown)
    fun before s after outcome ended => ?_
  · exact Session.within_emit (fun _ _ known => known) fun _ _ _ known => known
  · dsimp only
    rw [mild.documents]
    exact known
  · rcases ends_launch ended with ⟨_, _, _, _, rfl⟩ | ⟨_, _, _, _, rfl⟩
    · exact fun _ known => known
    · exact fun _ known => known

/-! ### Calm -/

def calmStays (quiet : σ → Prop) : Frame (Session σ Client) :=
  Frame.invariant (Calm quiet)

theorem roomy_calmStays {quiet : σ → Prop} : Roomy (calmStays quiet) :=
  fun _ _ _ calm => ⟨calm.server, calm.connection⟩

theorem routine_calm [Halves] [Peer σ] {quiet : σ → Prop}
    (server : Peer.Quiet quiet fun _ => True) :
    Routine (still quiet fun _ : World σ => ()) fun _ => True :=
  routine_still server ⟨fun _ _ _ _ => rfl, fun _ _ => rfl⟩ fun _ _ => trivial

theorem recording_calmStays [Halves] [Peer σ] {quiet : σ → Prop}
    (server : Peer.Quiet quiet fun _ => True) : Recording (calmStays quiet) where
  toRoutine := (routine_calm server).mono fun stays calm => (stays calm).1
  roomy := roomy_calmStays
  launch before s after outcome ended calm := by
    rcases ends_launch ended with ⟨_, _, launch, _, rfl⟩ | ⟨launched, _, launch, _, rfl⟩
    · have kept := server.launch s.owner.config s.owner.root s.owner.settings s.world.files
        calm.server
      rw [launch] at kept
      exact ⟨kept, calm.connection⟩
    · have kept := server.launch s.owner.config s.owner.root s.owner.settings s.world.files
        calm.server
      have greeting := server.greeting s.owner.config s.owner.root s.owner.settings
        s.world.files calm.server (congrArg Prod.fst launch)
      rw [launch] at kept
      refine ⟨kept, Connection.quiet_deliver ?_ greeting⟩
      exact fun _ _ member => absurd member List.not_mem_nil

end Client

end Scalpel
