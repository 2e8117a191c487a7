import Scalpel.Proofs.EditRequest

/-!
The operations of a client keep it in step with its server: documents that are opened, changed, saved
and closed, edits of several documents, what the server sends on its own, and restarts.
-/

set_option autoImplicit false

namespace Scalpel.Client

variable [Halves] {σ : Type} [Peer σ] {quiet : σ → Prop} {s after : Session (Reference σ) Client}

/-- The client is in step with its server, and nothing that waits asks for an edit. -/
def InStep (quiet : σ → Prop) (s : Session (Reference σ) Client) : Prop :=
  Mirrored quiet s ∧ s.connection.Quiet

def inStep (quiet : σ → Prop) : Frame (Session (Reference σ) Client) :=
  Frame.invariant (InStep quiet)

omit [Halves] [Peer σ] in
theorem within_inStep {α : Type} {action : Action (Reference σ) Client α}
    (inside : Within (watching quiet) action) : Within (inStep quiet) action :=
  fun _ _ _ ended stepped => stepped.1.watch stepped.2 (inside ended)

/-! ### Documents -/

theorem within_change (server : Peer.Receptive quiet) (uri : String)
    (changes : List ContentChange) :
    Within (inStep quiet) (change uri changes : Action (Reference σ) Client OpenDocument) := by
  intro s after outcome ended stepped
  obtain ⟨mirrored, calm⟩ :=
    mirrored_changeDocument (carries_notify server) stepped.2 stepped.1 ended
  exact ⟨mirrored, calm stepped.2⟩

theorem within_save (server : Peer.Receptive quiet) (uri : String) (content : Option String) :
    Within (inStep quiet) (save uri content : Action (Reference σ) Client OpenDocument) := by
  have told (document : OpenDocument) : Within (inStep quiet) (do
      notify "textDocument/didSave" (.obj [("textDocument", .obj [("uri", .str uri)]),
        ("text", .str document.content)])
      return ((← current).documents.get? uri).getD document :
      Action (Reference σ) Client OpenDocument) := by
    refine within_bind (within_inStep ((routine_watching server).dealings.within_tell
      (Desk.ignores_notification (by decide)) _)) fun _ => ?_
    exact within_bind within_current fun _ => within_pure _
  refine within_bind within_needSession fun _ => ?_
  refine within_bind within_current fun c => ?_
  refine within_bind (Session.within_settle _) fun document => ?_
  cases content with
  | none => exact within_bind (within_pure _) told
  | some text =>
      refine within_ite (within_bind (within_pure _) told) ?_
      exact within_bind (within_change server uri _) told

theorem inStep_openDocument (server : Peer.Receptive quiet) {uri content : String}
    {languageId : Json} {outcome : Outcome OpenDocument} (stepped : InStep quiet s)
    (delivered : ∀ problem, outcome = .error (.problem problem) → problem.kind ≠ .connectionClosed)
    (ended : Ends (openDocument uri content languageId) s outcome after) :
    InStep quiet after := by
  rcases ends_needSession_bind.mp ended with ⟨_, _, _, rfl⟩ | ⟨free, opening⟩
  · exact stepped
  rcases ends_ite.mp (ends_current_bind.mp opening) with ⟨_, changed⟩ | ⟨_, fresh⟩
  · exact within_change server uri _ changed stepped
  have modest (document : OpenDocument) (desk : Desk) :
      (desk.hear (Connection.notificationMessage "textDocument/didOpen"
        (openParams document))).asked = desk.asked := by
    rw [Desk.hear_didOpen]
  rcases ends_bind.mp (ends_update_bind.mp fresh) with
    ⟨_, mid, notified, fetching⟩ | ⟨failure, rfl, notified⟩
  · have fetched := ends_current_bind.mp fetching
    obtain ⟨_, rfl⟩ := ends_pure.mp fetched
    cases fate_tell (carries_notify server) notified stepped.2 stepped.1.idle free (modest _) with
    | told told =>
        refine ⟨told.mirrored stepped.1 rfl rfl ?_ fun desk held => ?_, told.calm stepped.2⟩
        · rw [told.undisturbed.documents]
          exact Tracker.distinct_put stepped.1.distinct _
        · rw [told.undisturbed.documents, Desk.hear_didOpen, held]
          exact (Tracker.view_put _ _).symm
  · cases fate_tell (carries_notify server) notified stepped.2 stepped.1.idle free (modest _) with
    | closed kind => exact absurd kind (delivered _ rfl)

theorem within_closeDocument (server : Peer.Receptive quiet) (uri : String) :
    Within (inStep quiet) (closeDocument uri : Action (Reference σ) Client Unit) := by
  intro s after outcome ended stepped
  rcases ends_ite.mp (ends_current_bind.mp ended) with ⟨_, closing⟩ | ⟨_, done⟩
  · have modest (desk : Desk) :
        (desk.hear (Connection.notificationMessage "textDocument/didClose"
          (.obj [("textDocument", .obj [("uri", .str uri)])]))).asked = desk.asked := by
      rw [Desk.hear_didClose]
    rcases ends_bind.mp closing with ⟨_, mid, notified, removing⟩ | ⟨_, rfl, notified⟩
    · rcases told_tell (carries_notify server) notified stepped.2 stepped.1.idle modest with
        ⟨_, told⟩ | ⟨⟨_, impossible⟩, _⟩
      · obtain ⟨_, rfl⟩ := ends_update.mp removing
        refine ⟨told.mirrored stepped.1 rfl rfl ?_ fun desk held => ?_, told.calm stepped.2⟩
        · exact Tracker.distinct_remove (told.undisturbed.documents ▸ stepped.1.distinct) uri
        · rw [Desk.hear_didClose, held, ← told.undisturbed.documents]
          exact (Tracker.view_remove _ uri).symm
      · cases impossible
    · rcases told_tell (carries_notify server) notified stepped.2 stepped.1.idle modest with
        ⟨impossible, _⟩ | ⟨_, rfl⟩
      · cases impossible
      · exact stepped
  · obtain ⟨_, rfl⟩ := ends_pure.mp done
    exact stepped

theorem within_sendChanges (server : Peer.Receptive quiet) (uri : String)
    (edits : List (TextEdit Json)) :
    Within (inStep quiet) (sendChanges uri edits : Action (Reference σ) Client Unit) := by
  refine within_bind within_needSession fun _ => ?_
  refine within_bind within_current fun c => ?_
  refine within_bind (Session.within_settle _) fun _ => ?_
  refine within_bind (Session.within_settle _) fun checked => ?_
  exact within_bind (within_change server uri _) fun _ => within_pure ()

/-! ### Edits of several documents -/

omit [Halves] [Peer σ] in
private theorem applied_of_fit {uri : String} {edits : List (TextEdit Json)}
    (fit : AppliedHere uri edits s (.ok ()) after)
    (rest : List (DocumentName × List (TextEdit Json))) :
    Desk.applied s.owner.documents.view ((.uri uri, edits) :: rest) =
      Desk.applied after.owner.documents.view rest := by
  cases fit with
  | @applied document text found fit =>
      have here := Tracker.uri_of_get? found
      conv => lhs; unfold Desk.applied
      rw [Tracker.view_of_get? found]
      dsimp only [Option.map_some]
      rw [fit]
      change _ = Desk.applied (Tracker.put _ _).view _
      rw [Tracker.view_put, here]

omit [Halves] [Peer σ] in
private theorem applied_of_unfit {uri : String} {edits : List (TextEdit Json)} {failure : Failure}
    (unfit : AppliedHere uri edits s (.error failure) after)
    (rest : List (DocumentName × List (TextEdit Json))) :
    after = s ∧ Desk.applied s.owner.documents.view ((.uri uri, edits) :: rest) =
      s.owner.documents.view := by
  cases unfit with
  | unopened absent =>
      refine ⟨rfl, ?_⟩
      unfold Desk.applied
      rw [Tracker.view_of_get? absent]
      rfl
  | unfit found unfit =>
      refine ⟨rfl, ?_⟩
      unfold Desk.applied
      rw [Tracker.view_of_get? found]
      dsimp only [Option.map_some]
      rw [unfit]

omit [Halves] [Peer σ] in
private theorem ends_applyAll {targets : List (String × List (TextEdit Json))}
    {outcome : Outcome PUnit}
    (ended : Ends (doEach targets fun target => applyHere target.1 target.2 :
      Action (Reference σ) Client PUnit) s outcome after) :
    ∃ documents, after = withDocuments s documents ∧
      documents.view = Desk.applied s.owner.documents.view (named targets) ∧
      (s.owner.documents.Distinct → documents.Distinct) := by
  induction targets generalizing s with
  | nil =>
      obtain ⟨_, rfl⟩ := ends_doEach_nil.mp ended
      exact ⟨after.owner.documents, rfl, rfl, id⟩
  | cons first rest ih =>
      rcases ends_doEach_cons.mp ended with ⟨mid, ran, remaining⟩ | ⟨_, _, ran⟩
      · have fit := ends_applyHere ran
        obtain ⟨documents, rfl, views, distinct⟩ := ih remaining
        have same := applied_of_fit fit (named rest)
        cases fit
        exact ⟨documents, rfl, views.trans same.symm,
          fun before => distinct (Tracker.distinct_put before _)⟩
      · obtain ⟨rfl, same⟩ := applied_of_unfit (ends_applyHere ran) (named rest)
        exact ⟨after.owner.documents, rfl, same.symm, id⟩

/-- An edit that goes through the server keeps the client in step: an edit that the server applies is
applied here as well, and a server that cannot apply edits is told the changes. -/
theorem inStep_applyEdit (server : Peer.Receptive quiet) {edit : WorkspaceEdit} {label : String}
    {outcome : Outcome Unit} (mirrored : Mirrored quiet s)
    (handled : s.connection.receive? = none) (once : edit.names.Nodup)
    (delivered : ∀ problem, outcome = .error (.problem problem) → problem.kind ≠ .connectionClosed)
    (settled : Settled after) (ended : Ends (applyEdit edit label) s outcome after) :
    InStep quiet after := by
  have replied {targets : List (String × List (TextEdit Json))} {reached : Outcome Json}
      {mid : Session (Reference σ) Client} (names : edit.changes = named targets)
      (requested : Ends (request "workspace/applyEdit" (Desk.editParams edit label)) s reached
        mid) :
      Replied quiet edit s.owner reached mid := by
    refine replied_request server mirrored handled ⟨fun name member => ?_, once⟩ requested
    unfold WorkspaceEdit.names at member
    rw [names] at member
    obtain ⟨_, known, rfl⟩ := List.mem_map.mp member
    obtain ⟨target, _, rfl⟩ := List.mem_map.mp known
    exact ⟨target.1, rfl⟩
  cases ends_applyEdit ended with
  | unopened => exact ⟨mirrored, quiet_of_handled handled⟩
  | failed names requested =>
      cases replied names requested with
      | failed remains calm => exact ⟨remains, calm⟩
      | closed kind => exact absurd kind (delivered _ rfl)
      | pending _ unsettled => exact absurd settled unsettled
  | @told targets _ _ _ _ names unknown requested looped =>
      cases replied names requested with
      | failed remains calm =>
          have changes : Within (inStep quiet) (doEach targets fun target =>
              sendChanges target.1 target.2 : Action (Reference σ) Client PUnit) :=
            within_doEach fun target _ => within_sendChanges server target.1 target.2
          exact changes looped ⟨remains, calm⟩
      | closed kind => cases kind.symm.trans unknown.1
      | pending other _ => exact absurd unknown.1 (other _ rfl)
  | refused names requested rejected =>
      cases replied names requested with
      | answered idle calm sound language documents config texts =>
          rw [if_pos rejected, ← config, ← documents] at texts
          exact ⟨⟨idle, language.trans (congrArg (·.language) config.symm), texts,
            documents ▸ mirrored.distinct, sound⟩, calm⟩
  | applied names requested accepted looped =>
      cases replied names requested with
      | answered idle calm sound language documents config texts =>
          obtain ⟨_, rfl, views, distinct⟩ := ends_applyAll looped
          rw [if_neg accepted, names, ← config, ← documents] at texts
          exact ⟨⟨idle, language.trans (congrArg (·.language) config.symm),
            texts.trans views.symm, distinct (documents ▸ mirrored.distinct), sound⟩, calm⟩

/-! ### What the server does on its own -/

theorem mirrored_arrive (server : Peer.Receptive quiet) (arrivals : List Inbound)
    {outcome : Outcome Unit} (mirrored : Mirrored quiet s)
    (ended : Ends (Session.arrive handlers arrivals) s outcome after) : Mirrored quiet after := by
  rcases ends_bind.mp ended with ⟨_, _, delivered, drained⟩ | ⟨_, _, failed⟩
  · obtain ⟨_, rfl⟩ := Session.ends_modifyConnection.mp delivered
    refine (upkeep_mirrored server).intake.within_drain drained ?_
    exact mirrored.tend rfl fun sound => ⟨sound.waiting, sound.outcomes, sound.awake⟩
  · cases (Session.ends_modifyConnection.mp failed).1

theorem mirrored_arriveEnd (server : Peer.Receptive quiet) (closure : Closure)
    {outcome : Outcome Unit} (mirrored : Mirrored quiet s)
    (ended : Ends (Session.arriveEnd handlers closure) s outcome after) :
    Mirrored quiet after := by
  rcases ends_bind.mp ended with ⟨_, _, delivered, drained⟩ | ⟨_, _, failed⟩
  · obtain ⟨_, rfl⟩ := Session.ends_modifyConnection.mp delivered
    refine (upkeep_mirrored server).intake.within_drain drained (mirrored.tend ?_ ?_)
    · unfold Connection.endTransport
      split <;> rfl
    · intro sound
      unfold Connection.endTransport
      split
      · exact sound
      · exact ⟨sound.waiting, sound.outcomes, sound.awake⟩
  · cases (Session.ends_modifyConnection.mp failed).1

/-! ### Restarts -/

omit [Halves] in
theorem fitFarewell_ignores : FitFarewell Desk.Ignores :=
  ⟨Desk.ignores_request (by decide), Desk.ignores_notification (by decide)⟩

omit [Halves] in
theorem fitGreeting_ignores : FitGreeting Desk.Ignores :=
  ⟨Desk.ignores_request (by decide), Desk.ignores_notification (by decide)⟩

theorem within_requestRestart (server : Peer.Receptive quiet) :
    Within (inStep quiet) (requestRestart : Action (Reference σ) Client Bool) :=
  within_inStep ((routine_watching server).within_requestRestart fitFarewell_ignores)

theorem within_checkHealth (server : Peer.Receptive quiet) :
    Within (inStep quiet) (checkHealth : Action (Reference σ) Client Unit) :=
  within_inStep ((routine_watching server).within_checkHealth fitFarewell_ignores)

structure Replaying (quiet : σ → Prop) (done : List OpenDocument)
    (s : Session (Reference σ) Client) : Prop where
  idle : s.world.server.Idle quiet
  language : s.connection.language = s.owner.config.language
  texts : (s.world.server.desks s.owner.config.language).texts = Tracker.view ⟨done⟩
  sound : s.connection.Sound
  calm : s.connection.Quiet

omit [Halves] in
theorem replaying_launched (server : Peer.Receptive quiet) (idle : s.world.server.Idle quiet)
    {launched : Launched} {r : Reference σ}
    (launch : Peer.launch s.owner.config s.owner.root s.owner.settings s.world.files
      s.world.server = (.ok launched, r)) :
    Replaying quiet [] (launchedWith s launched r) := by
  have idle' := server.toQuiet.idle.launch s.owner.config s.owner.root s.owner.settings
    s.world.files idle
  have greeting := server.toQuiet.idle.greeting s.owner.config s.owner.root s.owner.settings
    s.world.files idle (congrArg Prod.fst launch)
  have empty : r.desks s.owner.config.language = {} := Reference.launched_desk launch
  rw [launch] at idle'
  refine ⟨idle', rfl, ?_, ⟨?_, ?_, fun _ => rfl⟩, ?_⟩
  · change (r.desks s.owner.config.language).texts = _
    rw [empty]
    rfl
  · exact fun _ member => absurd member List.not_mem_nil
  · exact fun _ member => absurd member List.not_mem_nil
  · refine Connection.quiet_deliver ?_ greeting
    exact fun _ _ member => absurd member List.not_mem_nil

omit [Halves] [Peer σ] in
theorem Replaying.watch {done : List OpenDocument} (replaying : Replaying quiet done s)
    (watched : (watching quiet).holds s after) : Replaying quiet done after := by
  obtain ⟨rest, kept⟩ := watched ⟨replaying.idle, replaying.calm⟩
  have desks : after.world.server.desks = s.world.server.desks := kept.world
  refine ⟨rest.server, ?_, ?_, kept.sound replaying.sound, rest.connection⟩
  · rw [kept.language, kept.config]
    exact replaying.language
  · rw [kept.config, desks]
    exact replaying.texts

/-- A client that has shaken hands with a new server holds its documents, and the server none. -/
theorem replaying_start (server : Peer.Receptive quiet) {capabilities : Json}
    (idle : s.world.server.Idle quiet)
    (fresh : s.owner.state = .uninitialized ∨ s.owner.state = .restarting)
    (ended : Ends start s (.ok capabilities) after) :
    Replaying quiet [] after ∧ after.owner.documents = s.owner.documents ∧
      after.owner.attached = true := by
  obtain ⟨_, mid, launching, greeting⟩ := ends_bind_ok.mp (ends_start fresh ended)
  rcases ends_launch launching with ⟨_, _, _, failed, _⟩ | ⟨launched, r, launch, _, rfl⟩
  · cases failed
  have replaying : Replaying quiet [] (launchedWith
      { s with owner := { s.owner with state := .initializing } } launched r) := by
    refine replaying_launched server ?_ ?_
    · exact idle
    · exact launch
  have watched := (routine_watching server).sittings.within_greet fitGreeting_ignores _ greeting
  obtain ⟨_, kept⟩ := watched ⟨replaying.idle, replaying.calm⟩
  exact ⟨replaying.watch watched, kept.documents, attached_of_greet greeting⟩

private theorem replaying_next (server : Peer.Receptive quiet) {done : List OpenDocument}
    {document : OpenDocument} (fresh : ¬Tracker.isOpen ⟨done⟩ document.uri = true)
    (replaying : Replaying quiet done s)
    (notified : Ends (Session.notify handlers "textDocument/didOpen" (openParams document) :
      Action (Reference σ) Client Unit) s (.ok ()) after) :
    Replaying quiet (done ++ [document]) after ∧ Undisturbed (fun _ => ()) s after := by
  have modest (desk : Desk) :
      (desk.hear (Connection.notificationMessage "textDocument/didOpen"
        (openParams document))).asked = desk.asked := by
    rw [Desk.hear_didOpen]
  cases carries_notify server notified replaying.calm replaying.idle modest with
  | told told =>
      have added : Tracker.put ⟨done⟩ document = ⟨done ++ [document]⟩ := if_neg fresh
      have texts := replaying.texts
      rw [← replaying.language] at texts
      refine ⟨⟨told.idle, ?_, ?_, told.undisturbed.sound replaying.sound,
        told.calm replaying.calm⟩, told.undisturbed⟩
      · rw [told.undisturbed.language, told.undisturbed.config]
        exact replaying.language
      · rw [told.undisturbed.config, ← replaying.language, told.desk, Desk.hear_didOpen, texts,
          ← added, Tracker.view_put]

private theorem replaying_all (server : Peer.Receptive quiet) {done rest : List OpenDocument}
    (distinct : Tracker.Distinct ⟨done ++ rest⟩) (replaying : Replaying quiet done s)
    (ended : Ends (doEach rest fun document =>
      Session.notify handlers "textDocument/didOpen" (openParams document) :
      Action (Reference σ) Client PUnit) s (.ok PUnit.unit) after) :
    Replaying quiet (done ++ rest) after ∧ Undisturbed (fun _ => ()) s after := by
  induction rest generalizing done s with
  | nil =>
      obtain ⟨_, rfl⟩ := ends_doEach_nil.mp ended
      rw [List.append_nil]
      exact ⟨replaying, .refl⟩
  | cons document rest ih =>
      rcases ends_doEach_cons.mp ended with ⟨mid, notified, remaining⟩ | ⟨_, impossible, _⟩
      · have fresh : ¬Tracker.isOpen ⟨done⟩ document.uri = true := by
          intro known
          have member : document.uri ∈ done.map (·.uri) := Tracker.isOpen_iff.mp known
          unfold Tracker.Distinct Tracker.uris at distinct
          rw [List.map_append, List.nodup_append] at distinct
          exact distinct.2.2 _ member _ List.mem_cons_self rfl
        obtain ⟨opened, first⟩ := replaying_next server fresh replaying notified
        rw [List.append_cons] at distinct ⊢
        obtain ⟨last, others⟩ := ih distinct opened remaining
        exact ⟨last, first.trans others⟩
      · cases impossible

theorem inStep_comeBack (server : Peer.Receptive quiet) (idle : s.world.server.Idle quiet)
    (distinct : s.owner.documents.Distinct) (restarting : s.owner.state = .restarting)
    (ended : Ends comeBack s (.ok ()) after) : InStep quiet after := by
  obtain ⟨_, mid, started, replayed⟩ := ends_bind_ok.mp ended
  obtain ⟨replaying, documents, attached⟩ := replaying_start server idle (.inr restarting) started
  rcases ends_ite.mp (ends_replay_reopen replayed) with ⟨_, looping⟩ | ⟨detached, _⟩
  · obtain ⟨_, _, looped, done⟩ := ends_bind_ok.mp looping
    obtain ⟨_, rfl⟩ := ends_pure.mp done
    have reset : Tracker.Distinct ⟨[] ++ mid.owner.documents.resetVersions.documents⟩ := by
      change (Tracker.uris (mid.owner.documents.resetVersions)).Nodup
      rw [Tracker.uris_resetVersions, documents]
      exact distinct
    have begun : Replaying quiet [] { mid with owner :=
        { mid.owner with documents := mid.owner.documents.resetVersions } } :=
      ⟨replaying.idle, replaying.language, replaying.texts, replaying.sound, replaying.calm⟩
    obtain ⟨last, undisturbed⟩ := replaying_all server reset begun looped
    have kept : after.owner.documents = mid.owner.documents.resetVersions :=
      undisturbed.documents
    refine ⟨⟨last.idle, last.language, ?_, ?_, last.sound⟩, last.calm⟩
    · rw [last.texts, kept]
      rfl
    · rw [kept]
      exact reset
  · exact absurd attached detached

def Restored (s : Session (Reference σ) Client) : Prop :=
  s.owner.restartNeeded = false ∧ s.owner.state ≠ .shutDown

theorem inStep_completeRestart (server : Peer.Receptive quiet) {outcome : Outcome Unit}
    (stepped : InStep quiet s) (done : outcome = .ok ()) (restored : Restored after)
    (ended : Ends completeRestart s outcome after) : InStep quiet after := by
  obtain ⟨⟨idle, language, texts, distinct, sound⟩, calm⟩ := stepped
  cases done
  have checked := ends_current_bind.mp (ends_update_bind.mp ended)
  rcases ends_ite.mp checked with ⟨_, leaving⟩ | ⟨restarting, returning⟩
  · obtain ⟨_, rfl⟩ := ends_pure.mp (ends_update_bind.mp leaving)
    exact ⟨⟨idle, language, texts, distinct, sound⟩, calm⟩
  · obtain ⟨reached, mid, trying, finishing⟩ := ends_bind_ok.mp returning
    obtain ⟨_, same, back⟩ := Session.ends_attempt.mp trying
    cases same
    cases reached with
    | ok value =>
        obtain ⟨_, rfl⟩ := ends_update.mp finishing
        obtain ⟨⟨idle, language, texts, distinct, sound⟩, calm⟩ :=
          inStep_comeBack (s := { s with owner := { s.owner with backoff := none } }) server idle
            distinct (Decidable.not_not.mp restarting) back
        exact ⟨⟨idle, language, texts, distinct, sound⟩, calm⟩
    | error failure =>
        cases failure with
        | problem problem =>
            obtain ⟨_, rfl⟩ := ends_update.mp finishing
            obtain ⟨needless, open_⟩ := restored
            dsimp only at needless open_
            split at needless
            · next shut => rw [if_pos shut] at open_; exact absurd shut open_
            · cases needless
        | _ => cases (ends_throw.mp finishing).1

end Scalpel.Client
