import Scalpel.Proofs.Clerk
import Scalpel.Proofs.InStep
import Scalpel.Proofs.Stages

/-!
The texts that the edits of a rename are for and the texts that they are applied to. The server works
out a rename for the texts that it has been sent. Only after that the documents of the rename are
brought up to date, so its edits are applied to what the files hold by then. The two texts are the same
exactly for those documents whose files have not changed.
-/

set_option autoImplicit false

namespace Scalpel

/-! ### Servers under desks -/

section Reference

variable {σ : Type} [Peer σ] {quiet : σ → Prop}

theorem Peer.Quiet.reference (server : Peer.Quiet quiet fun _ => True) :
    Peer.Quiet (fun r : Reference σ => quiet r.server) fun _ => True where
  launch config root settings files r held := by
    have kept := server.launch config root settings files held
    change quiet (r.launched _ (Peer.launch config root settings files r.server)).2.server
    rcases launch : Peer.launch config root settings files r.server with ⟨_ | _, _⟩
    · rw [launch] at kept
      exact kept
    · rw [launch] at kept
      exact kept
  greeting config root settings files _ _ held done := by
    refine server.greeting config root settings files held (done ▸ ?_)
    exact (Reference.launched_fst _).symm
  react language _ files r held _ := by
    change quiet (r.reacted language _ _ _).server
    rw [Reference.reacted_server]
    exact server.react language files held trivial
  reaction language _ files _ held _ := server.reaction language files held trivial

omit [Peer σ] in
theorem Peer.SparesFiles.reference [Peer σ] (spares : Peer.SparesFiles σ) :
    Peer.SparesFiles (Reference σ) :=
  fun language message files r => spares language message files r.server

end Reference

namespace Client

variable [Halves] {σ : Type} [Peer σ] {quiet : σ → Prop} {s after : Session (Reference σ) Client}

/-! ### Clients in step -/

theorem inStep_adopt (server : Peer.Receptive quiet) {uri content : String}
    (stepped : InStep quiet s) (ended : Ends (adopt uri content) s (.ok ()) after) :
    InStep quiet after := by
  have looked := ends_current_bind.mp ended
  split at looked
  · obtain ⟨_, _, opened, done⟩ := ends_bind_ok.mp looked
    obtain ⟨_, rfl⟩ := ends_pure.mp done
    refine inStep_openDocument server stepped (fun _ same => ?_) opened
    cases same
  · rcases ends_ite.mp looked with ⟨_, changing⟩ | ⟨_, done⟩
    · obtain ⟨_, _, changed, done⟩ := ends_bind_ok.mp changing
      obtain ⟨_, rfl⟩ := ends_pure.mp done
      exact within_change server uri _ changed stepped
    · obtain ⟨_, rfl⟩ := ends_pure.mp done
      exact stepped

theorem watched_findSymbol (server : Peer.Receptive quiet) (uri name : String) :
    Within (watching quiet) (findSymbol uri name : Action (Reference σ) Client (Option Symbol)) :=
  (routine_watching server).dealings.within_findSymbol (Desk.ignores_request (by decide)) uri name

theorem watched_rename (server : Peer.Receptive quiet) (uri : String) (place : Position)
    (newName : Json) :
    Within (watching quiet) (rename uri place newName : Action (Reference σ) Client WorkspaceEdit) :=
  (routine_watching server).dealings.within_rename (Desk.ignores_request (by decide)) uri place newName

theorem inStep_begin (server : Peer.Receptive quiet) (idle : s.world.server.Idle quiet)
    (fresh : s.owner.state = .uninitialized) (bare : s.owner.documents = {})
    (ended : Ends (setOut : Action (Reference σ) Client Unit) s (.ok ()) after) :
    InStep quiet after := by
  obtain ⟨_, mid, started, monitoring⟩ := ends_bind_ok.mp ended
  obtain ⟨replaying, documents, _⟩ := replaying_start server idle (.inl fresh) started
  have none : mid.owner.documents = {} := documents.trans bare
  have stepped : InStep quiet mid := by
    refine ⟨⟨replaying.idle, replaying.language, ?_, ?_, replaying.sound⟩, replaying.calm⟩
    · rw [none]
      exact replaying.texts
    · rw [none]
      exact List.nodup_nil
  exact within_inStep (routine_watching server).within_startMonitor monitoring stepped

end Client

namespace Workspace

variable [Halves] {σ : Type} {quiet : σ → Prop} {w after : Workspace (Reference σ)}
  {language uri : String}

/-- The clients of a workspace are in step with their servers. -/
structure InStep (quiet : σ → Prop) (w : Workspace (Reference σ)) : Prop where
  idle : w.world.server.Idle quiet
  members : ∀ ⦃language member⦄, w.member? language = some member →
    Client.InStep quiet (w.sessionOf member)

def InStepFor (quiet : σ → Prop) (w : Workspace (Reference σ)) (language : String) : Prop :=
  ∃ member, w.member? language = some member ∧ Client.InStep quiet (w.sessionOf member)

/-- The text that the server of a language has been sent for a document. -/
def sentTo (w : Workspace (Reference σ)) (language uri : String) : Option String :=
  (w.member? language).bind fun member =>
    ((w.world.server.desks member.client.language).texts uri).map (·.text)

omit [Halves] in
theorem InStepFor.sentTo (stepped : w.InStepFor quiet language) (uri : String) :
    w.sentTo language uri = w.textFor language uri := by
  obtain ⟨member, found, mirrored, _⟩ := stepped
  have texts : (w.world.server.desks member.client.language).texts uri =
      member.client.documents.view uri :=
    congrFun mirrored.texts uri
  unfold Workspace.sentTo textFor
  rw [found]
  change ((w.world.server.desks member.client.language).texts uri).map _ =
    member.client.documents.text? uri
  rw [texts]
  unfold Tracker.view Tracker.text?
  rw [Option.map_map]
  rfl

omit [Halves] in
theorem sessionOf_withSession (w : Workspace (Reference σ)) (language : String)
    (s : Session (Reference σ) Client) :
    (w.withSession language s).sessionOf (memberOf s) = s := by
  unfold sessionOf
  rw [world_withSession]
  rfl

omit [Halves] in
theorem InStepFor.acts {α : Type} {action : Action (Reference σ) Client α} {value : α}
    (stays : ∀ {s last}, Client.InStep quiet s → Ends action s (.ok value) last →
      Client.InStep quiet last)
    (stepped : w.InStepFor quiet language)
    (ended : Ends (onClient language action) w (.ok value) after) :
    after.InStepFor quiet language := by
  obtain ⟨member, found, here⟩ := stepped
  rcases ends_onClient.mp ended with ⟨_, impossible, _⟩ | ⟨_, session, known, acted, rfl⟩
  · cases impossible
  · cases found.symm.trans known
    refine ⟨memberOf session, ?_, ?_⟩
    · rw [member?_withSession, if_pos rfl]
    · rw [sessionOf_withSession]
      exact stays here acted

/-! ### Stages of a rename -/

variable [Peer σ] {op : EditOperation} {g : Stages (Reference σ)} {symbol : Symbol}

theorem inStepFor_needClient (server : Peer.Receptive quiet) (stepped : w.InStep quiet)
    (ended : Ends (needClient language : Operation (Reference σ) Unit) w (.ok ()) after) :
    after.InStepFor quiet language := by
  cases ends_needClient ended with
  | running opening running =>
      obtain ⟨member, found⟩ := Option.isSome_iff_exists.mp running
      rw [ends_openUp opening] at found
      have known : w.member? language = some member := member?_of_listed found
      rw [ends_openUp opening]
      exact ⟨member, known, stepped.members known⟩
  | @begun _ opened _ session opening _ _ started =>
      have idle : opened.world.server.Idle quiet := by
        rw [ends_openUp opening]
        exact stepped.idle
      refine ⟨memberOf session, ?_, Client.inStep_begin server idle rfl rfl started⟩
      exact (member?_joined _ language (memberOf session) language).trans (if_pos rfl)

theorem Found.inStepFor (server : Peer.Receptive quiet) (stepped : w.InStep quiet)
    {opened fresh : Workspace (Reference σ)}
    (found : Found op language uri symbol w opened fresh after) :
    after.InStepFor quiet language := by
  obtain ⟨settings, ready, opening, _, needed⟩ := ends_needClientFor found.needed
  have here : ready.InStep quiet := by
    rw [ends_openUp opening]
    exact ⟨stepped.idle, stepped.members⟩
  have first : opened.InStepFor quiet language := inStepFor_needClient server here needed
  obtain ⟨content, mid, reading, adopting⟩ := ends_bind_ok.mp found.synchronized
  obtain ⟨settings, _, loaded, locating⟩ := ends_bind_ok.mp reading
  rw [ends_needSettings loaded] at locating
  obtain ⟨⟨_, path⟩, _, located, opening⟩ := ends_bind_ok.mp locating
  obtain ⟨_, rfl⟩ := ends_locate located
  obtain ⟨_, rfl⟩ := ends_settle.mp (ends_get_bind.mp (ends_note_bind.mp opening))
  have read : InStepFor quiet
      (({ opened with settings := some settings } : Workspace (Reference σ)).noted path) language :=
    first
  have second : fresh.InStepFor quiet language :=
    read.acts (fun here adopted => Client.inStep_adopt server here adopted) adopting
  obtain ⟨name, sought⟩ := found.sought
  exact second.acts (fun here asked =>
    Client.within_inStep (Client.watched_findSymbol server uri name) asked here) sought

/-- A server that works out a rename has been sent the texts that its client had before and has
after. -/
theorem Staged.sentTo (server : Peer.Receptive quiet) (stepped : w.InStep quiet)
    (rename : op.kind = .refactor) (staged : Staged op w g) (uri : String) :
    g.known.sentTo g.language uri = g.known.textFor g.language uri ∧
      g.worked.sentTo g.language uri = g.known.textFor g.language uri := by
  obtain ⟨_, _, found⟩ := ends_findTarget staged.known
  have before := found.inStepFor server stepped
  refine ⟨before.sentTo uri, ?_⟩
  have watched : Within (Client.watching quiet)
      (workOut op g.uri g.symbol : Action (Reference σ) Client WorkspaceEdit) := by
    unfold workOut
    dsimp only
    rw [rename]
    exact Client.watched_rename server _ _ _
  have after := before.acts (fun here worked => Client.within_inStep watched worked here)
    staged.worked
  rw [after.sentTo]
  obtain ⟨member, known, here⟩ := before
  rcases ends_onClient.mp staged.worked with ⟨_, impossible, _⟩ | ⟨_, session, same, worked, last⟩
  · cases impossible
  · cases known.symm.trans same
    obtain ⟨_, kept⟩ := watched worked ⟨here.1.idle, here.2⟩
    unfold textFor
    rw [last, member?_withSession, if_pos rfl, known]
    change (memberOf session).client.documents.text? uri = member.client.documents.text? uri
    exact congrArg (·.text? uri) kept.documents

/-! ### Sent and applied texts -/

/-- A document of a rename that the client had before: the text that its server had been sent when it
answered is the one that the client had, and the text that the edits are applied to is the one that the
file holds. They are the same exactly if the file holds what the client had. -/
def Positioned (w : Workspace (Reference σ)) (g : Stages (Reference σ)) (uri tracked : String) :
    Prop :=
  g.known.sentTo g.language uri = some tracked ∧ g.worked.sentTo g.language uri = some tracked ∧
    ∃ path text, Read w g.settings.encoding uri path text ∧
      g.fresh.textFor g.language uri = some text ∧
      (g.fresh.textFor g.language uri = g.worked.sentTo g.language uri ↔ text = tracked)

omit [Halves] [Peer σ] in
theorem InStep.calm (stepped : w.InStep quiet) : w.Calm fun r => quiet r.server :=
  ⟨stepped.idle.server, fun _ _ found => (stepped.members found).2⟩

theorem Staged.positioned (server : Peer.Receptive quiet) (spares : Peer.SparesFiles σ)
    (stepped : w.InStep quiet) (rename : op.kind = .refactor) (staged : Staged op w g)
    {tracked : String} (listed : .uri uri ∈ g.edit.names)
    (had : g.known.textFor g.language uri = some tracked) : Positioned w g uri tracked := by
  obtain ⟨before, answered⟩ := staged.sentTo server stepped rename uri
  rw [had] at before answered
  have files := spares.reference
  rw [(staged.read files).1] at listed
  obtain ⟨⟨name, path⟩, target, same⟩ := List.mem_map.mp listed
  cases same
  obtain ⟨text, read, fresh⟩ :=
    (staged.texts server.toQuiet.reference files stepped.calm).2 _ target
  refine ⟨before, answered, path, text, read, fresh, ?_⟩
  rw [fresh, answered]
  exact Option.some_inj

/-- The positions of a rename fit the texts that its edits are applied to exactly for those documents
of the client whose files still hold what the server had been sent. Every rename that succeeds has
applied its edits in this way. -/
theorem rename_positions_fit_iff (server : Peer.Receptive quiet) (spares : Peer.SparesFiles σ)
    (stepped : w.InStep quiet) (rename : op.kind = .refactor) :
    (∀ g, Staged op w g → ∀ change ∈ g.edit.changes, ∀ uri tracked, change.1 = .uri uri →
      g.known.textFor g.language uri = some tracked → Positioned w g uri tracked) ∧
    ∀ result edit last, Ends (perform op) w (.ok result) last → result.success = true →
      result.dryRun = false → result.edits = some edit → edit.isEmpty = false →
      ∃ g, Submitted op w g ∧ g.edit = edit ∧ (edit.names.Nodup → ∀ change ∈ edit.changes,
        ∃ uri old text, change.1 = .uri uri ∧ g.fresh.textFor g.language uri = some old ∧
          Document.applyReceived old change.2 = .ok text ∧
          g.ready.textFor g.language uri = some text) := by
  refine ⟨fun g staged change member uri tracked named had => ?_,
    fun result edit last ended succeeded meant given nonempty => ?_⟩
  · exact staged.positioned server spares stepped rename
      (named ▸ List.mem_map_of_mem member) had
  · obtain ⟨g, submitted, rfl, _⟩ :=
      submitted_of_success spares.reference ended succeeded meant given nonempty
    have calm := (submitted.toStaged.texts server.toQuiet.reference spares.reference
      stepped.calm).1
    exact ⟨g, submitted, rfl, submitted.edited server.toQuiet.reference calm⟩

end Workspace

end Scalpel

/-! ### A rename in a file that has changed -/

namespace Scalpel.Workspace

local instance renamePositionsHalves : Halves :=
  Halves.trial

def renamingClerk : Clerk :=
  { answers := ("textDocument/rename", .obj [("changes", .obj [("file:///w/b.py", .arr [.obj [
      ("range", (Range.mk ⟨0, 0⟩ ⟨0, 1⟩).toJson),
      ("newText", .str "g")]])])]) :: Clerk.editing.answers }

def staleDocument : OpenDocument :=
  { uri := "file:///w/b.py", languageId := .str "py", version := 1, content := "f\n" }

def staleMember : Member :=
  { client :=
      { Client.make { language := "py", command := .str "py-server", extensions := [".py"] } "/w"
          (Clerk.settings (.str "utf-8")) 0.0 with
        state := .ready
        attached := true
        documents := ⟨[staleDocument]⟩ }
    connection := { language := "py", name := "py-server" } }

/-- A workspace in which the file of the document has got a new first line. -/
def staleWorkspace : Workspace (Reference Clerk) :=
  { world :=
      { server :=
          { server := renamingClerk
            desks := fun _ => { texts := Tracker.view ⟨[staleDocument]⟩ } }
        files :=
          { entries := [
              ([['w']], .directory),
              ([['w'], ['a', '.', 'p', 'y']], .file [102, 32, 61, 32, 49, 10] 0o644),
              ([['w'], ['b', '.', 'p', 'y']], .file [35, 10, 102, 10] 0o644)]
            workingDirectory := "/w" } }
    root := "/w"
    settings := some (Clerk.settings (.str "utf-8"))
    isOpen := true
    members := [("py", staleMember)] }

def staleRename : EditOperation :=
  { kind := .refactor, uri := .str "a.py", symbol := .str "f", newName := .str "g" }

def touches (edit : WorkspaceEdit) (uri : String) : Bool :=
  edit.names.any fun name =>
    match name with
    | .uri other => decide (other = uri)
    | .stray _ => false

/-- The text that the client has of the document before the rename is worked out, and the one that it
has when the edit is submitted. -/
def staleTexts : Operation (Reference Clerk) (Option String × Option String) := do
  let (language, uri, symbol) ← findTarget staleRename
  let tracked := (← get).textFor language "file:///w/b.py"
  let edit ← onClient language (workOut staleRename uri symbol)
  let _ ← bringUpToDate language edit
  return (tracked, (← get).textFor language "file:///w/b.py")

def hasTouched (uri : String) : Outcome EditResult → Bool
  | .ok result => result.success && !result.dryRun && match result.edits with
    | some edit => !edit.isEmpty && touches edit uri
    | none => false
  | .error _ => false

private theorem mem_of_touches {edit : WorkspaceEdit} {uri : String}
    (touched : touches edit uri = true) : .uri uri ∈ edit.names := by
  obtain ⟨name, listed, same⟩ := List.any_eq_true.mp touched
  split at same
  · next other =>
    rw [← of_decide_eq_true same]
    exact listed
  · cases same

private theorem ends_staleTexts {g : Stages (Reference Clerk)}
    (staged : Staged staleRename staleWorkspace g) :
    Ends staleTexts staleWorkspace (.ok (g.known.textFor g.language "file:///w/b.py",
      g.fresh.textFor g.language "file:///w/b.py")) g.fresh := by
  refine ends_bind_ok.mpr ⟨_, _, staged.known, ?_⟩
  refine ends_get_bind.mpr (ends_bind_ok.mpr ⟨_, _, staged.worked, ?_⟩)
  refine ends_bind_ok.mpr ⟨_, _, staged.fresh, ?_⟩
  exact ends_get_bind.mpr (ends_pure.mpr ⟨rfl, rfl⟩)

private theorem inStep_staleWorkspace : staleWorkspace.InStep fun _ => True := by
  have idle : staleWorkspace.world.server.Idle fun _ => True := ⟨trivial, fun _ => rfl⟩
  refine ⟨idle, fun language member found => ?_⟩
  have same : member = staleMember := by
    change (List.lookup language [("py", staleMember)]).orElse _ = some member at found
    rw [List.lookup_cons] at found
    split at found
    · cases found
      rfl
    · cases found
  subst same
  have mirrored : Client.Mirrored (fun _ => True) (staleWorkspace.sessionOf staleMember) := by
    refine ⟨idle, rfl, rfl, List.nodup_cons.mpr ⟨List.not_mem_nil, List.nodup_nil⟩, ?_⟩
    refine ⟨?_, ?_, fun _ => rfl⟩
    · exact fun _ member => absurd member List.not_mem_nil
    · exact fun _ member => absurd member List.not_mem_nil
  exact ⟨mirrored, fun _ _ member => absurd member List.not_mem_nil⟩

theorem rename_positions_fit_iff_of_changed :
    staleWorkspace.InStep (fun _ => True) ∧
      ∃ g, Submitted staleRename staleWorkspace g ∧
        Positioned staleWorkspace g "file:///w/b.py" "f\n" ∧
        g.worked.sentTo g.language "file:///w/b.py" = some "f\n" ∧
        g.fresh.textFor g.language "file:///w/b.py" = some "#\nf\n" := by
  have stepped := inStep_staleWorkspace
  obtain ⟨positions, succeeds⟩ := rename_positions_fit_iff Clerk.receptive Clerk.sparesFiles stepped
    (show staleRename.kind = .refactor from rfl)
  obtain ⟨result, ended⟩ := ends_of_isOk
    (show ((perform staleRename).run staleWorkspace).1.isOk = true by decide +kernel)
  have checked :
      hasTouched "file:///w/b.py" ((perform staleRename).run staleWorkspace).1 = true := by
    decide +kernel
  rw [show ((perform staleRename).run staleWorkspace).1 = .ok result from congrArg Prod.fst ended,
    hasTouched, Bool.and_eq_true, Bool.and_eq_true, Bool.not_eq_true'] at checked
  obtain ⟨⟨succeeded, meant⟩, edited⟩ := checked
  split at edited
  · next edit given =>
    obtain ⟨nonempty, touched⟩ := Bool.and_eq_true_iff.mp edited
    obtain ⟨g, submitted, rfl, _⟩ := succeeds result edit _ ended succeeded meant given
      (Bool.not_eq_eq_eq_not.mp nonempty)
    obtain ⟨change, member, named⟩ := List.mem_map.mp (mem_of_touches touched)
    have texts : (staleTexts.run staleWorkspace).1.toOption = some (some "f\n", some "#\nf\n") := by
      decide +kernel
    rw [show (staleTexts.run staleWorkspace).1 = _ from
      congrArg Prod.fst (ends_staleTexts submitted.toStaged)] at texts
    obtain ⟨tracked, applied⟩ := Prod.mk.inj (Option.some.inj texts)
    have positioned := positions g submitted.toStaged change member _ _ named tracked
    exact ⟨stepped, g, submitted, positioned, positioned.2.1, applied⟩
  · cases edited

end Scalpel.Workspace
