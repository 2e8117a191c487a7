import Scalpel.Proofs.RealPaths
import Scalpel.Proofs.Spoiling

/-!
The files that a workspace opens. Whatever it is asked for, and whatever its servers answer, each file
that it opens has its real path at or below the root's, and no other file is changed.
-/

set_option autoImplicit false

namespace Scalpel

variable [Halves]

/-! ### Paths by which files are opened -/

namespace FileTree

variable {t like made : FileTree} {root path : String} {place : Place}

/-- A path by which a file may be opened. Its real path is that of the root or goes on from it, in files
that differ in nothing but what they contain. -/
def Inside (t : FileTree) (root path : String) : Prop :=
  ∃ (like : FileTree) (real base : String), t.Alike like ∧ like.canonical? path = .ok real ∧
    like.canonical? root = .ok base ∧ Path.Below base real

theorem Leads.alike (alike : t.Alike like) (leads : like.Leads path place) : t.Leads path place := by
  obtain ⟨content, mode, located⟩ := leads
  have back := alike.symm.locate true path
  rw [located] at back
  rcases alike.symm.same_or_file place with same | ⟨_, other, mode', _, there⟩
  · refine ⟨content, mode, back.trans ?_⟩
    change Except.ok (place, t.get? place) = _
    rw [same, ← entry_of_locate located]
  · refine ⟨other, mode', back.trans ?_⟩
    change Except.ok (place, t.get? place) = _
    rw [there]

end FileTree

namespace Workspace

variable {σ : Type} {w after : Workspace σ} {t : FileTree} {root path : String}

/-- A place that a path leads to, where directories that were missing may have been made. -/
def Reaches (t : FileTree) (path : String) (place : Place) : Prop :=
  ∃ made entry, Extended t made ∧ made.locate true path = .ok (place, entry)

/-- What is at a place is as it was, or a new directory, or one of the paths leads there. -/
def Accounted (t before after : FileTree) (paths : List String) (place : Place) : Prop :=
  after.get? place = before.get? place ∨
    (before.get? place = none ∧ after.get? place = some .directory) ∨
    ∃ path ∈ paths, Reaches t path place

theorem Accounted.trans {a b c : FileTree} {one two : List String} {place : Place}
    (first : Accounted t a b one place) (second : Accounted t b c two place) :
    Accounted t a c (two ++ one) place := by
  have earlier (path : String) (member : path ∈ one) : path ∈ two ++ one :=
    List.mem_append_right _ member
  rcases second with same | ⟨absent, directory⟩ | ⟨path, member, reaches⟩
  · rcases first with before | ⟨absent, directory⟩ | ⟨path, member, reaches⟩
    · exact .inl (same.trans before)
    · exact .inr (.inl ⟨absent, same.trans directory⟩)
    · exact .inr (.inr ⟨path, earlier path member, reaches⟩)
  · rcases first with before | ⟨_, there⟩ | ⟨path, member, reaches⟩
    · exact .inr (.inl ⟨before.symm.trans absent, directory⟩)
    · cases absent.symm.trans there
    · exact .inr (.inr ⟨path, earlier path member, reaches⟩)
  · exact .inr (.inr ⟨path, List.mem_append_left _ member, reaches⟩)

/-- Files have been opened by paths inside the root only, and no others have changed. -/
def Opened (t : FileTree) (root : String) (w after : Workspace σ) : Prop :=
  ∃ new, after.opened = new ++ w.opened ∧ (∀ path ∈ new, t.Inside root path) ∧
    ∀ place, Accounted t w.world.files after.world.files new place

def opening (t : FileTree) (root : String) : Frame (Workspace σ) where
  holds := Opened t root
  refl _ := ⟨[], rfl, fun _ member => absurd member List.not_mem_nil, fun _ => .inl rfl⟩
  trans := by
    rintro a b c ⟨one, first, inside, left⟩ ⟨two, second, inside', left'⟩
    refine ⟨two ++ one, ?_, fun path member => ?_, fun place => (left place).trans (left' place)⟩
    · rw [second, first, List.append_assoc]
    · rcases List.mem_append.mp member with late | early
      · exact inside' path late
      · exact inside path early

def Stable (t : FileTree) (root : String) (w : Workspace σ) : Prop :=
  t.Alike w.world.files ∧ w.root = root

def confining (t : FileTree) (root : String) : Frame (Workspace σ) :=
  Frame.guarded (Stable t root) (opening t root)

theorem confining_of_same (files : after.world.files = w.world.files) (rooted : after.root = w.root)
    (opened : after.opened = w.opened) : (confining t root).holds w after := by
  intro stable
  unfold Stable
  rw [files, rooted]
  refine ⟨stable, [], opened, fun _ member => absurd member List.not_mem_nil, fun place => .inl ?_⟩
  rw [files]

theorem whereabouts_eq_ok {uri named : String} (found : w.whereabouts uri = .ok (named, path)) :
    Uri.normalize w.world.files.workingDirectory uri w.root = .ok named ∧
      w.world.files.resolveDocument named w.root = .ok path := by
  unfold whereabouts at found
  cases normal : Uri.normalize w.world.files.workingDirectory uri w.root with
  | error failure =>
      rw [normal] at found
      cases found
  | ok other =>
      rw [normal] at found
      cases resolved : w.world.files.resolveDocument other w.root with
      | error failure =>
          change (do return (other, ← w.world.files.resolveDocument other w.root)) = _ at found
          rw [resolved] at found
          cases found
      | ok real =>
          change (do return (other, ← w.world.files.resolveDocument other w.root)) = _ at found
          rw [resolved] at found
          cases found
          exact ⟨rfl, resolved⟩

theorem inside_of_whereabouts (canonical : t.Canonical) (stable : Stable t root w) {uri named : String}
    (found : w.whereabouts uri = .ok (named, path)) : t.Inside root path := by
  obtain ⟨alike, rfl⟩ := stable
  obtain ⟨normal, resolved⟩ := whereabouts_eq_ok found
  obtain ⟨⟨document, _, absolute, real⟩, base, there, below⟩ :=
    FileTree.placed_of_resolveDocument (Uri.isFile_of_normalize normal) resolved
  exact ⟨_, path, base, alike, canonical _ _ _ alike absolute real, there, below⟩

/-- Whatever clients do to files that servers spare, and whatever documents are read, a workspace is
confined. -/
theorem houses_confining (canonical : t.Canonical) :
    Houses (confining t root : Frame (Workspace σ)) Client.filesStay where
  acts {w language _ session} _ stays := by
    refine confining_of_same ?_ (root_withSession _ _ _) (opened_withSession _ _ _)
    rw [world_withSession]
    exact stays
  joins stays := confining_of_same stays rfl rfl
  leaves {w language client session} stays := by
    unfold setApart
    split
    · exact confining_of_same stays rfl rfl
    · exact confining_of_same stays rfl rfl
  opens _ _ := confining_of_same rfl rfl rfl
  loads _ _ _ := confining_of_same rfl rfl rfl
  notes {w uri named path} found stable := by
    refine ⟨stable, [path], rfl, fun other member => ?_, fun _ => .inl rfl⟩
    rw [List.mem_singleton.mp member]
    exact inside_of_whereabouts canonical stable found

/-! ### Writing -/

theorem within_putText_confining {encoding : Json} (inside : t.Inside root path)
    (leads : ∃ place, t.Leads path place) (text : String) :
    Within (confining t root) (putText encoding path text : Operation σ (Option OsError)) := by
  obtain ⟨place, lead⟩ := leads
  have only : ∀ other ∈ [path], t.Inside root other := by
    intro other member
    rw [List.mem_singleton.mp member]
    exact inside
  intro w after outcome ended stable
  -- whatever is put there, the place is the one that the path leads to
  have placed {files : FileTree} {found : Place} {mode : Nat} (bytes : Bytes)
      (opened : (w.noted path).world.files.openForWriting path = .ok (files, found, mode)) :
      Stable t root ((w.noted path).withFiles (w.world.files.put found (.file bytes mode))) ∧
        Opened t root w
          ((w.noted path).withFiles (w.world.files.put found (.file bytes mode))) := by
    obtain ⟨located, _, named, entry⟩ := FileTree.openForWriting_eq_ok opened
    obtain ⟨content, old, there⟩ := lead
    have now := stable.1.locate true path
    rw [there] at now
    cases now.symm.trans located
    have file : ∃ content, w.world.files.get? place = some (.file content mode) := by
      rcases entry with absent | file
      · have form := stable.1.form place
        rw [← FileTree.entry_of_locate there] at form
        rw [show w.world.files.get? place = none from absent] at form
        cases form
      · exact file
    obtain ⟨_, here⟩ := file
    refine ⟨⟨stable.1.trans (.put here), stable.2⟩, [path], rfl, only, fun other => ?_⟩
    by_cases same : other = place
    · subst same
      exact .inr (.inr ⟨path, List.mem_cons_self, t, _, fun _ => .inl rfl, there⟩)
    · refine .inl ?_
      change (w.world.files.put place _).get? other = _
      rw [FileTree.get?_put _ named, if_neg same]
  cases ends_putText ended with
  | misnamed _ => exact ⟨stable, [path], rfl, only, fun _ => .inl rfl⟩
  | unopened _ => exact ⟨stable, [path], rfl, only, fun _ => .inl rfl⟩
  | emptied opened _ => exact placed _ opened
  | written opened _ => exact placed _ opened

/-- What a workspace opens for writing a document is inside the root, and no other file changes. -/
theorem opened_of_writeText (canonical : w.world.files.Canonical) {uri text : String}
    {outcome : Outcome Unit} (ended : Ends (writeText uri text : Operation σ Unit) w outcome after) :
    Opened w.world.files w.root w after := by
  have stable : Stable w.world.files w.root w := ⟨.refl, rfl⟩
  -- either nothing has been opened, or the path of the document has
  have unopened (opened : after.opened = w.opened)
      (kept : ∀ place, Accounted w.world.files w.world.files after.world.files [] place) :
      Opened w.world.files w.root w after :=
    ⟨[], opened, fun _ member => absurd member List.not_mem_nil, kept⟩
  cases ends_writeText ended with
  | unsettled _ files opened => exact unopened opened fun _ => .inl (by rw [files])
  | lost _ files opened => exact unopened opened fun _ => .inl (by rw [files])
  | @blocked _ path made _ _ _ _ prepared files opened =>
      refine unopened opened fun place => ?_
      have grown := extended_makeDirectories w.world.files
        (waysTo (String.ofList (Path.directory path.toList))) place
      unfold withWay at prepared
      rw [prepared] at grown
      rw [files]
      exact grown.imp_right .inl
  | @put _ _ path made base _ _ _ found prepared _ opened _ put _ _ =>
      have kept : after.opened = base.opened := by cases put <;> rfl
      refine ⟨[path], kept.trans opened, fun other member => ?_, fun place => ?_⟩
      · rw [List.mem_singleton.mp member]
        exact inside_of_whereabouts canonical stable found
      have reached {mode : Nat} (opens : Opens w uri place mode) :
          Reaches w.world.files path place := by
        obtain ⟨_, _, _, files, there, way, opening⟩ := opens
        cases found.symm.trans there
        have grown := extended_makeDirectories w.world.files
          (waysTo (String.ofList (Path.directory path.toList)))
        unfold withWay at way
        rw [way] at grown
        exact ⟨_, _, grown, (FileTree.openForWriting_eq_ok opening).1⟩
      cases stored_of_writeText ended place with
      | kept same => exact .inl same
      | made absent directory => exact .inr (.inl ⟨absent, directory⟩)
      | filled _ opens _ _ _ => exact .inr (.inr ⟨path, List.mem_cons_self, reached opens⟩)
      | emptied _ opens _ _ _ => exact .inr (.inr ⟨path, List.mem_cons_self, reached opens⟩)

variable [Peer σ]

/-! ### Edits -/

theorem within_applyEdit_confining (spares : Peer.SparesFiles σ) (canonical : t.Canonical)
    (language : String) (edit : WorkspaceEdit) (label : String) :
    Within (confining t root) (applyEdit language edit label : Operation σ Unit) := by
  have files := Client.recording_filesStay spares
  have houses : Houses (confining t root : Frame (Workspace σ)) Client.filesStay :=
    houses_confining canonical
  intro w after outcome ended stable
  rcases ends_applyEdit_within houses.toHosts files ended with ⟨_, inside⟩ |
    ⟨settings, targets, known, fresh, ready, needed, brought, before, applied, writing⟩
  · exact inside stable
  have loaded : Stable t root known := (houses.within_needSettings needed stable).1
  have current : known.settings = some settings := by rw [ends_needSettings needed]
  obtain ⟨_, _, read⟩ := read_of_bringUpToDate spares current brought
  have puts : ∀ target ∈ targets, ∀ text, Within (confining t root)
      (putText settings.encoding target.2 text : Operation σ (Option OsError)) := by
    intro target member text
    obtain ⟨_, ⟨_, found⟩, _, _, _, _, bytes, _⟩ := read target member
    obtain ⟨place, leads⟩ := FileTree.leads_of_readFile bytes
    exact within_putText_confining (inside_of_whereabouts canonical loaded found)
      ⟨place, leads.alike loaded.1⟩ text
  have applying := houses.within_onClient
    (files.keeping.conduct.tasks.within_applyEdit edit label) applied
  have written := houses.within_writeMirrors files.preparing puts writing
  exact (confining t root).trans before ((confining t root).trans applying written) stable

section Frames

variable {α : Type} {F : Frame (Workspace σ)} {G : Frame (Session σ Client)}

/-- An operation stays within a frame that takes in what clients do and how edits are applied. -/
theorem Houses.within_perform (houses : Houses F G) (preparing : Client.Preparing G)
    (applies : ∀ language edit label, Within F (applyEdit language edit label : Operation σ Unit))
    (op : EditOperation) : Within F (perform op : Operation σ EditResult) := by
  have trying : Within F (tryPerform op : Operation σ EditResult) := by
    refine within_bind (houses.within_findTarget preparing op) fun target => ?_
    refine within_bind (houses.within_onClient (within_workOut preparing _ _ _)) fun edit => ?_
    refine within_bind within_get fun _ => within_bind (within_settle _) fun file => ?_
    refine within_ite (within_pure _) (within_ite (within_pure _) ?_)
    exact within_bind (applies _ _ _) fun _ => within_pure _
  refine within_bind (within_attempt trying) fun tried => ?_
  cases tried with
  | ok result => exact within_pure result
  | error failure => exact within_pure (failed op failure)

theorem within_performAll
    (performs : ∀ op, Within F (perform op : Operation σ EditResult)) (ops : List EditOperation) :
    Within F (performAll ops : Operation σ (List EditResult)) := by
  induction ops with
  | nil => exact within_pure []
  | cons op rest ih =>
      refine within_bind (performs op) fun result => within_ite ?_ (within_pure _)
      exact within_bind ih fun _ => within_pure _

theorem Houses.within_ask (houses : Houses F G) (preparing : Client.Preparing G) (uri : String)
    {question : String → Action σ Client α} (asks : ∀ uri, Within G (question uri)) :
    Within F (ask uri question) :=
  within_bind (houses.within_prepare preparing uri) fun prepared =>
    houses.within_onClient (asks prepared.2)

end Frames

/-! ### Uses of a workspace -/

inductive Use where
  | read (uri : String)
  | write (uri text : String)
  | findSymbol (uri name : String)
  | symbols (uri : String)
  | symbolAt (uri : String) (place : Position)
  | references (uri name : String) (declaration : Json)
  | definition (uri : String) (place : Position)
  | hover (uri : String) (place : Position)
  | completion (uri : String) (place : Position)
  | diagnostics (uri : String)
  | edit (op : EditOperation)
  | edits (ops : List EditOperation)

def doUse : Use → Operation σ Unit
  | .read uri => do
    let _ ← readText uri
  | .write uri text => writeText uri text
  | .findSymbol uri name => do
    let _ ← findSymbol uri name
  | .symbols uri => do
    let _ ← symbols uri
  | .symbolAt uri place => do
    let _ ← symbolAt uri place
  | .references uri name declaration => do
    let _ ← references uri name declaration
  | .definition uri place => do
    let _ ← definition uri place
  | .hover uri place => do
    let _ ← hover uri place
  | .completion uri place => do
    let _ ← completion uri place
  | .diagnostics uri => do
    let _ ← diagnostics uri
  | .edit op => do
    let _ ← perform op
  | .edits ops => do
    let _ ← performAll ops

def Use.document? : Use → Option String
  | .read uri | .write uri _ | .findSymbol uri _ | .symbols uri | .symbolAt uri _
  | .references uri _ _ | .definition uri _ | .hover uri _ | .completion uri _
  | .diagnostics uri => some uri
  | .edit _ | .edits _ => none

/-- Every use but writing stays within a frame that takes in what clients do and how edits are
applied. -/
theorem Houses.within_doUse {F : Frame (Workspace σ)} {G : Frame (Session σ Client)}
    (houses : Houses F G) (preparing : Client.Preparing G) (tasks : Client.Tasks G)
    (applies : ∀ language edit label, Within F (applyEdit language edit label : Operation σ Unit))
    (use : Use) (other : ∀ uri text, use ≠ .write uri text) :
    Within F (doUse use : Operation σ Unit) := by
  have alone {α : Type} {operation : Operation σ α} (inside : Within F operation) :
      Within F (do let _ ← operation) :=
    within_bind inside fun _ => within_pure ()
  have asked {α : Type} (method : String) (params : Json) {read : Json → Outcome α} :
      Within G (do
        let answer ← Client.request method params
        Session.settle (read answer) : Action σ Client α) :=
    within_bind (tasks.ask _ _ _) fun _ => Session.within_settle _
  have outlined (uri : String) : Within G (Client.symbols uri : Action σ Client (List Symbol)) :=
    Client.within_symbols (tasks.ask _) uri
  have sought (uri name : String) :
      Within G (Client.findSymbol uri name : Action σ Client (Option Symbol)) :=
    Client.within_findSymbol (tasks.ask _) uri name
  cases use with
  | read uri => exact alone (houses.within_readText uri)
  | write uri text => exact absurd rfl (other uri text)
  | findSymbol uri name => exact alone (houses.within_ask preparing uri fun uri => sought uri name)
  | symbols uri => exact alone (houses.within_ask preparing uri outlined)
  | symbolAt uri place =>
      exact alone (houses.within_ask preparing uri fun uri =>
        within_bind (outlined uri) fun _ => within_pure _)
  | references uri name declaration =>
      refine alone (houses.within_ask preparing uri fun uri => ?_)
      refine within_bind (sought uri name) fun found => ?_
      cases found with
      | none => exact within_pure []
      | some symbol => exact Client.within_softly (asked _ _)
  | definition uri place =>
      exact alone (houses.within_ask preparing uri fun _ => Client.within_softly (asked _ _))
  | hover uri place =>
      exact alone (houses.within_ask preparing uri fun _ => Client.within_softly (asked _ _))
  | completion uri place =>
      exact alone (houses.within_ask preparing uri fun _ => Client.within_softly (asked _ _))
  | diagnostics uri => exact alone (houses.within_ask preparing uri tasks.within_diagnosticsOf)
  | edit op => exact alone (houses.within_perform preparing applies op)
  | edits ops => exact alone (within_performAll (houses.within_perform preparing applies) ops)

theorem within_doUse_confining (spares : Peer.SparesFiles σ) (canonical : t.Canonical) (use : Use)
    (other : ∀ uri text, use ≠ .write uri text) :
    Within (confining t root) (doUse use : Operation σ Unit) :=
  have files := Client.recording_filesStay spares
  (houses_confining canonical).within_doUse files.preparing files.keeping.conduct.tasks
    (within_applyEdit_confining spares canonical) use other

/-- Whatever a workspace is asked for, it opens files inside its root only, and changes no others. -/
theorem opened_of_doUse (spares : Peer.SparesFiles σ) (canonical : w.world.files.Canonical)
    {use : Use} {outcome : Outcome Unit} (ended : Ends (doUse use : Operation σ Unit) w outcome after) :
    Opened w.world.files w.root w after := by
  by_cases writes : ∃ uri text, use = .write uri text
  · obtain ⟨uri, text, rfl⟩ := writes
    unfold doUse at ended
    exact opened_of_writeText canonical ended
  have inside : Within (confining w.world.files w.root) (doUse use : Operation σ Unit) :=
    within_doUse_confining spares canonical use fun uri text same => writes ⟨uri, text, same⟩
  exact (inside ended ⟨.refl, rfl⟩).2

end Workspace

end Scalpel
