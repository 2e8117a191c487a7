import Scalpel.Proofs.Writing

/-!
The stages of an operation on a symbol. The symbol is found, its edit is worked out, the documents of
the edit are brought up to date, and the client applies it; only then are files written. Wherever an
operation ends before that, the files are as they were.
-/

set_option autoImplicit false

namespace Scalpel.Workspace

variable [Halves] {σ : Type} {w after : Workspace σ}

/-! ### Finding the symbol -/

theorem ends_openUp {settings : Settings}
    (ended : Ends (openUp : Operation σ Settings) w (.ok settings) after) :
    after = { w with settings := some settings, isOpen := true } := by
  obtain ⟨_, mid, needed, opening⟩ := ends_bind_ok.mp ended
  obtain ⟨_, _, opened, done⟩ := ends_bind_ok.mp opening
  have settled := ends_needSettings needed
  obtain ⟨_, rfl⟩ := ends_modify.mp opened
  obtain ⟨same, rfl⟩ := ends_pure.mp done
  cases same
  rw [settled]

variable [Peer σ] {op : EditOperation} {language uri : String} {symbol : Symbol}

theorem ends_needClientFor
    (ended : Ends (needClientFor uri : Operation σ String) w (.ok language) after) :
    ∃ settings opened, Ends (openUp : Operation σ Settings) w (.ok settings) opened ∧
      languageOf? settings uri = .ok (some language) ∧
      Ends (needClient language) opened (.ok ()) after := by
  obtain ⟨settings, opened, opening, asking⟩ := ends_bind_ok.mp ended
  rcases ends_settle_bind.mp asking with ⟨_, _, impossible, _⟩ | ⟨found, known, needing⟩
  · cases impossible
  cases found with
  | some language =>
      obtain ⟨_, _, needed, done⟩ := ends_bind_ok.mp needing
      obtain ⟨same, rfl⟩ := ends_pure.mp done
      cases same
      exact ⟨settings, opened, opening, known, needed⟩
  | none =>
      obtain ⟨_, _, _, raised⟩ := ends_bind_ok.mp needing
      cases (ends_raise.mp raised).1

/-- The document of an operation has its client, which has been given the text of the file and has
found the symbol in it. -/
structure Found (op : EditOperation) (language uri : String) (symbol : Symbol)
    (w opened fresh after : Workspace σ) : Prop where
  named : ∃ text path, op.uri = .str text ∧ w.whereabouts text = .ok (uri, path)
  needed : Ends (needClientFor uri) w (.ok language) opened
  synchronized : Ends (synchronize language uri) opened (.ok ()) fresh
  sought : ∃ name, Ends (onClient language (Client.findSymbol uri name)) fresh (.ok (some symbol))
    after

omit [Halves] [Peer σ] in
theorem textual_eq_ok {value : Json} {text : String} (named : textual value = .ok text) :
    value = .str text := by
  cases value with
  | str given =>
      cases named
      rfl
  | _ => cases named

theorem ends_findTarget
    (ended : Ends (findTarget op : Operation σ (String × String × Symbol)) w
      (.ok (language, uri, symbol)) after) :
    ∃ opened fresh, Found op language uri symbol w opened fresh after := by
  rcases ends_settle_bind.mp ended with ⟨_, _, impossible, _⟩ | ⟨_, _, checked⟩
  · cases impossible
  rcases ends_settle_bind.mp checked with ⟨_, _, impossible, _⟩ | ⟨text, textual, preparing⟩
  · cases impossible
  obtain ⟨⟨_, _⟩, fresh, prepared, seeking⟩ := ends_bind_ok.mp preparing
  obtain ⟨⟨_, path⟩, _, located, needing⟩ := ends_bind_ok.mp prepared
  obtain ⟨whereabouts, rfl⟩ := ends_locate located
  obtain ⟨_, opened, needed, synchronizing⟩ := ends_bind_ok.mp needing
  obtain ⟨_, _, synchronized, paired⟩ := ends_bind_ok.mp synchronizing
  obtain ⟨same, rfl⟩ := ends_pure.mp paired
  cases same
  obtain ⟨_, _, sought, done⟩ := ends_bind_ok.mp seeking
  obtain ⟨same, rfl⟩ := ends_pure.mp done
  cases same
  rcases ends_settle_bind.mp sought with ⟨_, _, impossible, _⟩ | ⟨name, _, searching⟩
  · cases impossible
  obtain ⟨found, _, searched, given⟩ := ends_bind_ok.mp searching
  cases found with
  | some symbol =>
      obtain ⟨same, rfl⟩ := ends_pure.mp given
      cases same
      exact ⟨opened, fresh, ⟨text, path, textual_eq_ok textual, whereabouts.symm⟩, needed,
        synchronized, name, searched⟩
  | none => cases (ends_raise.mp given).1

/-- The language of a symbol is that of its document, by settings that are known from then on. -/
theorem Found.settings {opened fresh : Workspace σ} (spares : Peer.SparesFiles σ)
    (found : Found op language uri symbol w opened fresh after) :
    Grounded w after ∧ ∃ settings, after.settings = some settings ∧
      languageOf? settings uri = .ok (some language) := by
  have files := Client.recording_filesStay spares
  have begun : Grounded w opened :=
    houses_groundStays.within_needClientFor files.preparing uri found.needed
  obtain ⟨_, sought⟩ := found.sought
  have rest : Grounded opened after := (grounded_synchronize spares found.synchronized).trans
    (houses_groundStays.within_onClient (files.keeping.within_findSymbol (Client.fitRequest _) uri _) sought)
  obtain ⟨settings, ready, opening, known, needed⟩ := ends_needClientFor found.needed
  have loaded : ready.settings = some settings := by
    rw [ends_openUp opening]
  have kept := (houses_groundStays.within_needClient files.preparing language needed).settings loaded
  exact ⟨begun.trans rest, settings, rest.settings kept, known⟩

/-! ### Working out and submitting the edit -/

/-- What the stages of an operation have found, and the workspace after each of them. -/
structure Stages (σ : Type) where
  language : String
  uri : String
  symbol : Symbol
  edit : WorkspaceEdit
  settings : Settings
  targets : List (String × String)
  known : Workspace σ
  worked : Workspace σ
  fresh : Workspace σ
  ready : Workspace σ

def labelOf (op : EditOperation) : String :=
  op.kind.name ++ " " ++ op.symbol.shown

variable {g : Stages σ}

/-- The edit of an operation has been worked out, and its documents have been brought up to date. -/
structure Staged (op : EditOperation) (w : Workspace σ) (g : Stages σ) : Prop where
  known : Ends (findTarget op) w (.ok (g.language, g.uri, g.symbol)) g.known
  worked : Ends (onClient g.language (workOut op g.uri g.symbol)) g.known (.ok g.edit) g.worked
  settings : g.worked.settings = some g.settings
  fresh : Ends (bringUpToDate g.language g.edit) g.worked (.ok g.targets) g.fresh

structure Submitted (op : EditOperation) (w : Workspace σ) (g : Stages σ) : Prop
    extends Staged op w g where
  ready : Ends (onClient g.language (Client.applyEdit g.edit (labelOf op))) g.fresh (.ok ()) g.ready

theorem Staged.grounded (spares : Peer.SparesFiles σ) (staged : Staged op w g) :
    Grounded w g.worked := by
  have files := Client.recording_filesStay spares
  have known := houses_groundStays.within_findTarget files.preparing op staged.known
  exact known.trans (houses_groundStays.within_onClient
    (within_workOut files.preparing op g.uri g.symbol) staged.worked)

theorem Submitted.grounded (spares : Peer.SparesFiles σ) (submitted : Submitted op w g) :
    Grounded w g.fresh ∧ Grounded g.fresh g.ready := by
  have files := Client.recording_filesStay spares
  have worked := submitted.toStaged.grounded spares
  obtain ⟨fresh, _, _⟩ := read_of_bringUpToDate spares submitted.settings submitted.fresh
  exact ⟨worked.trans fresh,
    houses_groundStays.within_onClient (files.keeping.conduct.tasks.within_applyEdit _ _)
    submitted.ready⟩

theorem Submitted.loaded (spares : Peer.SparesFiles σ) (submitted : Submitted op w g) :
    g.ready.settings = some g.settings := by
  obtain ⟨fresh, _, _⟩ := read_of_bringUpToDate spares submitted.settings submitted.fresh
  exact (submitted.grounded spares).2.settings (fresh.settings submitted.settings)

theorem Staged.read (spares : Peer.SparesFiles σ) (staged : Staged op w g) :
    g.edit.names = g.targets.map (fun target => .uri target.1) ∧
      ∀ target ∈ g.targets, ∃ text, Read w g.settings.encoding target.1 target.2 text := by
  obtain ⟨_, names, read⟩ := read_of_bringUpToDate spares staged.settings staged.fresh
  refine ⟨names, fun target member => ?_⟩
  obtain ⟨text, here⟩ := read target member
  exact ⟨text, (staged.grounded spares).readBefore here⟩

theorem Submitted.leads (spares : Peer.SparesFiles σ) (submitted : Submitted op w g) :
    ∀ target ∈ g.targets, ∃ place, g.ready.world.files.Leads target.2 place := by
  intro target member
  obtain ⟨first, second⟩ := submitted.grounded spares
  obtain ⟨_, read⟩ := (submitted.toStaged.read spares).2 target member
  obtain ⟨_, _, _, bytes, _⟩ := read.holds
  rw [(first.trans second).files]
  exact FileTree.leads_of_readFile bytes

/-! ### Texts -/

section Texts

variable {quiet : σ → Prop}

/-- In a calm workspace the client has the text of the file for every document of an edit that has been
brought up to date. -/
theorem Staged.texts (server : Peer.Quiet quiet fun _ => True) (spares : Peer.SparesFiles σ)
    (calm : w.Calm quiet) (staged : Staged op w g) :
    g.fresh.Calm quiet ∧ ∀ target ∈ g.targets, ∃ text,
      Read w g.settings.encoding target.1 target.2 text ∧
        g.fresh.textFor g.language target.1 = some text := by
  have recording := Client.recording_calmStays server
  have known := houses_calmStays.within_findTarget recording.preparing op staged.known calm
  have worked := houses_calmStays.within_onClient
    (within_workOut recording.preparing op g.uri g.symbol) staged.worked known
  obtain ⟨calmly, each⟩ := fresh_of_bringUpToDate server spares worked staged.settings staged.fresh
  refine ⟨calmly, fun target member => ?_⟩
  obtain ⟨text, read, had⟩ := each target member
  exact ⟨text, (staged.grounded spares).readBefore read, had⟩

/-- The edits of each document have been applied to the text that the client had when the edit was
submitted. -/
theorem Submitted.edited (server : Peer.Quiet quiet fun _ => True) (calm : g.fresh.Calm quiet)
    (submitted : Submitted op w g) (once : g.edit.names.Nodup) :
    ∀ change ∈ g.edit.changes, ∃ uri old text, change.1 = .uri uri ∧
      g.fresh.textFor g.language uri = some old ∧
      Document.applyReceived old change.2 = .ok text ∧
      g.ready.textFor g.language uri = some text := by
  intro change member
  rcases ends_onClient.mp submitted.ready with ⟨_, impossible, _⟩ |
    ⟨client, session, found, applied, last⟩
  · cases impossible
  obtain ⟨uri, old, text, named, had, fit, now⟩ :=
    Client.edited_applyEdit server (calm.session found) once applied change member
  refine ⟨uri, old, text, named, ?_, fit, ?_⟩
  · unfold textFor
    rw [found]
    exact had
  · unfold textFor
    rw [last, member?_withSession, if_pos rfl]
    exact now

end Texts

/-! ### Whole operations -/

/-- The way that an operation took: it ended before its edit was to be applied, or the edit was
applied, well or not. -/
inductive Way (op : EditOperation) (w : Workspace σ) : Outcome EditResult → Workspace σ → Prop
  | unfound {failure last} : Ends (findTarget op) w (.error failure) last →
    Way op w (.error failure) last
  | unworked {language uri symbol known failure last} :
    Ends (findTarget op) w (.ok (language, uri, symbol)) known →
    Ends (onClient language (workOut op uri symbol)) known (.error failure) last →
    Way op w (.error failure) last
  | unnamed {language uri symbol known edit failure last} :
    Ends (findTarget op) w (.ok (language, uri, symbol)) known →
    Ends (onClient language (workOut op uri symbol)) known (.ok edit) last →
    Way op w (.error failure) last
  | idle {language uri symbol known edit last} {result : EditResult} :
    Ends (findTarget op) w (.ok (language, uri, symbol)) known →
    Ends (onClient language (workOut op uri symbol)) known (.ok edit) last →
    result.edits = some edit → result.dryRun = true ∨ edit.isEmpty = true →
    Way op w (.ok result) last
  | done {language uri symbol known edit worked last} {result : EditResult} :
    Ends (findTarget op) w (.ok (language, uri, symbol)) known →
    Ends (onClient language (workOut op uri symbol)) known (.ok edit) worked →
    Ends (applyEdit language edit (labelOf op)) worked (.ok ()) last →
    result.success = true → result.edits = some edit → Way op w (.ok result) last
  | undone {language uri symbol known edit worked failure last} :
    Ends (findTarget op) w (.ok (language, uri, symbol)) known →
    Ends (onClient language (workOut op uri symbol)) known (.ok edit) worked →
    Ends (applyEdit language edit (labelOf op)) worked (.error failure) last →
    Way op w (.error failure) last

theorem ends_tryPerform_way {outcome : Outcome EditResult}
    (ended : Ends (tryPerform op) w outcome after) : Way op w outcome after := by
  rcases ends_bind.mp ended with ⟨⟨language, uri, symbol⟩, known, found, working⟩ |
    ⟨_, rfl, unfound⟩
  case inr => exact .unfound unfound
  rcases ends_bind.mp working with ⟨edit, worked, done, naming⟩ | ⟨_, rfl, unworked⟩
  case inr => exact .unworked found unworked
  rcases ends_settle_bind.mp (ends_get_bind.mp naming) with ⟨_, _, rfl, rfl⟩ | ⟨file, _, going⟩
  · exact .unnamed found done
  rcases ends_ite.mp going with ⟨_, returned⟩ | ⟨_, further⟩
  · obtain ⟨rfl, rfl⟩ := ends_pure.mp returned
    exact .idle found done rfl (.inl rfl)
  rcases ends_ite.mp further with ⟨empty, returned⟩ | ⟨_, applying⟩
  · obtain ⟨rfl, rfl⟩ := ends_pure.mp returned
    exact .idle found done rfl (.inr empty)
  rcases ends_bind.mp applying with ⟨_, _, applied, returned⟩ | ⟨_, rfl, applied⟩
  · obtain ⟨rfl, rfl⟩ := ends_pure.mp returned
    exact .done found done applied rfl rfl
  · exact .undone found done applied

theorem exists_ends_perform (op : EditOperation) (w : Workspace σ) :
    ∃ result after, Ends (perform op) w (.ok result) after := by
  rcases tried : (tryPerform op).run w with ⟨outcome, after⟩
  cases outcome with
  | ok result =>
      refine ⟨result, after, ?_⟩
      exact ends_attempt_bind.mpr ⟨.ok result, after, tried, ends_pure.mpr ⟨rfl, rfl⟩⟩
  | error failure =>
      refine ⟨failed op failure, after, ?_⟩
      exact ends_attempt_bind.mpr ⟨.error failure, after, tried, ends_pure.mpr ⟨rfl, rfl⟩⟩

section Frames

variable {F : Frame (Workspace σ)} {G : Frame (Session σ Client)}

/-- An edit is submitted and written, or applying it stays within every frame that takes in what clients
do, and fails. -/
theorem ends_applyEdit_within (hosts : Hosts F G) (recording : Client.Recording G)
    {edit : WorkspaceEdit} {label : String} {outcome : Outcome Unit}
    (ended : Ends (applyEdit language edit label) w outcome after) :
    ((∃ failure, outcome = .error failure) ∧ F.holds w after) ∨
      ∃ settings targets known fresh ready,
        Ends (needSettings : Operation σ Settings) w (.ok settings) known ∧
        Ends (bringUpToDate language edit) known (.ok targets) fresh ∧ F.holds w fresh ∧
        Ends (onClient language (Client.applyEdit edit label)) fresh (.ok ()) ready ∧
        Ends (writeMirrors language settings.encoding targets) ready outcome after := by
  rcases ends_bind.mp ended with ⟨settings, known, needed, submitting⟩ | ⟨failure, rfl, needed⟩
  · have first : F.holds w known := hosts.within_needSettings needed
    have bringing := hosts.within_bringUpToDate recording.preparing language edit
    rcases ends_bind.mp submitting with ⟨_, ready, submitted, writing⟩ | ⟨failure, rfl, failed⟩
    · obtain ⟨targets, fresh, brought, applying⟩ := ends_bind_ok.mp submitted
      obtain ⟨_, _, applied, done⟩ := ends_bind_ok.mp applying
      obtain ⟨same, rfl⟩ := ends_pure.mp done
      cases same
      exact .inr ⟨settings, _, known, fresh, ready, needed, brought,
        F.trans first (bringing brought), applied, writing⟩
    · have inside : Within F
          (submit language edit label : Operation σ (List (String × String))) := by
        refine within_bind bringing fun _ => within_bind ?_ fun _ => within_pure _
        exact hosts.within_onClient (recording.keeping.conduct.tasks.within_applyEdit edit label)
      exact .inl ⟨⟨failure, rfl⟩, F.trans first (inside failed)⟩
  · exact .inl ⟨⟨failure, rfl⟩, hosts.within_needSettings needed⟩

/-- The edit of an operation has been applied by its client, and files are written from then on. -/
def Proceeded (op : EditOperation) (fresh after : Workspace σ) : Prop :=
  ∃ language edit encoding targets ready written,
    Ends (onClient language (Client.applyEdit edit (labelOf op))) fresh (.ok ()) ready ∧
      Ends (writeMirrors language encoding targets) ready written after

/-- Performing an operation is trying it: what that gives is returned, and its failure told of. -/
theorem tries_of_perform {outcome : Outcome EditResult} (ended : Ends (perform op) w outcome after) :
    ∃ tried, Ends (tryPerform op) w tried after ∧
      (∀ result, tried = .ok result → outcome = .ok result) ∧
      ∀ failure, tried = .error failure → outcome = .ok (failed op failure) := by
  obtain ⟨tried, mid, trying, finishing⟩ := ends_attempt_bind.mp ended
  cases tried with
  | ok result =>
      obtain ⟨rfl, rfl⟩ := ends_pure.mp finishing
      exact ⟨.ok result, trying, fun _ same => same, nofun⟩
  | error failure =>
      obtain ⟨rfl, rfl⟩ := ends_pure.mp finishing
      exact ⟨.error failure, trying, nofun, fun _ same => by cases same; rfl⟩

/-- An operation stays within every frame that takes in what clients do, unless its client has applied
the edit. -/
theorem within_or_proceeded (houses : Houses F G) (recording : Client.Recording G)
    {outcome : Outcome EditResult} (ended : Ends (perform op) w outcome after) :
    F.holds w after ∨ ∃ fresh, F.holds w fresh ∧ Proceeded op fresh after := by
  obtain ⟨_, trying, _⟩ := tries_of_perform ended
  have finding : Within F (findTarget op : Operation σ (String × String × Symbol)) :=
    houses.within_findTarget recording.preparing op
  have working (language uri : String) (symbol : Symbol) :
      Within F (onClient language (workOut op uri symbol) : Operation σ WorkspaceEdit) :=
    houses.within_onClient (within_workOut recording.preparing op uri symbol)
  have applying {language : String} {edit : WorkspaceEdit} {worked : Workspace σ}
      {reached : Outcome Unit} (before : F.holds w worked)
      (applied : Ends (applyEdit language edit (labelOf op)) worked reached after) :
      F.holds w after ∨ ∃ fresh, F.holds w fresh ∧ Proceeded op fresh after := by
    rcases ends_applyEdit_within houses.toHosts recording applied with ⟨_, inside⟩ |
      ⟨_, _, _, fresh, _, _, _, inside, accepted, writing⟩
    · exact .inl (F.trans before inside)
    · exact .inr ⟨fresh, F.trans before inside, _, _, _, _, _, _, accepted, writing⟩
  cases ends_tryPerform_way trying with
  | unfound unfound => exact .inl (finding unfound)
  | unworked found unworked => exact .inl (F.trans (finding found) (working _ _ _ unworked))
  | unnamed found worked => exact .inl (F.trans (finding found) (working _ _ _ worked))
  | idle found worked _ _ => exact .inl (F.trans (finding found) (working _ _ _ worked))
  | done found worked applied _ _ =>
      exact applying (F.trans (finding found) (working _ _ _ worked)) applied
  | undone found worked applied =>
      exact applying (F.trans (finding found) (working _ _ _ worked)) applied

end Frames

theorem ends_applyEdit (spares : Peer.SparesFiles σ) {edit : WorkspaceEdit} {label : String}
    {settings : Settings} {outcome : Outcome Unit} (known : w.settings = some settings)
    (ended : Ends (applyEdit language edit label) w outcome after) :
    ((∃ failure, outcome = .error failure) ∧ Grounded w after) ∨
      ∃ targets fresh ready, Ends (bringUpToDate language edit) w (.ok targets) fresh ∧
        Ends (onClient language (Client.applyEdit edit label)) fresh (.ok ()) ready ∧
        Ends (writeMirrors language settings.encoding targets) ready outcome after := by
  rcases ends_applyEdit_within houses_groundStays.toHosts (Client.recording_filesStay spares) ended
    with failed | ⟨_, targets, _, fresh, ready, needed, brought, _, applied, writing⟩
  · exact .inl failed
  · obtain ⟨same, rfl⟩ := ends_needSettings_known known needed
    cases same
    exact .inr ⟨targets, fresh, ready, brought, applied, writing⟩

/-- What trying an operation has come to: its edit was not submitted, or was not to be, or it was
submitted and its documents have been written, all of them or the first few. -/
inductive Tried (op : EditOperation) (w : Workspace σ) : Outcome EditResult → Workspace σ → Prop
  | failed {failure last} : Grounded w last → Tried op w (.error failure) last
  | idle {result : EditResult} {edit last} : Grounded w last → result.edits = some edit →
    result.dryRun = true ∨ edit.isEmpty = true → Tried op w (.ok result) last
  | written {g last} {result : EditResult} : Submitted op w g →
    Ends (writeMirrors g.language g.settings.encoding g.targets) g.ready (.ok ()) last →
    result.success = true → result.edits = some g.edit → Tried op w (.ok result) last
  | unwritten {g failure last} : Submitted op w g →
    Ends (writeMirrors g.language g.settings.encoding g.targets) g.ready (.error failure) last →
    Tried op w (.error failure) last

theorem ends_tryPerform (spares : Peer.SparesFiles σ) {outcome : Outcome EditResult}
    (ended : Ends (tryPerform op) w outcome after) : Tried op w outcome after := by
  have files := Client.recording_filesStay spares
  have finding : Within groundStays (findTarget op : Operation σ (String × String × Symbol)) :=
    houses_groundStays.within_findTarget files.preparing op
  have working (language uri : String) (symbol : Symbol) :
      Within groundStays (onClient language (workOut op uri symbol) : Operation σ WorkspaceEdit) :=
    houses_groundStays.within_onClient (within_workOut files.preparing op uri symbol)
  -- the stages up to the writing, once the edit has been worked out
  have applying {language uri : String} {symbol : Symbol} {known worked : Workspace σ}
      {edit : WorkspaceEdit} {reached : Outcome Unit}
      (found : Ends (findTarget op) w (.ok (language, uri, symbol)) known)
      (done : Ends (onClient language (workOut op uri symbol)) known (.ok edit) worked)
      (applied : Ends (applyEdit language edit (labelOf op)) worked reached after) :
      ((∃ failure, reached = .error failure) ∧ Grounded w after) ∨ ∃ g : Stages σ,
        g.edit = edit ∧ Submitted op w g ∧
        Ends (writeMirrors g.language g.settings.encoding g.targets) g.ready reached after := by
    obtain ⟨_, _, sought⟩ := ends_findTarget found
    obtain ⟨first, settings, loaded, _⟩ := sought.settings spares
    have second : Grounded known worked := working _ _ _ done
    have current := second.settings loaded
    rcases ends_applyEdit spares current applied with ⟨failed, grounded⟩ |
      ⟨targets, fresh, ready, brought, accepted, writing⟩
    · exact .inl ⟨failed, (first.trans second).trans grounded⟩
    · exact .inr ⟨⟨language, uri, symbol, edit, settings, targets, known, worked, fresh, ready⟩,
        rfl, ⟨⟨found, done, current, brought⟩, accepted⟩, writing⟩
  cases ends_tryPerform_way ended with
  | unfound unfound => exact .failed (finding unfound)
  | unworked found unworked =>
      exact .failed (groundStays.trans (finding found) (working _ _ _ unworked))
  | unnamed found worked =>
      exact .failed (groundStays.trans (finding found) (working _ _ _ worked))
  | idle found worked given why =>
      exact .idle (groundStays.trans (finding found) (working _ _ _ worked)) given why
  | done found worked applied succeeded given =>
      rcases applying found worked applied with ⟨⟨_, impossible⟩, _⟩ | ⟨g, rfl, submitted, writing⟩
      · cases impossible
      · exact .written submitted writing succeeded given
  | undone found worked applied =>
      rcases applying found worked applied with ⟨_, grounded⟩ | ⟨g, rfl, submitted, writing⟩
      · exact .failed grounded
      · exact .unwritten submitted writing

theorem success_failed (op : EditOperation) (failure : Failure) :
    (failed op failure).success = false := by
  cases failure <;> rfl

/-- Every operation ends with a result: that of trying it, or one that tells of its failure. -/
theorem ends_perform (spares : Peer.SparesFiles σ) {outcome : Outcome EditResult}
    (ended : Ends (perform op) w outcome after) :
    ∃ result, outcome = .ok result ∧ (Tried op w (.ok result) after ∨
      ∃ failure, result = failed op failure ∧ Tried op w (.error failure) after) := by
  obtain ⟨tried, trying, returned, told⟩ := tries_of_perform ended
  have found := ends_tryPerform spares trying
  cases tried with
  | ok result => exact ⟨result, returned _ rfl, .inl found⟩
  | error failure => exact ⟨failed op failure, told _ rfl, .inr ⟨failure, rfl, found⟩⟩

/-- The edit of an operation has been submitted, and its documents are to be written. -/
structure Due (op : EditOperation) (w : Workspace σ) (g : Stages σ) : Prop
    extends Submitted op w g where
  meant : op.dryRun = false
  nonempty : g.edit.isEmpty = false
  file : ∃ file, Uri.toRelative g.uri g.worked.root = .ok file

/-- An operation that is to write the documents of its edit does so, and where that fails it tells of the
failure. -/
theorem Due.writes (due : Due op w g) {outcome : Outcome EditResult}
    (ended : Ends (perform op) w outcome after) :
    ∃ written, Ends (writeMirrors g.language g.settings.encoding g.targets) g.ready written after ∧
      ∀ failure, written = .error failure → outcome = .ok (failed op failure) := by
  obtain ⟨tried, trying, _, told⟩ := tries_of_perform ended
  have submitted : Ends (submit g.language g.edit (labelOf op)) g.worked (.ok g.targets) g.ready :=
    due.fresh.bind.mpr (due.ready.bind.mpr (ends_pure.mpr ⟨rfl, rfl⟩))
  have wrote {written : Outcome Unit} {last : Workspace σ}
      (applied : Ends (applyEdit g.language g.edit (labelOf op)) g.worked written last) :
      Ends (writeMirrors g.language g.settings.encoding g.targets) g.ready written last := by
    rcases ends_bind.mp applied with ⟨_, _, needed, submitting⟩ | ⟨_, _, needed⟩
    · obtain ⟨same, rfl⟩ := ends_needSettings_known due.settings needed
      cases same
      exact submitted.bind.mp submitting
    · cases (ends_needSettings_known due.settings needed).1
  have naming := due.worked.bind.mp (due.known.bind.mp trying)
  obtain ⟨file, relative⟩ := due.file
  rcases ends_settle_bind.mp (ends_get_bind.mp naming) with ⟨_, unnamed, _, _⟩ | ⟨_, _, going⟩
  · cases unnamed.symm.trans relative
  rcases ends_ite.mp going with ⟨dry, _⟩ | ⟨_, further⟩
  · cases due.meant.symm.trans dry
  rcases ends_ite.mp further with ⟨empty, _⟩ | ⟨_, applying⟩
  · cases due.nonempty.symm.trans empty
  rcases ends_bind.mp applying with ⟨_, _, applied, returned⟩ | ⟨failure, rfl, applied⟩
  · obtain ⟨rfl, rfl⟩ := ends_pure.mp returned
    exact ⟨.ok (), wrote applied, nofun⟩
  · exact ⟨.error failure, wrote applied, fun _ same => by cases same; exact told _ rfl⟩

/-- An operation that succeeds with an edit to be made has submitted the edit and written all of its
documents. -/
theorem submitted_of_success (spares : Peer.SparesFiles σ) {result : EditResult}
    {edit : WorkspaceEdit} (ended : Ends (perform op) w (.ok result) after)
    (succeeded : result.success = true) (meant : result.dryRun = false)
    (given : result.edits = some edit) (nonempty : edit.isEmpty = false) :
    ∃ g, Submitted op w g ∧ g.edit = edit ∧
      Ends (writeMirrors g.language g.settings.encoding g.targets) g.ready (.ok ()) after := by
  obtain ⟨_, same, tried | ⟨failure, rfl, _⟩⟩ := ends_perform spares ended
  · cases same
    cases tried with
    | idle _ known why =>
        cases given.symm.trans known
        rcases why with dry | empty
        · cases meant.symm.trans dry
        · cases nonempty.symm.trans empty
    | @written g _ _ submitted writing _ known =>
        exact ⟨g, submitted, Option.some.inj (known.symm.trans given), writing⟩
  · cases same
    rw [success_failed] at succeeded
    cases succeeded

end Scalpel.Workspace
