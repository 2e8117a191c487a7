import Scalpel.Proofs.Clerk
import Scalpel.Proofs.Stages
import Scalpel.Proofs.Utf8

/-!
Operations that succeed. Every document of the edit had the text of its file when the edit was applied
to it, and the file holds what the edit makes of that text; so does the client. No other file is
touched.
-/

set_option autoImplicit false

namespace Scalpel.Workspace

variable [Halves] {σ : Type} {w after : Workspace σ} {encoding : Json}

def IsAt (w : Workspace σ) (name : DocumentName) (place : Place) : Prop :=
  ∃ uri named path, name = .uri uri ∧ w.whereabouts uri = .ok (named, path) ∧
    w.world.files.Leads path place

def Reversible (encoding : Json) (text : String) : Prop :=
  ∀ charset bytes, charsetOf encoding = .ok charset → charset.encode text = .ok bytes →
    charset.decode bytes = .ok text

/-- The edits of a document make a text of the one that its file holds. -/
def Makes (w : Workspace σ) (encoding : Json) (change : DocumentName × List (TextEdit Json))
    (uri path text : String) : Prop :=
  change.1 = .uri uri ∧ ∃ before, Read w encoding uri path before ∧
    Document.applyReceived before change.2 = .ok text

/-- The file of a document and the client both have what the edits make of the text that the file
had. -/
def Rewritten (language : String) (encoding : Json) (w after : Workspace σ)
    (change : DocumentName × List (TextEdit Json)) : Prop :=
  ∃ uri path text, Makes w encoding change uri path text ∧
    Holds after.world.files encoding path text ∧ after.textFor language uri = some text

def Speaks (op : EditOperation) (w : Workspace σ) (settings : Settings) (language : String) : Prop :=
  ∃ text uri path, op.uri = .str text ∧ w.whereabouts text = .ok (uri, path) ∧
    languageOf? settings uri = .ok (some language)

theorem bytesIn_eq_ok {text : String} {bytes : Bytes} :
    bytesIn encoding text = .ok bytes ↔
      ∃ charset, charsetOf encoding = .ok charset ∧ charset.encode text = .ok bytes := by
  unfold bytesIn
  cases charsetOf encoding with
  | error failure => simp [bind, Except.bind]
  | ok charset => simp [bind, Except.bind]

theorem reversible_utf8 (named : charsetOf encoding = .ok .utf8) (text : String) :
    Reversible encoding text := by
  intro charset bytes known encoded
  cases named.symm.trans known
  exact Charset.decode_encode_utf8 encoded

theorem Read.isAt {uri path text : String} (read : Read w encoding uri path text) :
    ∃ place, w.IsAt (.uri uri) place ∧ w.world.files.Leads path place := by
  obtain ⟨⟨named, found⟩, _, _, _, _, bytes, _⟩ := read
  obtain ⟨place, leads⟩ := FileTree.leads_of_readFile bytes
  exact ⟨place, ⟨uri, named, path, rfl, found, leads⟩, leads⟩

variable [Peer σ] {quiet : σ → Prop} {op : EditOperation} {g : Stages σ}

/-! ### The texts of the documents -/

theorem Staged.speaks (spares : Peer.SparesFiles σ) (staged : Staged op w g) :
    Speaks op w g.settings g.language := by
  have files := Client.recording_filesStay spares
  obtain ⟨_, _, found⟩ := ends_findTarget staged.known
  obtain ⟨text, path, named, whereabouts⟩ := found.named
  obtain ⟨_, settings, known, spoken⟩ := found.settings spares
  have kept := (houses_groundStays.within_onClient
    (within_workOut files.preparing op g.uri g.symbol) staged.worked).settings known
  cases staged.settings.symm.trans kept
  exact ⟨text, g.uri, path, named, whereabouts, spoken⟩

/-- Once the edit has been submitted, the client has what the edit makes of the texts of the files. -/
theorem Submitted.makes (server : Peer.Quiet quiet fun _ => True) (spares : Peer.SparesFiles σ)
    (calm : w.Calm quiet) (submitted : Submitted op w g) (once : g.edit.names.Nodup) :
    ∀ change ∈ g.edit.changes, ∃ uri path text, Makes w g.settings.encoding change uri path text ∧
      (uri, path) ∈ g.targets ∧ g.ready.textFor g.language uri = some text := by
  intro change member
  obtain ⟨calmly, each⟩ := submitted.toStaged.texts server spares calm
  obtain ⟨uri, old, text, named, had, fit, now⟩ := submitted.edited server calmly once change member
  have listed : DocumentName.uri uri ∈ g.edit.names := named ▸ List.mem_map_of_mem member
  rw [(submitted.toStaged.read spares).1] at listed
  obtain ⟨⟨name, path⟩, target, same⟩ := List.mem_map.mp listed
  cases same
  obtain ⟨before, read, fresh⟩ := each (name, path) target
  cases fresh.symm.trans had
  exact ⟨name, path, text, ⟨named, _, read, fit⟩, target, now⟩

/-! ### The files -/

def Apart (w : Workspace σ) (edit : WorkspaceEdit) : Prop :=
  edit.names.Pairwise fun one other => ∀ place, w.IsAt one place → ¬w.IsAt other place

omit [Peer σ] in
theorem Apart.same {edit : WorkspaceEdit} {one other : DocumentName} {place : Place}
    (apart : w.Apart edit) (first : one ∈ edit.names) (second : other ∈ edit.names)
    (here : w.IsAt one place) (there : w.IsAt other place) : one = other := by
  have different {a b : DocumentName}
      (elsewhere : ∀ place, w.IsAt a place → ¬w.IsAt b place) :
      ∀ place, w.IsAt a place → w.IsAt b place → a = b :=
    fun place here there => absurd there (elsewhere place here)
  have flipped : edit.names.Pairwise (flip fun a b => ∀ place, w.IsAt a place → w.IsAt b place →
      a = b) :=
    apart.imp fun elsewhere place there here => absurd there (elsewhere place here)
  exact (List.Pairwise.forall_of_forall_of_flip (fun _ _ _ _ _ => rfl) (apart.imp different) flipped)
    first second place here there

omit [Peer σ] in
theorem Apart.nodup {edit : WorkspaceEdit} (apart : w.Apart edit)
    (somewhere : ∀ name ∈ edit.names, ∃ place, w.IsAt name place) : edit.names.Nodup := by
  refine List.Pairwise.imp_of_mem (fun {one other} first _ elsewhere same => ?_) apart
  obtain ⟨place, here⟩ := somewhere one first
  exact elsewhere place here (same ▸ here)

theorem Submitted.isAt (spares : Peer.SparesFiles σ) (submitted : Submitted op w g) :
    ∀ target ∈ g.targets, .uri target.1 ∈ g.edit.names ∧
      ∃ place, w.IsAt (.uri target.1) place ∧ w.world.files.Leads target.2 place := by
  intro target member
  obtain ⟨names, read⟩ := submitted.toStaged.read spares
  obtain ⟨_, here⟩ := read target member
  refine ⟨?_, here.isAt⟩
  rw [names]
  exact List.mem_map_of_mem member

theorem Submitted.once (spares : Peer.SparesFiles σ) (submitted : Submitted op w g)
    (apart : w.Apart g.edit) : g.edit.names.Nodup := by
  refine apart.nodup fun name listed => ?_
  rw [(submitted.toStaged.read spares).1] at listed
  obtain ⟨target, member, rfl⟩ := List.mem_map.mp listed
  obtain ⟨_, place, here, _⟩ := submitted.isAt spares target member
  exact ⟨place, here⟩

/-- A file that has got the text of one of several documents in different places has the text of its
own document. -/
theorem Submitted.holds (spares : Peer.SparesFiles σ) (submitted : Submitted op w g)
    (apart : w.Apart g.edit) {done : List (String × String)}
    (some_ : ∀ target ∈ done, target ∈ g.targets)
    (written : Written g.language g.settings.encoding g.ready done after)
    {uri path text : String} (target : (uri, path) ∈ done)
    (had : g.ready.textFor g.language uri = some text)
    (faithful : Reversible g.settings.encoding text) :
    Holds after.world.files g.settings.encoding path text := by
  obtain ⟨first, second⟩ := submitted.grounded spares
  have files : g.ready.world.files = w.world.files := (first.trans second).files
  obtain ⟨listed, place, here, leads⟩ := submitted.isAt spares _ (some_ _ target)
  obtain ⟨found, lead, filled⟩ := written.full _ target
  rw [files] at lead
  cases leads.unique lead
  obtain ⟨other, member, _, bytes, mode, otherLead, otherText, fit, entry⟩ := filled
  rw [files] at otherLead
  obtain ⟨otherListed, _, there, otherLeads⟩ := submitted.isAt spares _ (some_ _ member)
  cases otherLead.unique otherLeads
  have same : other.1 = uri := by
    have equal := apart.same otherListed listed there here
    cases equal
    rfl
  rw [same, had] at otherText
  cases otherText
  obtain ⟨_, read⟩ := (submitted.toStaged.read spares).2 _ (some_ _ target)
  obtain ⟨_, content, _, readable, _⟩ := read.holds
  have alike : w.world.files.Alike after.world.files := by
    rw [← files]
    exact written.alike
  obtain ⟨charset, known, encoded⟩ := bytesIn_eq_ok.mp fit
  exact ⟨charset, bytes, known, alike.readFile readable leads entry,
    faithful charset bytes known encoded⟩

theorem Submitted.kept (spares : Peer.SparesFiles σ) (submitted : Submitted op w g)
    (written : Written g.language g.settings.encoding g.ready g.targets after) {place : Place}
    (elsewhere : ∀ name ∈ g.edit.names, ¬w.IsAt name place) :
    after.world.files.get? place = w.world.files.get? place := by
  obtain ⟨first, second⟩ := submitted.grounded spares
  have files : g.ready.world.files = w.world.files := (first.trans second).files
  rcases written.kept place with ⟨target, member, _, _, _, leads, _⟩ | kept
  · obtain ⟨listed, _, here, lead⟩ := submitted.isAt spares _ member
    rw [files] at leads
    cases leads.unique lead
    exact absurd here (elsewhere _ listed)
  · rw [kept, files]

/-- An operation that succeeds has rewritten the documents of its edit, in their files and for the
client of their language, and no other files. The servers ask for no edits of their own and leave the
files alone, the documents are in different places, and their new texts can be read back. -/
theorem perform_rewrites (server : Peer.Quiet quiet fun _ => True) (spares : Peer.SparesFiles σ)
    (calm : w.Calm quiet) {result : EditResult} {edit : WorkspaceEdit}
    (ended : Ends (perform op) w (.ok result) after) (succeeded : result.success = true)
    (meant : result.dryRun = false) (given : result.edits = some edit)
    (nonempty : edit.isEmpty = false) (apart : w.Apart edit)
    (faithful : ∀ settings, after.settings = some settings → ∀ change ∈ edit.changes,
      ∀ uri path text, Makes w settings.encoding change uri path text →
        Reversible settings.encoding text) :
    ∃ settings language, after.settings = some settings ∧ Speaks op w settings language ∧
      (∀ change ∈ edit.changes, Rewritten language settings.encoding w after change) ∧
      ∀ place, (∀ name ∈ edit.names, ¬w.IsAt name place) →
        after.world.files.get? place = w.world.files.get? place := by
  obtain ⟨g, submitted, rfl, writing⟩ :=
    submitted_of_success spares ended succeeded meant given nonempty
  have once : g.edit.names.Nodup := submitted.once spares apart
  have settings : after.settings = some g.settings := by
    have stays := houses_setupStays.within_writeMirrors (Client.recording_filesStay spares).preparing
      (fun _ _ => within_putText (fun _ => ⟨rfl, fun _ known => known⟩)
        fun _ _ => ⟨rfl, fun _ known => known⟩) writing
    exact stays.2 g.settings (submitted.loaded spares)
  rcases ends_writeMirrors spares (submitted.leads spares) writing with ⟨_, written⟩ |
    ⟨_, _, _, _, _, _, impossible, _⟩
  · refine ⟨g.settings, g.language, settings, submitted.toStaged.speaks spares,
      fun change member => ?_, fun place elsewhere => submitted.kept spares written elsewhere⟩
    obtain ⟨uri, path, text, makes, target, had⟩ :=
      submitted.makes server spares calm once change member
    refine ⟨uri, path, text, makes, ?_, ?_⟩
    · exact submitted.holds spares apart (fun _ => id) written target had
        (faithful _ settings change member uri path text makes)
    · rw [written.texts]
      exact had
  · cases impossible

end Scalpel.Workspace

/-! ### An operation that replaces a symbol -/

namespace Scalpel.Workspace

local instance editedFilesHalves : Halves :=
  Halves.trial

def trialWorkspace : Workspace Clerk :=
  Clerk.workspace (.str "utf-8")

def trialReplace : EditOperation :=
  { kind := .replace, uri := .str "a.py", symbol := .str "f", code := .str "g = 2" }

def trialResult : EditResult :=
  match ((perform trialReplace).run trialWorkspace).1 with
  | .ok result => result
  | .error failure => failed trialReplace failure

def trialReplaced : Workspace Clerk :=
  ((perform trialReplace).run trialWorkspace).2

def trialEdit : WorkspaceEdit :=
  trialResult.edits.getD {}

theorem perform_rewrites_replaced :
    trialWorkspace.Calm (fun _ => True) ∧
      Ends (perform trialReplace) trialWorkspace (.ok trialResult) trialReplaced ∧
      trialResult.success = true ∧ trialResult.edits = some trialEdit ∧
      trialWorkspace.Apart trialEdit ∧
      (trialReplaced.world.files.readFile "/w/a.py").toOption = some [103, 32, 61, 32, 50, 10] ∧
      ∃ settings language, trialReplaced.settings = some settings ∧
        Speaks trialReplace trialWorkspace settings language ∧
        (∀ change ∈ trialEdit.changes,
          Rewritten language settings.encoding trialWorkspace trialReplaced change) ∧
        ∀ place, (∀ name ∈ trialEdit.names, ¬trialWorkspace.IsAt name place) →
          trialReplaced.world.files.get? place = trialWorkspace.world.files.get? place := by
  have calm : trialWorkspace.Calm fun _ => True := Clerk.calm_workspace _
  have ended : Ends (perform trialReplace) trialWorkspace (.ok trialResult) trialReplaced := by
    obtain ⟨result, done⟩ := ends_of_isOk
      (show ((perform trialReplace).run trialWorkspace).1.isOk = true by decide +kernel)
    have same : trialResult = result := by
      unfold trialResult
      rw [show ((perform trialReplace).run trialWorkspace).1 = .ok result from
        congrArg Prod.fst done]
    rw [same]
    exact done
  have succeeded : trialResult.success = true := by decide +kernel
  have given : trialResult.edits = some trialEdit := by
    have some_ : trialResult.edits.isSome = true := by decide +kernel
    unfold trialEdit
    cases found : trialResult.edits with
    | none => rw [found] at some_; cases some_
    | some edit => rfl
  have apart : trialWorkspace.Apart trialEdit := by
    have single : trialEdit.names.length = 1 := by decide +kernel
    obtain ⟨name, alone⟩ := List.length_eq_one_iff.mp single
    unfold Apart
    rw [alone]
    exact List.pairwise_singleton _ _
  have named (settings : Settings) (known : trialReplaced.settings = some settings) :
      charsetOf settings.encoding = .ok .utf8 := by
    have plain : (trialReplaced.settings.all fun settings =>
        match charsetOf settings.encoding with
        | .ok charset => decide (charset = .utf8)
        | .error _ => false) = true := by
      decide +kernel
    rw [known, Option.all_some] at plain
    split at plain
    · next found =>
      rw [found, of_decide_eq_true plain]
    · cases plain
  refine ⟨calm, ended, succeeded, given, apart, by decide +kernel, ?_⟩
  refine perform_rewrites Clerk.receptive.toQuiet Clerk.sparesFiles calm ended succeeded
    (by decide +kernel) given (by decide +kernel) apart fun settings known _ _ _ _ text _ => ?_
  exact reversible_utf8 (named settings known) text

end Scalpel.Workspace
