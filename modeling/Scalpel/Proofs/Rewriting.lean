import Scalpel.Proofs.Recording

/-!
What a calm client makes of its documents. A document that is opened or changed has its new text
afterwards, and an edit of several documents gives each of them the text that its edits make, whether
the server has applied the edit or was told the changes. All other documents keep their texts.
-/

set_option autoImplicit false

namespace Scalpel

namespace Tracker

def text? (t : Tracker) (uri : String) : Option String :=
  (t.get? uri).map (·.content)

def Takes (t : Tracker) (uri text : String) (after : Tracker) : Prop :=
  ∀ other, after.text? other = if other = uri then some text else t.text? other

variable {t after : Tracker} {uri : String}

theorem takes_put (t : Tracker) (document : OpenDocument) :
    t.Takes document.uri document.content (t.put document) := by
  intro other
  unfold text?
  rw [get?_put]
  by_cases same : other = document.uri
  · rw [if_pos same, if_pos same.symm]
    rfl
  · rw [if_neg same, if_neg fun equal => same equal.symm]

theorem takes_update {changes : List ContentChange} {document : OpenDocument}
    (updated : t.update uri changes = .ok (after, document)) :
    ∃ old, t.text? uri = some old ∧ t.Takes uri (Document.applyChanges old changes) after := by
  obtain ⟨old, found, rfl, rfl⟩ := update_eq_ok updated
  refine ⟨old.content, ?_, ?_⟩
  · unfold text?
    rw [found]
    rfl
  · have taken := t.takes_put { old with
      content := Document.applyChanges old.content changes
      version := old.version + 1 }
    rw [← uri_of_get? found]
    exact taken

end Tracker

namespace Document

/-- Received edits that all have texts are changes from the bottom up. The first of them that has none
says why they make no text. -/
theorem applyReceived_eq_map (text : String) (edits : List (TextEdit Json)) :
    applyReceived text edits = ((bottomUp edits).mapM TextEdit.checked).map fun checked =>
      applyChanges text (checked.map fun edit =>
        { text := edit.newText, range := some edit.range }) := by
  unfold applyReceived
  induction bottomUp edits generalizing text with
  | nil => rfl
  | cons first rest ih =>
      rw [List.foldlM_cons, List.mapM_cons]
      cases sound : first.checked with
      | error failure => rfl
      | ok edit =>
          refine (ih _).trans ?_
          cases rest.mapM TextEdit.checked with
          | error failure => rfl
          | ok others => rfl

theorem applyReceived_of_checked {edits : List (TextEdit Json)}
    {checked : List (TextEdit String)}
    (fit : (bottomUp edits).mapM TextEdit.checked = .ok checked) (text : String) :
    applyReceived text edits = .ok (applyChanges text (checked.map fun edit =>
      { text := edit.newText, range := some edit.range })) := by
  rw [applyReceived_eq_map, fit]
  rfl

end Document

namespace Client

variable [Halves] {σ : Type} [Peer σ] {quiet : σ → Prop} {s after : Session σ Client}

/-! ### Single documents -/

theorem takes_change (server : Peer.Quiet quiet fun _ => True) (calm : Calm quiet s)
    {uri : String} {changes : List ContentChange} {value : OpenDocument}
    (ended : Ends (change uri changes) s (.ok value) after) :
    ∃ old, s.owner.documents.text? uri = some old ∧
      s.owner.documents.Takes uri (Document.applyChanges old changes) after.owner.documents := by
  cases ends_changeDocument ended with
  | @sent old document documents mid value found updated sent =>
      have told := (routine_calm server).dealings.within_notify (fun _ => trivial) _ sent
      obtain ⟨_, kept⟩ := told ⟨calm.server, calm.connection⟩
      have same : (mid.owner.touched mid.world.clock.now).documents = documents :=
        ((mild_touched _).documents _).trans kept.documents
      obtain ⟨before, known, taken⟩ := Tracker.takes_update updated
      refine ⟨before, known, ?_⟩
      change s.owner.documents.Takes _ _ (mid.owner.touched mid.world.clock.now).documents
      rw [same]
      exact taken

theorem takes_openDocument (server : Peer.Quiet quiet fun _ => True) (calm : Calm quiet s)
    {uri content : String} {languageId : Json} {value : OpenDocument}
    (ended : Ends (openDocument uri content languageId) s (.ok value) after) :
    s.owner.documents.Takes uri content after.owner.documents := by
  rcases ends_needSession_bind.mp ended with ⟨_, _, impossible, _⟩ | ⟨_, opening⟩
  · cases impossible
  rcases ends_ite.mp (ends_current_bind.mp opening) with ⟨_, changed⟩ | ⟨_, fresh⟩
  · obtain ⟨_, _, taken⟩ := takes_change server calm changed
    exact taken
  · obtain ⟨_, mid, notified, fetching⟩ := ends_bind_ok.mp (ends_update_bind.mp fresh)
    have fetched := ends_current_bind.mp fetching
    obtain ⟨_, rfl⟩ := ends_pure.mp fetched
    have told := (routine_calm server).dealings.within_tell (fun _ => trivial) _ notified
    obtain ⟨_, kept⟩ := told ⟨calm.server, calm.connection⟩
    rw [kept.documents]
    exact Tracker.takes_put _ _

theorem takes_adopt (server : Peer.Quiet quiet fun _ => True) (calm : Calm quiet s)
    {uri content : String} (ended : Ends (adopt uri content) s (.ok ()) after) :
    s.owner.documents.Takes uri content after.owner.documents := by
  have looked := ends_current_bind.mp ended
  split at looked
  · obtain ⟨_, _, opened, done⟩ := ends_bind_ok.mp looked
    obtain ⟨_, rfl⟩ := ends_pure.mp done
    exact takes_openDocument server calm opened
  · next document found =>
    rcases ends_ite.mp looked with ⟨_, changing⟩ | ⟨same, done⟩
    · obtain ⟨_, _, changed, done⟩ := ends_bind_ok.mp changing
      obtain ⟨_, rfl⟩ := ends_pure.mp done
      obtain ⟨_, _, taken⟩ := takes_change server calm changed
      exact taken
    · obtain ⟨_, rfl⟩ := ends_pure.mp done
      intro other
      split
      · next here =>
        unfold Tracker.text?
        rw [here, found, ← Decidable.not_not.mp same]
        rfl
      · rfl

/-! ### Edits of several documents -/

def Edited (target : String × List (TextEdit Json)) (t after : Tracker) : Prop :=
  ∃ old text, t.text? target.1 = some old ∧ Document.applyReceived old target.2 = .ok text ∧
    t.Takes target.1 text after

def EachEdited (targets : List (String × List (TextEdit Json))) (t after : Tracker) : Prop :=
  ∀ target ∈ targets, ∃ old text, t.text? target.1 = some old ∧
    Document.applyReceived old target.2 = .ok text ∧ after.text? target.1 = some text

omit [Halves] [Peer σ] in
private theorem nodup_of_named {edit : WorkspaceEdit}
    {targets : List (String × List (TextEdit Json))} (names : edit.changes = named targets)
    (once : edit.names.Nodup) : (targets.map (·.1)).Nodup := by
  unfold WorkspaceEdit.names at once
  rw [names] at once
  unfold named at once
  rw [List.map_map] at once
  refine List.pairwise_map.mpr ((List.pairwise_map.mp once).imp fun different same => ?_)
  exact different (congrArg DocumentName.uri same)

theorem edited_sendChanges (server : Peer.Quiet quiet fun _ => True) (calm : Calm quiet s)
    {uri : String} {edits : List (TextEdit Json)}
    (ended : Ends (sendChanges uri edits) s (.ok ()) after) :
    Edited (uri, edits) s.owner.documents after.owner.documents := by
  rcases ends_needSession_bind.mp ended with ⟨_, _, impossible, _⟩ | ⟨_, required⟩
  · cases impossible
  rcases ends_settle_bind.mp (ends_current_bind.mp required) with
    ⟨_, _, impossible, _⟩ | ⟨_, _, checking⟩
  · cases impossible
  rcases ends_settle_bind.mp checking with ⟨_, _, impossible, _⟩ | ⟨checked, fit, changing⟩
  · cases impossible
  obtain ⟨_, _, changed, done⟩ := ends_bind_ok.mp changing
  obtain ⟨_, rfl⟩ := ends_pure.mp done
  obtain ⟨old, known, taken⟩ := takes_change server calm changed
  exact ⟨old, _, known, Document.applyReceived_of_checked fit old, taken⟩

omit [Halves] [Peer σ] in
theorem edited_applyHere {uri : String} {edits : List (TextEdit Json)}
    (ended : Ends (applyHere uri edits : Action σ Client Unit) s (.ok ()) after) :
    Edited (uri, edits) s.owner.documents after.owner.documents := by
  cases ends_applyHere ended with
  | @applied document text found fit =>
      refine ⟨document.content, text, ?_, fit, ?_⟩
      · unfold Tracker.text?
        rw [found]
        rfl
      · have taken := s.owner.documents.takes_put { document with
          content := text
          version := document.version + 1 }
        rw [← Tracker.uri_of_get? found]
        exact taken

omit [Halves] [Peer σ] in
/-- Where one edit after the other is applied, each document has the text that its own edits make. -/
private theorem edited_each {targets : List (String × List (TextEdit Json))}
    {body : String × List (TextEdit Json) → Action σ Client Unit} (good : Session σ Client → Prop)
    (stays : ∀ {s after target}, good s → Ends (body target) s (.ok ()) after → good after)
    (edits : ∀ {s after target}, good s → Ends (body target) s (.ok ()) after →
      Edited target s.owner.documents after.owner.documents)
    (once : (targets.map (·.1)).Nodup) (held : good s)
    (ended : Ends (doEach targets body) s (.ok PUnit.unit) after) :
    EachEdited targets s.owner.documents after.owner.documents ∧ ∀ other ∉ targets.map (·.1),
      after.owner.documents.text? other = s.owner.documents.text? other := by
  induction targets generalizing s with
  | nil =>
      obtain ⟨_, rfl⟩ := ends_doEach_nil.mp ended
      exact ⟨fun _ member => absurd member List.not_mem_nil, fun _ _ => rfl⟩
  | cons first rest ih =>
      rcases ends_doEach_cons.mp ended with ⟨mid, applied, remaining⟩ | ⟨_, impossible, _⟩
      case inr => cases impossible
      rw [List.map_cons, List.nodup_cons] at once
      obtain ⟨each, others⟩ := ih once.2 (stays held applied) remaining
      obtain ⟨old, text, known, fit, taken⟩ := edits held applied
      refine ⟨fun target member => ?_, fun other absent => ?_⟩
      · rcases List.mem_cons.mp member with rfl | later
        · refine ⟨old, text, known, fit, ?_⟩
          rw [others _ once.1, taken, if_pos rfl]
        · have different : target.1 ≠ first.1 := fun equal =>
            once.1 (equal ▸ List.mem_map_of_mem later)
          obtain ⟨old, text, known, fit, now⟩ := each target later
          rw [taken, if_neg different] at known
          exact ⟨old, text, known, fit, now⟩
      · rw [List.map_cons, List.mem_cons, not_or] at absent
        rw [others other absent.2, taken, if_neg absent.1]

/-- An edit that has been applied gives each of its documents the text that its edits make. -/
theorem edited_applyEdit (server : Peer.Quiet quiet fun _ => True) (calm : Calm quiet s)
    {edit : WorkspaceEdit} {label : String} (once : edit.names.Nodup)
    (ended : Ends (applyEdit edit label) s (.ok ()) after) :
    ∀ change ∈ edit.changes, ∃ uri old text, change.1 = .uri uri ∧
      s.owner.documents.text? uri = some old ∧
      Document.applyReceived old change.2 = .ok text ∧
      after.owner.documents.text? uri = some text := by
  have spread {targets : List (String × List (TextEdit Json))} {mid : Session σ Client}
      (named : edit.changes = named targets)
      (kept : mid.owner.documents = s.owner.documents)
      (each : EachEdited targets mid.owner.documents after.owner.documents) :
      ∀ change ∈ edit.changes, ∃ uri old text, change.1 = .uri uri ∧
        s.owner.documents.text? uri = some old ∧
        Document.applyReceived old change.2 = .ok text ∧
        after.owner.documents.text? uri = some text := by
    intro change member
    rw [named] at member
    obtain ⟨target, known, rfl⟩ := List.mem_map.mp member
    obtain ⟨old, text, found, fit, now⟩ := each target known
    rw [kept] at found
    exact ⟨target.1, old, text, rfl, found, fit, now⟩
  have exchanged {answer : Outcome Json} {mid : Session σ Client}
      (requested : Ends (request "workspace/applyEdit" (Desk.editParams edit label)) s answer mid) :
      Calm quiet mid ∧ Undisturbed (fun _ => ()) s mid :=
    (routine_calm server).dealings.within_request (fun _ _ => trivial) _ _ requested calm
  cases ends_applyEdit ended with
  | @told targets _ mid _ _ names _ requested looped =>
      obtain ⟨calmly, kept⟩ := exchanged requested
      refine spread names kept.documents (edited_each (Calm quiet) (fun held told => ?_)
        (fun held told => edited_sendChanges server held told) (nodup_of_named names once) calmly
        looped).1
      exact (recording_calmStays server).keeping.conduct.tasks.within_sendChanges _ _ told held
  | @applied targets answer mid _ _ names requested _ looped =>
      obtain ⟨_, kept⟩ := exchanged requested
      exact spread names kept.documents (edited_each (fun _ => True) (fun _ _ => trivial)
        (fun _ applied => edited_applyHere applied) (nodup_of_named names once) trivial looped).1

end Client

end Scalpel
