import Scalpel.Proofs.Documents

/-!
What a client is asked to do with documents, edits and questions. An errand changes documents, says and
asks things within the session, and that is all it does. So it stays within every frame that takes in
these few steps, among them every frame that takes in the exchanges of the client and leaves its
documents alone.
-/

set_option autoImplicit false

namespace Scalpel.Client

variable {σ α : Type} {F : Frame (Session σ Client)}

/-- The documents of a client may change within a frame, as long as open ones stay open. -/
def Roomy (F : Frame (Session σ Client)) : Prop :=
  ∀ (s : Session σ Client) (documents : Tracker),
    (∀ uri, s.owner.documents.isOpen uri → documents.isOpen uri) →
    F.holds s (withDocuments s documents)

/-- The document of a uri may change within a frame, as long as it stays open if it was, and all others
are as before. -/
def RoomyFor (F : Frame (Session σ Client)) (uri : String) : Prop :=
  ∀ (s : Session σ Client) (documents : Tracker),
    (∀ other, s.owner.documents.isOpen other → documents.isOpen other) →
    (∀ other, other ≠ uri → documents.get? other = s.owner.documents.get? other) →
    F.holds s (withDocuments s documents)

theorem Roomy.roomyFor (roomy : Roomy F) (uri : String) : RoomyFor F uri :=
  fun s documents opened _ => roomy s documents opened

theorem RoomyFor.within_changeDocument {uri : String} (roomy : RoomyFor F uri)
    {send : String → Json → Action σ Client Unit}
    (touched : Within F (touch : Action σ Client Unit))
    (carried : ∀ params, Within F (send "textDocument/didChange" params))
    (changes : List ContentChange) : Within F (changeDocument send uri changes) := by
  intro s after outcome ended
  have changed {documents : Tracker} {document : OpenDocument}
      (updated : s.owner.documents.update uri changes = .ok (documents, document)) :
      F.holds s (withDocuments s documents) :=
    roomy s documents (fun _ => Tracker.isOpen_update updated)
      fun _ => Tracker.get?_update_other updated
  cases ends_changeDocument ended with
  | refused failure => exact F.refl _
  | @sent _ _ documents mid _ _ updated sent =>
      have last : F.holds mid (touchedNow mid) := touched (ends_touch.mpr ⟨rfl, rfl⟩)
      exact F.trans (changed updated) (F.trans (carried _ sent) last)
  | @undone old _ documents mid _ _ updated _ unsent =>
      have last := roomy mid (mid.owner.documents.revert uri old.content old.version)
        (fun _ => Tracker.isOpen_revert) fun _ => Tracker.get?_revert_other
      exact F.trans (changed updated) (F.trans (carried _ unsent) last)
  | unsent _ updated _ unsent => exact F.trans (changed updated) (carried _ unsent)

theorem Roomy.within_changeDocument (roomy : Roomy F)
    {send : String → Json → Action σ Client Unit}
    (touched : Within F (touch : Action σ Client Unit))
    (carried : ∀ params, Within F (send "textDocument/didChange" params)) (uri : String)
    (changes : List ContentChange) : Within F (changeDocument send uri changes) :=
  (roomy.roomyFor uri).within_changeDocument touched carried changes

/-- A frame that leaves documents alone takes in the edits that servers ask for, as far as it takes in
messages and signs of activity. -/
theorem Roomy.within_applyServerEdit [Peer σ] (roomy : Roomy F)
    (touched : Within F (touch : Action σ Client Unit))
    (emits : ∀ message, Within F (Session.emit message : Action σ Client Unit))
    (edit : WorkspaceEdit) : Within F (applyServerEdit edit : Action σ Client Unit) := by
  have carried (params : Json) : Within F
      (Session.notifyWithin "textDocument/didChange" params : Action σ Client Unit) :=
    within_bind (Session.within_needOpen _) fun _ => emits _
  exact Client.within_applyServerEdit (roomy.within_changeDocument touched carried) edit

theorem within_softly {default : α} {query : Action σ Client α} (inside : Within F query) :
    Within F (softly default query) := by
  refine within_bind (Session.within_attempt inside) fun tried => ?_
  split
  · exact within_pure _
  · exact within_ite (within_pure _) (within_throw _)

theorem fitNotice (method : String) : FitNotice (fun _ => True) method :=
  fun _ => trivial

theorem fitRequest (method : String) : FitRequest (fun _ => True) method :=
  fun _ _ => trivial

/-- A frame that is about the connection takes in what a client does about arrivals, if it takes in the
messages and the end. -/
theorem upkeep_of_connection [Halves] [Peer σ]
    (same : ∀ {a b : Session σ Client}, b.connection = a.connection → F.holds a b)
    (emits : ∀ message, Within F (Session.emit message : Action σ Client Unit))
    (shut : ∀ s : Session σ Client, F.holds s { s with connection := s.connection.hangUp.finish })
    (receive : ∀ {s : Session σ Client} {arrival : Arrival} {connection : Connection},
      s.connection.receive? = some (arrival, connection) → F.holds s { s with connection }) :
    Upkeep F where
  reply _ _ := emits _
  update _ _ _ := same rfl
  shut := shut
  clock _ _ := same rfl
  receive := receive
  edit arrived applied := by
    have roomy : Roomy F := fun _ _ _ => same rfl
    have touched : Within F (touch : Action σ Client Unit) :=
      within_bind within_get fun _ => within_modify fun _ => same rfl
    exact F.trans (receive arrived) (roomy.within_applyServerEdit touched emits _ applied)

variable [Halves] [Peer σ]

/-! ### Questions -/

section

variable (asks : ∀ params timeout,
  Within F (request "textDocument/documentSymbol" params timeout : Action σ Client Json))

include asks

theorem within_outline (uri : String) : Within F (outline uri : Action σ Client Json) :=
  within_bind (asks _ _) fun _ => within_pure _

theorem within_symbols (uri : String) : Within F (symbols uri : Action σ Client (List Symbol)) :=
  within_bind (within_softly (within_outline asks uri)) fun _ => Session.within_settle _

theorem within_findSymbol (uri name : String) :
    Within F (findSymbol uri name : Action σ Client (Option Symbol)) :=
  within_bind (within_symbols asks uri) fun _ => Session.within_settle _

end

namespace Dealings

variable {fit : Json → Prop}

theorem within_findSymbol (dealings : Dealings F fit)
    (fits : FitRequest fit "textDocument/documentSymbol") (uri name : String) :
    Within F (findSymbol uri name : Action σ Client (Option Symbol)) :=
  Client.within_findSymbol (fun _ _ => dealings.within_request fits _ _) uri name

theorem within_rename (dealings : Dealings F fit)
    (fits : FitRequest fit "textDocument/rename") (uri : String) (place : Position)
    (newName : Json) : Within F (rename uri place newName : Action σ Client WorkspaceEdit) :=
  within_bind (dealings.within_request fits _ _) fun _ => Session.within_settle _

theorem within_reopen (dealings : Dealings F fit) (fits : FitNotice fit "textDocument/didOpen")
    (attached : Bool) (documents : List OpenDocument) :
    Within F (reopen attached documents : Action σ Client Unit) := by
  refine within_ite ?_ (within_pure ())
  refine within_bind (within_doEach fun document _ => ?_) fun _ => within_pure ()
  exact dealings.within_notify fits _

end Dealings

/-! ### Documents and edits -/

/-- The edits of all targets, which the server has taken, are applied to the texts here. -/
def takeOver (targets : List (String × List (TextEdit Json))) : Action σ Client Unit := do
  for (uri, edits) in targets do
    applyHere uri edits

/-- A frame takes in what an edit of several documents and a look at diagnostics are made of: what a
client asks within its session, changes of its open documents, and what it notes of them. -/
structure Tasks (F : Frame (Session σ Client)) : Prop where
  ask : ∀ method params timeout, Within F (request method params timeout : Action σ Client Json)
  change : ∀ uri changes, Within F (change uri changes : Action σ Client OpenDocument)
  publish : ∀ uri diagnostics, Within F (update (·.withDiagnostics uri diagnostics) :
    Action σ Client Unit)
  here : ∀ uri edits, Within F (applyHere uri edits : Action σ Client Unit)

namespace Tasks

theorem within_sendChanges (tasks : Tasks F) (uri : String)
    (edits : List (TextEdit Json)) :
    Within F (sendChanges uri edits : Action σ Client Unit) := by
  refine within_bind within_needSession fun _ => within_bind within_current fun _ => ?_
  refine within_bind (Session.within_settle _) fun _ => ?_
  refine within_bind (Session.within_settle _) fun _ => ?_
  exact within_bind (tasks.change uri _) fun _ => within_pure ()

theorem within_takeOver (tasks : Tasks F) (targets : List (String × List (TextEdit Json))) :
    Within F (takeOver targets : Action σ Client Unit) := by
  refine within_bind (within_doEach fun target _ => ?_) fun _ => within_pure ()
  exact tasks.here target.1 target.2

omit [Peer σ] in
theorem within_openTargets (edit : WorkspaceEdit) :
    Within F (openTargets edit : Action σ Client (List (String × List (TextEdit Json)))) := by
  intro s after outcome ended
  obtain ⟨rfl, _⟩ := ends_openTargets ended
  exact F.refl _

theorem within_applyEdit (tasks : Tasks F) (edit : WorkspaceEdit) (label : String) :
    Within F (applyEdit edit label : Action σ Client Unit) := by
  refine within_bind (within_openTargets edit) fun targets => ?_
  refine within_bind (Session.within_attempt
    (tasks.ask _ _ _)) fun tried => ?_
  split
  · refine within_ite ?_ (Session.within_raise _)
    refine within_bind (within_doEach fun target _ => ?_) fun _ => within_pure ()
    exact tasks.within_sendChanges target.1 target.2
  · exact within_throw _
  · have here := tasks.within_takeOver targets
    refine within_ite ?_ here
    refine within_bind within_current fun _ => ?_
    exact within_bind (Session.within_raise _) fun _ => here

theorem within_diagnosticsOf (tasks : Tasks F) (uri : String) :
    Within F (diagnosticsOf uri : Action σ Client (List Diagnostic)) := by
  have last : Within F (do
      return (← current).published uri : Action σ Client (List Diagnostic)) :=
    within_bind within_current fun _ => within_pure _
  refine within_bind within_current fun c => within_ite ?_ last
  refine within_bind (Session.within_attempt
    (tasks.ask _ _ _)) fun tried => ?_
  split
  · exact within_ite last (within_bind (Session.within_raise _) fun _ => last)
  · exact within_bind (within_throw _) fun _ => last
  · refine within_ite (within_bind (Session.within_settle _) fun diagnostics => ?_) last
    exact within_bind (tasks.publish uri diagnostics) fun _ => last

end Tasks

/-- A frame takes in what errands are made of: what a client says and asks within its session, changes
of its open documents, and what it enters and notes of them. -/
structure Manners (F : Frame (Session σ Client)) : Prop where
  tell : ∀ method params, Within F (notify method params : Action σ Client Unit)
  ask : ∀ method params timeout, Within F (request method params timeout : Action σ Client Json)
  change : ∀ uri changes, Within F (change uri changes : Action σ Client OpenDocument)
  publish : ∀ uri diagnostics, Within F (update (·.withDiagnostics uri diagnostics) :
    Action σ Client Unit)
  put : ∀ (s : Session σ Client) (document : OpenDocument),
    F.holds s (withDocuments s (s.owner.documents.put document))

/-- A frame takes in what errands are made of, whatever it is that changes of the open documents. -/
structure Conduct (F : Frame (Session σ Client)) : Prop where
  tell : ∀ method params, Within F (notify method params : Action σ Client Unit)
  ask : ∀ method params timeout, Within F (request method params timeout : Action σ Client Json)
  change : ∀ uri changes, Within F (change uri changes : Action σ Client OpenDocument)
  publish : ∀ uri diagnostics, Within F (update (·.withDiagnostics uri diagnostics) :
    Action σ Client Unit)
  roomy : Roomy F

/-- A frame takes in every exchange of a client and leaves its open documents alone. -/
structure Keeping (F : Frame (Session σ Client)) : Prop extends Dealings F fun _ => True where
  roomy : Roomy F

theorem Keeping.within_replay (keeping : Keeping F) :
    Within F (replay : Action σ Client Unit) := by
  intro s after outcome ended
  have reset : F.holds s (withDocuments s s.owner.documents.resetVersions) :=
    keeping.roomy s _ fun _ => Tracker.isOpen_resetVersions
  exact F.trans reset (keeping.within_reopen (fitNotice _) _ _ (ends_replay_reopen ended))

theorem Keeping.conduct (keeping : Keeping F) : Conduct F where
  tell _ params := keeping.within_tell (fitNotice _) params
  ask _ params timeout := keeping.within_request (fitRequest _) params timeout
  change uri changes :=
    keeping.roomy.within_changeDocument keeping.touch (keeping.within_notify (fitNotice _)) uri changes
  publish := keeping.publish
  roomy := keeping.roomy

/-- A frame takes in what it is made of that a client takes a text over: its document is entered and
opened, or it is open and changes. -/
structure Takeover (F : Frame (Session σ Client)) (uri : String) : Prop where
  opens : ∀ params, Within F (notify "textDocument/didOpen" params : Action σ Client Unit)
  change : ∀ changes, Within F (change uri changes : Action σ Client OpenDocument)
  put : ∀ (s : Session σ Client) (document : OpenDocument), document.uri = uri →
    F.holds s (withDocuments s (s.owner.documents.put document))

namespace Takeover

variable {uri : String}

theorem within_openDocument (takeover : Takeover F uri) (content : String) (languageId : Json) :
    Within F (openDocument uri content languageId : Action σ Client OpenDocument) := by
  intro s after outcome ended
  rcases ends_needSession_bind.mp ended with ⟨_, _, _, rfl⟩ | ⟨_, opening⟩
  · exact F.refl _
  rcases ends_ite.mp (ends_current_bind.mp opening) with ⟨_, changed⟩ | ⟨_, fresh⟩
  · exact takeover.change _ changed
  · have rest (document : OpenDocument) : Within F (do
        notify "textDocument/didOpen" (openParams document)
        return ((← current).documents.get? uri).getD document :
        Action σ Client OpenDocument) :=
      within_bind (takeover.opens _) fun _ =>
        within_bind within_current fun _ => within_pure _
    have opened (document : OpenDocument) (named : document.uri = uri) :
        F.holds s (withDocuments s (s.owner.documents.put document)) :=
      takeover.put s document named
    have told := rest _ (ends_update_bind.mp fresh)
    exact F.trans (opened _ rfl) told

theorem within_adopt (takeover : Takeover F uri) (content : String) :
    Within F (adopt uri content : Action σ Client Unit) := by
  refine within_bind within_current fun c => ?_
  split
  · exact within_bind (takeover.within_openDocument content _) fun _ => within_pure ()
  · refine within_ite ?_ (within_pure ())
    exact within_bind (takeover.change _) fun _ => within_pure ()

end Takeover

namespace Manners

theorem takeover (manners : Manners F) (uri : String) : Takeover F uri where
  opens := manners.tell _
  change := manners.change uri
  put s document _ := manners.put s document

theorem within_save (manners : Manners F) (uri : String) (content : Option String) :
    Within F (save uri content : Action σ Client OpenDocument) := by
  have told (document : OpenDocument) : Within F (do
      notify "textDocument/didSave" (.obj [("textDocument", .obj [("uri", .str uri)]),
        ("text", .str document.content)])
      return ((← current).documents.get? uri).getD document :
      Action σ Client OpenDocument) :=
    within_bind (manners.tell _ _) fun _ =>
      within_bind within_current fun _ => within_pure _
  refine within_bind within_needSession fun _ => within_bind within_current fun c => ?_
  refine within_bind (Session.within_settle _) fun document => ?_
  cases content with
  | none => exact within_bind (within_pure _) told
  | some text =>
      refine within_ite (within_bind (within_pure _) told) ?_
      exact within_bind (manners.change uri _) told

theorem within_applyHere (manners : Manners F) (uri : String) (edits : List (TextEdit Json)) :
    Within F (applyHere uri edits : Action σ Client Unit) := by
  intro s after outcome ended
  cases ends_applyHere ended with
  | unopened _ => exact F.refl _
  | unfit _ _ => exact F.refl _
  | applied _ _ => exact manners.put s _

theorem tasks (manners : Manners F) : Tasks F where
  ask := manners.ask
  change := manners.change
  publish := manners.publish
  here := manners.within_applyHere

end Manners

namespace Conduct

theorem manners (conduct : Conduct F) : Manners F where
  tell := conduct.tell
  ask := conduct.ask
  change := conduct.change
  publish := conduct.publish
  put s document := conduct.roomy s _ fun _ => Tracker.isOpen_put document

theorem tasks (conduct : Conduct F) : Tasks F :=
  conduct.manners.tasks

end Conduct

/-! ### Errands -/

/-- What a client can be asked to do with its server while a session lasts. -/
inductive Errand where
  | openDocument (uri content : String) (languageId : Json)
  | changeDocument (uri : String) (changes : List ContentChange)
  | saveDocument (uri : String) (content : Option String)
  | closeDocument (uri : String)
  | applyEdit (edit : WorkspaceEdit) (label : String)
  | notify (method : String) (params : Json)
  | request (method : String) (params timeout : Json)
  | outline (uri : String)
  | hover (uri : String) (place : Position)
  | completion (uri : String) (place : Position)
  | definition (uri : String) (place : Position)
  | references (uri : String) (place : Position) (declaration : Json)
  | rename (uri : String) (place : Position) (newName : Json)
  | diagnosticsOf (uri : String)
  | findSymbol (uri name : String)
  | findSymbols (uri name : String)
  | symbolAt (uri : String) (place : Position)

def doErrand : Errand → Action σ Client Unit
  | .openDocument uri content languageId => do
    let _ ← openDocument uri content languageId
  | .changeDocument uri changes => do
    let _ ← change uri changes
  | .saveDocument uri content => do
    let _ ← save uri content
  | .closeDocument uri => closeDocument uri
  | .applyEdit edit label => applyEdit edit label
  | .notify method params => Client.notify method params
  | .request method params timeout => do
    let _ ← Client.request method params timeout
  | .outline uri => do
    let _ ← outline uri
  | .hover uri place => do
    let _ ← hover uri place
  | .completion uri place => do
    let _ ← completion uri place
  | .definition uri place => do
    let _ ← definition uri place
  | .references uri place declaration => do
    let _ ← references uri place declaration
  | .rename uri place newName => do
    let _ ← rename uri place newName
  | .diagnosticsOf uri => do
    let _ ← diagnosticsOf uri
  | .findSymbol uri name => do
    let _ ← findSymbol uri name
  | .findSymbols uri name => do
    let _ ← findSymbols uri name
  | .symbolAt uri place => do
    let _ ← symbolAt uri place

/-- A frame takes in every errand but messages of the caller's own and the closing of documents. -/
structure Duties (F : Frame (Session σ Client)) : Prop extends Tasks F where
  opening : ∀ uri content languageId,
    Within F (openDocument uri content languageId : Action σ Client OpenDocument)
  save : ∀ uri content, Within F (save uri content : Action σ Client OpenDocument)

theorem Duties.within_errand (duties : Duties F) (errand : Errand)
    (close : ∀ uri, errand = .closeDocument uri →
      Within F (closeDocument uri : Action σ Client Unit))
    (tell : ∀ method params, errand = .notify method params →
      Within F (Client.notify method params : Action σ Client Unit)) :
    Within F (doErrand errand : Action σ Client Unit) := by
  have alone {α : Type} {action : Action σ Client α} (inside : Within F action) :
      Within F (do let _ ← action) :=
    within_bind inside fun _ => within_pure ()
  have asked {α : Type} (method : String) (params : Json) {read : Json → Outcome α} :
      Within F (do
        let answer ← Client.request method params
        Session.settle (read answer) : Action σ Client α) :=
    within_bind (duties.ask _ _ _) fun _ => Session.within_settle _
  have symbols (uri : String) : Within F (symbols uri : Action σ Client (List Symbol)) :=
    within_symbols (duties.ask _) uri
  cases errand with
  | openDocument uri content languageId => exact alone (duties.opening _ _ _)
  | changeDocument uri changes => exact alone (duties.change _ _)
  | saveDocument uri content => exact alone (duties.save _ _)
  | closeDocument uri => exact close uri rfl
  | applyEdit edit label => exact duties.within_applyEdit edit label
  | notify method params => exact tell method params rfl
  | request method params timeout => exact alone (duties.ask method params timeout)
  | outline uri => exact alone (within_outline (duties.ask _) uri)
  | hover uri place => exact alone (asked _ _)
  | completion uri place => exact alone (asked _ _)
  | definition uri place => exact alone (asked _ _)
  | references uri place declaration => exact alone (asked _ _)
  | rename uri place newName => exact alone (asked _ _)
  | diagnosticsOf uri => exact alone (duties.within_diagnosticsOf uri)
  | findSymbol uri name => exact alone (within_findSymbol (duties.ask _) uri name)
  | findSymbols uri name =>
      exact alone (within_bind (symbols uri) fun _ => Session.within_settle _)
  | symbolAt uri place => exact alone (within_bind (symbols uri) fun _ => within_pure _)

/-- Every errand is within a frame that takes in what errands are made of and lets documents be
closed. -/
theorem Manners.within_errand (manners : Manners F) (drop : ∀ uri, Within F (update fun c =>
      { c with documents := c.documents.remove uri }.withoutDiagnostics uri : Action σ Client Unit))
    (errand : Errand) : Within F (doErrand errand : Action σ Client Unit) := by
  have duties : Duties F :=
    { manners.tasks with
      opening := fun uri => (manners.takeover uri).within_openDocument
      save := manners.within_save }
  have closing (uri : String) : Within F (closeDocument uri : Action σ Client Unit) :=
    within_bind within_current fun c =>
      within_ite (within_bind (manners.tell _ _) fun _ => drop uri) (within_pure ())
  exact duties.within_errand errand (fun uri _ => closing uri) fun method params _ =>
    manners.tell method params

/-- A frame takes in every exchange of a client, leaves its open documents alone, and lets documents be
closed. -/
structure Running (F : Frame (Session σ Client)) : Prop extends Keeping F where
  drop : ∀ uri, Within F (update fun c =>
    { c with documents := c.documents.remove uri }.withoutDiagnostics uri : Action σ Client Unit)

theorem Running.within_errand (running : Running F) (errand : Errand) :
    Within F (doErrand errand : Action σ Client Unit) :=
  running.conduct.manners.within_errand running.drop errand

end Scalpel.Client
