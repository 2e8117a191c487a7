import Scalpel.Proofs.Desk
import Scalpel.Proofs.Tracking

/-!
The operations of a client on documents, taken apart. A document changes here first, then the server is
told; a change that the connection did not take any more is undone.
-/

set_option autoImplicit false

namespace Scalpel.Client

def withDocuments {σ : Type} (s : Session σ Client) (documents : Tracker) : Session σ Client :=
  { s with owner := { s.owner with documents } }

def delivered {σ : Type} [Peer σ] (message : Json) (s : Session σ Client) : Session σ Client :=
  { s with
    world := s.world.told s.connection.language message
    connection := s.connection.deliver
      (s.world.reaction s.connection.language message).arrivals }

variable {σ : Type} {s after : Session σ Client}

theorem ends_update {f : Client → Client} {outcome : Outcome Unit} :
    Ends (update f : Action σ Client Unit) s outcome after ↔
      outcome = .ok () ∧ after = { s with owner := f s.owner } :=
  ends_modify

theorem ends_current {outcome : Outcome Client} :
    Ends (current : Action σ Client Client) s outcome after ↔
      outcome = .ok s.owner ∧ after = s := by
  constructor
  · intro ended
    cases ended
    exact ⟨rfl, rfl⟩
  · rintro ⟨rfl, rfl⟩
    rfl

theorem ends_current_bind {α : Type} {next : Client → Action σ Client α} {outcome : Outcome α} :
    Ends (current >>= next) s outcome after ↔ Ends (next s.owner) s outcome after := by
  rw [ends_bind]
  constructor
  · rintro (⟨_, _, first, rest⟩ | ⟨_, _, first⟩)
    · obtain ⟨same, rfl⟩ := ends_current.mp first
      cases same
      exact rest
    · cases (ends_current.mp first).1
  · intro rest
    exact .inl ⟨s.owner, s, ends_current.mpr ⟨rfl, rfl⟩, rest⟩

theorem ends_settle_bind {α β : Type} {result : Outcome α} {next : α → Action σ Client β}
    {outcome : Outcome β} :
    Ends (Session.settle result >>= next) s outcome after ↔
      (∃ failure, result = .error failure ∧ outcome = .error failure ∧ after = s) ∨
        ∃ value, result = .ok value ∧ Ends (next value) s outcome after := by
  rw [ends_bind]
  constructor
  · rintro (⟨value, _, first, rest⟩ | ⟨failure, rfl, first⟩)
    · obtain ⟨same, rfl⟩ := Session.ends_settle.mp first
      exact .inr ⟨value, same.symm, rest⟩
    · obtain ⟨same, rfl⟩ := Session.ends_settle.mp first
      exact .inl ⟨failure, same.symm, rfl, rfl⟩
  · rintro (⟨failure, same, rfl, rfl⟩ | ⟨value, same, rest⟩)
    · exact .inr ⟨failure, rfl, Session.ends_settle.mpr ⟨same.symm, rfl⟩⟩
    · exact .inl ⟨value, s, Session.ends_settle.mpr ⟨same.symm, rfl⟩, rest⟩

theorem ends_update_bind {α : Type} {f : Client → Client} {next : Unit → Action σ Client α}
    {outcome : Outcome α} :
    Ends (update f >>= next) s outcome after ↔
      Ends (next ()) { s with owner := f s.owner } outcome after := by
  rw [ends_bind]
  constructor
  · rintro (⟨_, _, first, rest⟩ | ⟨_, _, first⟩)
    · obtain ⟨_, rfl⟩ := ends_update.mp first
      exact rest
    · cases (ends_update.mp first).1
  · intro rest
    exact .inl ⟨(), _, ends_update.mpr ⟨rfl, rfl⟩, rest⟩

theorem ends_needSession_bind {α : Type} {next : Unit → Action σ Client α} {outcome : Outcome α} :
    Ends (needSession >>= next) s outcome after ↔
      (∃ problem, s.owner.obstacle? = some problem ∧ outcome = .error (.problem problem) ∧
          after = s) ∨
        (s.owner.obstacle? = none ∧ Ends (next ()) s outcome after) := by
  rw [ends_bind]
  unfold needSession
  simp only [ends_current_bind]
  cases s.owner.obstacle? with
  | none =>
      constructor
      · rintro (⟨_, _, first, rest⟩ | ⟨_, _, first⟩)
        · obtain ⟨_, rfl⟩ := ends_pure.mp first
          exact .inr ⟨rfl, rest⟩
        · cases (ends_pure.mp first).1
      · rintro (⟨_, absent, _⟩ | ⟨_, rest⟩)
        · cases absent
        · exact .inl ⟨(), s, ends_pure.mpr ⟨rfl, rfl⟩, rest⟩
  | some problem =>
      constructor
      · rintro (⟨_, _, first, _⟩ | ⟨_, rfl, first⟩)
        · cases (Session.ends_raise.mp first).1
        · obtain ⟨same, rfl⟩ := Session.ends_raise.mp first
          cases same
          exact .inl ⟨problem, rfl, rfl, rfl⟩
      · rintro (⟨_, same, rfl, rfl⟩ | ⟨absent, _⟩)
        · cases same
          exact .inr ⟨_, rfl, Session.ends_raise.mpr ⟨rfl, rfl⟩⟩
        · cases absent

def touchedNow (s : Session σ Client) : Session σ Client :=
  { s with owner := s.owner.touched s.world.clock.now }

theorem ends_touch {outcome : Outcome Unit} :
    Ends (touch : Action σ Client Unit) s outcome after ↔
      outcome = .ok () ∧ after = touchedNow s := by
  constructor
  · intro ended
    cases ended
    exact ⟨rfl, rfl⟩
  · rintro ⟨rfl, rfl⟩
    rfl

theorem ends_tell {send : String → Json → Action σ Client Unit} {method : String} {params : Json}
    {outcome : Outcome Unit} (ended : Ends (tell send method params) s outcome after) :
    (∃ problem, s.owner.obstacle? = some problem ∧ outcome = .error (.problem problem) ∧ after = s) ∨
      (s.owner.obstacle? = none ∧ ∃ mid, Ends (send method params) s (.ok ()) mid ∧
        outcome = .ok () ∧ after = touchedNow mid) ∨
      (s.owner.obstacle? = none ∧ ∃ failure, outcome = .error failure ∧
        Ends (send method params) s (.error failure) after) := by
  rcases ends_needSession_bind.mp ended with obstructed | ⟨free, rest⟩
  · exact .inl obstructed
  rcases ends_bind.mp rest with ⟨_, mid, sent, touched⟩ | ⟨failure, failed, unsent⟩
  · obtain ⟨done, moved⟩ := ends_touch.mp touched
    exact .inr (.inl ⟨free, mid, sent, done, moved⟩)
  · exact .inr (.inr ⟨free, failure, failed, unsent⟩)

inductive Changed (send : String → Json → Action σ Client Unit) (uri : String)
    (changes : List ContentChange) (s : Session σ Client) :
    Outcome OpenDocument → Session σ Client → Prop
  | refused (failure : Failure) : Changed send uri changes s (.error failure) s
  | sent {old document documents mid value} :
    s.owner.documents.get? uri = some old →
    s.owner.documents.update uri changes = .ok (documents, document) →
    Ends (send "textDocument/didChange" (Desk.changeParams uri document.version changes))
      (withDocuments s documents) (.ok ()) mid →
    Changed send uri changes s (.ok value) (touchedNow mid)
  | undone {old document documents mid problem} :
    s.owner.documents.get? uri = some old →
    s.owner.documents.update uri changes = .ok (documents, document) →
    problem.kind = .connectionClosed →
    Ends (send "textDocument/didChange" (Desk.changeParams uri document.version changes))
      (withDocuments s documents) (.error (.problem problem)) mid →
    Changed send uri changes s (.error (.problem problem))
      (withDocuments mid (mid.owner.documents.revert uri old.content old.version))
  | unsent {old document documents after failure} :
    s.owner.documents.get? uri = some old →
    s.owner.documents.update uri changes = .ok (documents, document) →
    (∀ problem, failure = .problem problem → problem.kind ≠ .connectionClosed) →
    Ends (send "textDocument/didChange" (Desk.changeParams uri document.version changes))
      (withDocuments s documents) (.error failure) after →
    Changed send uri changes s (.error failure) after

theorem ends_changeDocument {send : String → Json → Action σ Client Unit} {uri : String}
    {changes : List ContentChange} {outcome : Outcome OpenDocument}
    (ended : Ends (changeDocument send uri changes) s outcome after) :
    Changed send uri changes s outcome after := by
  rcases ends_needSession_bind.mp ended with ⟨problem, _, rfl, rfl⟩ | ⟨free, required⟩
  · exact .refused _
  rcases ends_settle_bind.mp (ends_current_bind.mp required) with
    ⟨failure, _, rfl, rfl⟩ | ⟨old, known, updating⟩
  · exact .refused _
  rcases ends_settle_bind.mp (ends_current_bind.mp updating) with
    ⟨failure, _, rfl, rfl⟩ | ⟨⟨documents, document⟩, updated, setting⟩
  · exact .refused _
  have found := Tracker.require_eq_ok known
  rcases ends_bind.mp (ends_update_bind.mp setting) with
    ⟨reached, mid, tried, settled⟩ | ⟨_, _, failed⟩
  · obtain ⟨_, same, told⟩ := Session.ends_attempt.mp tried
    cases same
    have unobstructed : (withDocuments s documents).owner.obstacle? = none := free
    rcases ends_tell told with ⟨_, obstructed, _, _⟩ | ⟨_, sender, sent, rfl, rfl⟩ |
      ⟨_, failure, rfl, unsent⟩
    · cases unobstructed.symm.trans obstructed
    · have fetched := ends_current_bind.mp settled
      obtain ⟨rfl, rfl⟩ := ends_pure.mp fetched
      exact .sent found updated sent
    · dsimp only at settled
      split at settled
      · have undone := ends_update_bind.mp (ends_current_bind.mp settled)
        obtain ⟨rfl, rfl⟩ := ends_throw.mp undone
        exact .undone found updated rfl unsent
      · next open_ =>
        obtain ⟨rfl, rfl⟩ := ends_throw.mp settled
        refine .unsent found updated (fun problem same closed => ?_) unsent
        rcases problem with ⟨kind, message⟩
        cases closed
        exact open_ _ _ _ _ _ _ same
  · obtain ⟨_, impossible, _⟩ := Session.ends_attempt.mp failed
    cases impossible

/-- What became of a request within a session: it was not sent, or its outcome was fetched after all
that had arrived was handled. -/
inductive Answered [Halves] [Peer σ] (method : String) (params : Json) (s : Session σ Client) :
    Outcome Json → Session σ Client → Prop
  | obstructed {problem} : s.owner.obstacle? = some problem →
    Answered method params s (.error (.problem problem)) s
  | unsent {failure after} : Session.Posed handlers method params s (.error failure) after →
    Answered method params s (.error failure) after
  | failed {mid time failure after} :
    Session.Posed handlers method params s (.ok s.connection.nextId) mid →
    Ends (Session.await s.connection.nextId method time) mid (.error failure) after →
    Answered method params s (.error failure) after
  | answered {mid time answer after} :
    Session.Posed handlers method params s (.ok s.connection.nextId) mid →
    Ends (Session.await s.connection.nextId method time) mid (.ok answer) after →
    Answered method params s (.ok answer) (touchedNow after)

theorem ends_request [Halves] [Peer σ] {method : String} {params timeout : Json}
    {outcome : Outcome Json} (ended : Ends (request method params timeout) s outcome after) :
    Answered method params s outcome after := by
  rcases ends_needSession_bind.mp ended with ⟨problem, obstructed, rfl, rfl⟩ | ⟨_, requesting⟩
  · exact .obstructed obstructed
  rcases ends_bind.mp (ends_current_bind.mp requesting) with
    ⟨answer, last, requested, touching⟩ | ⟨failure, rfl, requested⟩
  · rcases ends_bind.mp requested with ⟨number, mid, posing, awaited⟩ | ⟨_, impossible, _⟩
    · have posed := Session.ends_pose posing
      have numbered : number = s.connection.nextId := by
        cases posed
        rfl
      subst numbered
      rcases ends_bind.mp touching with ⟨_, _, touched, done⟩ | ⟨_, _, failed⟩
      · obtain ⟨_, rfl⟩ := ends_touch.mp touched
        obtain ⟨rfl, rfl⟩ := ends_pure.mp done
        exact .answered posed awaited
      · cases (ends_touch.mp failed).1
    · cases impossible
  · rcases ends_bind.mp requested with ⟨number, mid, posing, awaited⟩ | ⟨_, same, posing⟩
    · have posed := Session.ends_pose posing
      have numbered : number = s.connection.nextId := by
        cases posed
        rfl
      subst numbered
      exact .failed posed awaited
    · cases same
      exact .unsent (Session.ends_pose posing)

/-! ### Edits of several documents -/

variable [Halves]

def named (targets : List (String × List (TextEdit Json))) :
    List (DocumentName × List (TextEdit Json)) :=
  targets.map fun target => (.uri target.1, target.2)

private theorem ends_requireAll {t : Tracker}
    {changes : List (DocumentName × List (TextEdit Json))}
    {outcome : Outcome (List (String × List (TextEdit Json)))}
    (ended : Ends (changes.mapM fun (name, edits) => do
      match name with
      | .uri uri =>
        let _ ← Session.settle (t.require uri)
        return (uri, edits)
      | name => Session.raise (.documentNotOpen name.shown) :
      Action σ Client (List (String × List (TextEdit Json)))) s outcome after) :
    after = s ∧ ∀ targets, outcome = .ok targets →
      changes = named targets ∧ ∀ target ∈ targets, t.isOpen target.1 = true := by
  induction changes generalizing outcome after with
  | nil =>
      obtain ⟨rfl, rfl⟩ := ends_pure.mp ended
      refine ⟨rfl, fun _ same => ?_⟩
      cases same
      exact ⟨rfl, fun _ member => absurd member List.not_mem_nil⟩
  | cons first rest ih =>
      obtain ⟨name, edits⟩ := first
      rw [List.mapM_cons] at ended
      cases name with
      | stray value =>
          rcases ends_bind.mp ended with ⟨_, _, raised, _⟩ | ⟨_, rfl, raised⟩
          · cases (Session.ends_raise.mp raised).1
          · exact ⟨(Session.ends_raise.mp raised).2, fun _ same => (nomatch same)⟩
      | uri uri =>
          rcases ends_bind.mp ended with ⟨_, _, required, others⟩ | ⟨failure, rfl, required⟩
          · rcases ends_settle_bind.mp required with ⟨_, _, impossible, _⟩ | ⟨_, known, found⟩
            · cases impossible
            obtain ⟨same, rfl⟩ := ends_pure.mp found
            cases same
            rcases ends_bind.mp others with ⟨_, _, done, last⟩ | ⟨_, rfl, failed⟩
            · obtain ⟨rfl, remaining⟩ := ih done
              obtain ⟨rfl, rfl⟩ := ends_pure.mp last
              refine ⟨rfl, fun _ same => ?_⟩
              cases same
              obtain ⟨restNamed, restOpen⟩ := remaining _ rfl
              refine ⟨by rw [restNamed]; rfl, fun target member => ?_⟩
              rcases List.mem_cons.mp member with rfl | later
              · unfold Tracker.isOpen
                rw [Tracker.require_eq_ok known]
                rfl
              · exact restOpen target later
            · obtain ⟨rfl, _⟩ := ih failed
              exact ⟨rfl, fun _ same => (nomatch same)⟩
          · rcases ends_settle_bind.mp required with ⟨_, _, _, rfl⟩ | ⟨_, _, found⟩
            · exact ⟨rfl, fun _ same => (nomatch same)⟩
            · cases (ends_pure.mp found).1

theorem ends_openTargets {edit : WorkspaceEdit}
    {outcome : Outcome (List (String × List (TextEdit Json)))}
    (ended : Ends (openTargets edit : Action σ Client _) s outcome after) :
    after = s ∧ ∀ targets, outcome = .ok targets →
      edit.changes = named targets ∧
        ∀ target ∈ targets, s.owner.documents.isOpen target.1 = true :=
  ends_requireAll (ends_current_bind.mp ended)

inductive AppliedHere (uri : String) (edits : List (TextEdit Json)) (s : Session σ Client) :
    Outcome Unit → Session σ Client → Prop
  | unopened {failure} : s.owner.documents.get? uri = none →
    AppliedHere uri edits s (.error failure) s
  | unfit {document failure} : s.owner.documents.get? uri = some document →
    Document.applyReceived document.content edits = .error failure →
    AppliedHere uri edits s (.error failure) s
  | applied {document text} : s.owner.documents.get? uri = some document →
    Document.applyReceived document.content edits = .ok text →
    AppliedHere uri edits s (.ok ()) (withDocuments s
      (s.owner.documents.put { document with content := text, version := document.version + 1 }))

omit [Halves] in
theorem ends_applyHere {uri : String} {edits : List (TextEdit Json)} {outcome : Outcome Unit}
    (ended : Ends (applyHere uri edits : Action σ Client Unit) s outcome after) :
    AppliedHere uri edits s outcome after := by
  rcases ends_settle_bind.mp (ends_current_bind.mp ended) with
    ⟨failure, unknown, rfl, rfl⟩ | ⟨document, known, applying⟩
  · exact .unopened (Tracker.require_eq_error unknown)
  have found := Tracker.require_eq_ok known
  rcases ends_settle_bind.mp applying with ⟨failure, unfit, rfl, rfl⟩ | ⟨text, fit, updating⟩
  · exact .unfit found unfit
  rcases ends_settle_bind.mp (ends_current_bind.mp updating) with
    ⟨failure, impossible, _, _⟩ | ⟨⟨documents, updated⟩, update, setting⟩
  · rw [Tracker.update_of_get? found] at impossible
    cases impossible
  · rw [Tracker.update_of_get? found] at update
    cases update
    obtain ⟨rfl, rfl⟩ := ends_update.mp setting
    exact .applied found fit

/-- What became of an edit of several documents: some are not open, or the server was asked to apply
the edit. Then the request has failed, or the server knows no such request and is told the changes, or
it has refused the edit, or the edit is applied here as well. -/
inductive Forwarded [Peer σ] (edit : WorkspaceEdit) (label : String) (s : Session σ Client) :
    Outcome Unit → Session σ Client → Prop
  | unopened {failure} : Forwarded edit label s (.error failure) s
  | failed {targets failure after} : edit.changes = named targets →
    Ends (request "workspace/applyEdit" (Desk.editParams edit label)) s (.error failure) after →
    Forwarded edit label s (.error failure) after
  | told {targets problem mid outcome after} : edit.changes = named targets →
    problem.kind = .protocol ∧ problem.isMethodNotFound = true →
    Ends (request "workspace/applyEdit" (Desk.editParams edit label)) s
      (.error (.problem problem)) mid →
    Ends (doEach targets fun target => sendChanges target.1 target.2) mid outcome after →
    Forwarded edit label s outcome after
  | refused {targets answer failure after} : edit.changes = named targets →
    Ends (request "workspace/applyEdit" (Desk.editParams edit label)) s (.ok answer) after →
    isRejection answer = true → Forwarded edit label s (.error failure) after
  | applied {targets answer mid outcome after} : edit.changes = named targets →
    Ends (request "workspace/applyEdit" (Desk.editParams edit label)) s (.ok answer) mid →
    ¬isRejection answer = true →
    Ends (doEach targets fun target => applyHere target.1 target.2) mid outcome after →
    Forwarded edit label s outcome after

theorem ends_applyEdit [Peer σ] {edit : WorkspaceEdit} {label : String} {outcome : Outcome Unit}
    (ended : Ends (applyEdit edit label) s outcome after) : Forwarded edit label s outcome after := by
  have looped {targets : List (String × List (TextEdit Json))}
      {body : String × List (TextEdit Json) → Action σ Client Unit} {mid : Session σ Client}
      (ran : Ends (doEach targets body >>= fun _ => pure ()) mid outcome after) :
      Ends (doEach targets body) mid outcome after := by
    rcases ends_bind.mp ran with ⟨_, _, done, last⟩ | ⟨_, rfl, failed⟩
    · obtain ⟨rfl, rfl⟩ := ends_pure.mp last
      exact done
    · exact failed
  rcases ends_bind.mp ended with ⟨targets, _, targeted, submitted⟩ | ⟨_, rfl, untargeted⟩
  · obtain ⟨rfl, changes⟩ := ends_openTargets targeted
    obtain ⟨names, _⟩ := changes targets rfl
    rcases ends_bind.mp submitted with ⟨tried, mid, trying, finishing⟩ | ⟨_, _, failed⟩
    · obtain ⟨_, same, requested⟩ := Session.ends_attempt.mp trying
      cases same
      cases tried with
      | error failure =>
          cases failure with
          | problem problem =>
              rcases ends_ite.mp finishing with ⟨protocol, told⟩ | ⟨_, raised⟩
              · obtain ⟨kind, unknown⟩ := Bool.and_eq_true_iff.mp protocol
                exact .told names ⟨of_decide_eq_true kind, unknown⟩ requested (looped told)
              · obtain ⟨rfl, rfl⟩ := Session.ends_raise.mp raised
                exact .failed names requested
          | _ =>
              obtain ⟨rfl, rfl⟩ := ends_throw.mp finishing
              exact .failed names requested
      | ok answer =>
          rcases ends_ite.mp finishing with ⟨rejected, raising⟩ | ⟨accepted, applying⟩
          · rcases ends_bind.mp (ends_current_bind.mp raising) with ⟨_, _, raised, _⟩ |
              ⟨_, rfl, raised⟩
            · cases (Session.ends_raise.mp raised).1
            · obtain ⟨_, rfl⟩ := Session.ends_raise.mp raised
              exact .refused names requested rejected
          · exact .applied names requested accepted (looped applying)
    · obtain ⟨_, impossible, _⟩ := Session.ends_attempt.mp failed
      cases impossible
  · obtain ⟨rfl, _⟩ := ends_openTargets untargeted
    exact .unopened

/-! ### Launches -/

def launchedWith (s : Session σ Client) (launched : Launched) (server : σ) : Session σ Client :=
  { world := { s.world with server }
    connection := ({ language := s.owner.language, name := launched.name } : Connection).deliver
      launched.arrivals
    owner := { s.owner with launches := s.owner.launches + 1 } }

def stateUnlaunched (failure : Failure) (before now : ClientState) : ClientState :=
  match failure with
  | .problem _ => before
  | _ => now

omit [Halves] in
/-- A launch has failed, with the client at most in another state, or there is a new server. -/
theorem ends_launch [Peer σ] {before : ClientState} {outcome : Outcome Unit}
    (ended : Ends (launch before) s outcome after) :
    (∃ failure server, Peer.launch s.owner.config s.owner.root s.owner.settings s.world.files
        s.world.server = (.error failure, server) ∧ outcome = .error failure ∧
        after = { s with
          world := { s.world with server }
          owner := { s.owner with state := stateUnlaunched failure before s.owner.state } }) ∨
      ∃ launched server, Peer.launch s.owner.config s.owner.root s.owner.settings s.world.files
        s.world.server = (.ok launched, server) ∧ outcome = .ok () ∧
        after = launchedWith s launched server := by
  have looked := ends_get_bind.mp ended
  dsimp only at looked
  rcases found : Peer.launch s.owner.config s.owner.root s.owner.settings s.world.files
    s.world.server with ⟨result, server⟩
  rw [found] at looked
  rcases ends_bind.mp looked with ⟨_, _, placed, rest⟩ | ⟨_, _, placed⟩
  · obtain ⟨_, rfl⟩ := Session.ends_modifyWorld.mp placed
    cases result with
    | ok launched =>
        have connected := ends_update_bind.mp rest
        obtain ⟨done, rfl⟩ := Session.ends_modifyConnection.mp connected
        exact .inr ⟨launched, server, rfl, done, rfl⟩
    | error failure =>
        refine .inl ⟨failure, server, ?_⟩
        cases failure with
        | problem problem =>
            obtain ⟨done, rfl⟩ := ends_throw.mp (ends_update_bind.mp rest)
            exact ⟨rfl, done, rfl⟩
        | _ =>
            obtain ⟨done, rfl⟩ := ends_throw.mp rest
            exact ⟨rfl, done, rfl⟩
  · cases (Session.ends_modifyWorld.mp placed).1

theorem ends_start [Peer σ] {outcome : Outcome Json}
    (fresh : s.owner.state = .uninitialized ∨ s.owner.state = .restarting)
    (ended : Ends start s outcome after) :
    Ends (do
      launch s.owner.state
      greet s.owner.state) { s with owner := { s.owner with state := .initializing } } outcome
      after := by
  have begun := ends_current_bind.mp ended
  rcases fresh with state | state <;>
    rw [state] at begun ⊢ <;>
    exact ends_update_bind.mp begun

theorem attached_of_greet [Peer σ] {before : ClientState} {capabilities : Json}
    (ended : Ends (greet before) s (.ok capabilities) after) : after.owner.attached = true := by
  obtain ⟨greeting, _, _, notifying⟩ := ends_bind_ok.mp ended
  obtain ⟨_, mid, _, updating⟩ := ends_bind_ok.mp notifying
  obtain ⟨_, _, touching, settling⟩ := ends_bind_ok.mp (ends_update_bind.mp updating)
  obtain ⟨_, rfl⟩ := ends_touch.mp touching
  rcases ends_settle_bind.mp settling with ⟨_, _, impossible, _⟩ | ⟨_, _, fetching⟩
  · cases impossible
  · have fetched := ends_current_bind.mp fetching
    obtain ⟨_, rfl⟩ := ends_pure.mp fetched
    change (Client.touched _ _).attached = true
    unfold touched
    split <;> rfl

/-! ### Documents that are opened again -/

def reopen [Peer σ] (attached : Bool) (documents : List OpenDocument) : Action σ Client Unit := do
  if attached then
    for document in documents do
      Session.notify handlers "textDocument/didOpen" (openParams document)

theorem ends_replay_reopen [Peer σ] {outcome : Outcome Unit} (ended : Ends replay s outcome after) :
    Ends (reopen s.owner.attached s.owner.documents.resetVersions.documents)
      (withDocuments s s.owner.documents.resetVersions) outcome after :=
  ends_current_bind.mp (ends_update_bind.mp (ends_current_bind.mp ended))

end Scalpel.Client
