import Mathlib.Data.List.Nodup
import Scalpel.Proofs.Replay

/-!
Operations on documents that fail. A change is taken back when the connection did not take it, and a
document that is closed is dropped only after the server was told. So a failed change and a failed
closing leave the open documents as they were. A document that is newly opened is entered before the
server is told, and nobody strikes it out: it stays although the server has never heard of it.
-/

set_option autoImplicit false

namespace Scalpel

/-! ### Tables of documents -/

namespace Tracker

variable {t after : Tracker} {uri : String} {old document : OpenDocument}

theorem eq_of_get? (distinct : t.Distinct) (found : t.get? uri = some old)
    (member : document ∈ t.documents) (named : document.uri = uri) : document = old := by
  have oldMember : old ∈ t.documents := List.mem_of_find?_eq_some found
  have sameUri : document.uri = old.uri := named.trans (uri_of_get? found).symm
  exact List.inj_on_of_nodup_map distinct member oldMember sameUri

theorem documents_put (known : t.isOpen document.uri = true) :
    (t.put document).documents =
      t.documents.map fun other => if other.uri = document.uri then document else other := by
  simp [put, known]

theorem eq_of_documents {left right : Tracker} (same : left.documents = right.documents) :
    left = right := by
  cases left
  cases right
  exact congrArg Tracker.mk same

theorem put_eq_self (distinct : t.Distinct) (found : t.get? old.uri = some old) :
    t.put old = t := by
  have isHere : t.isOpen old.uri = true := by
    simp [isOpen, found]
  apply eq_of_documents
  rw [documents_put isHere]
  have each : ∀ other ∈ t.documents, (if other.uri = old.uri then old else other) = other := by
    intro other member
    by_cases named : other.uri = old.uri
    · rw [if_pos named]
      exact (eq_of_get? distinct found member named).symm
    · rw [if_neg named]
  exact (List.map_congr_left each).trans (List.map_id' t.documents)

theorem put_put (known : t.isOpen old.uri = true) (same : document.uri = old.uri) :
    (t.put old).put document = t.put document := by
  have knownBefore : t.isOpen document.uri = true := by
    rw [same]
    exact known
  have knownAfter : (t.put old).isOpen document.uri = true := isOpen_put old knownBefore
  apply eq_of_documents
  rw [documents_put knownAfter, documents_put known, documents_put knownBefore, List.map_map]
  refine List.map_congr_left ?_
  intro other _
  by_cases named : other.uri = old.uri
  · simp [named, same]
  · simp [named, same]

/-- An update that is undone at once leaves the documents as they were, in their order and with their
versions. -/
theorem revert_update {changes : List ContentChange} (distinct : t.Distinct)
    (found : t.get? uri = some old) (updated : t.update uri changes = .ok (after, document)) :
    after.revert uri old.content old.version = t := by
  obtain ⟨was, foundWas, madeOf, madeBy⟩ := update_eq_ok updated
  rw [found] at foundWas
  cases foundWas
  subst madeOf madeBy
  have named : old.uri = uri := uri_of_get? found
  have current : t.get? old.uri = some old := by
    rw [named]
    exact found
  have known : t.isOpen old.uri = true := by
    simp [isOpen, current]
  unfold revert
  rw [get?_put, if_pos named]
  dsimp only
  rw [if_pos rfl]
  have undone : (t.put { old with
      content := Document.applyChanges old.content changes
      version := old.version + 1 }).put old = t.put old :=
    put_put known rfl
  exact undone.trans (put_eq_self distinct current)

theorem put_ne_self (unopened : t.isOpen document.uri = false) : t.put document ≠ t := by
  intro same
  have longer : (t.put document).documents.length = t.documents.length + 1 := by
    simp [put, unopened]
  rw [same] at longer
  omega

end Tracker

/-! ### Failed operations -/

namespace Client

variable [Halves] {σ : Type} [Peer σ] {s after : Session σ Client} {uri : String}
  {failure : Failure}

/-- The server has not taken a message: it was not sent, or it was refused. -/
def Untaken (s : Session σ Client) (message : Json) : Prop :=
  s.connection.closed = true ∨ s.connection.transportClosed = true ∨
    (s.world.reaction s.connection.language message).refusal.isSome = true

/-- A notification that fails was not taken, and it leaves the client as it was: what arrived is
handled only after a message that was taken. -/
theorem untaken_of_notify_error {method : String} {params : Json}
    (failed : Ends (Session.notify handlers method params) s (.error failure) after) :
    after.owner = s.owner ∧ Untaken s (Connection.notificationMessage method params) := by
  rcases Session.ends_needOpen_bind.mp failed with ⟨_, rfl, closed⟩ | ⟨_, posting⟩
  · exact ⟨rfl, .inl closed⟩
  rcases ends_bind.mp posting with ⟨_, _, _, drained⟩ | ⟨_, _, unsent⟩
  · cases Session.drain_ok drained
  rcases Session.ends_emit.mp unsent with ⟨shut, rfl, _⟩ | ⟨_, _, refused, rfl, _⟩ |
    ⟨_, _, _, impossible⟩
  · exact ⟨rfl, .inr (.inl shut)⟩
  · have some : (s.world.reaction s.connection.language
        (Connection.notificationMessage method params)).refusal.isSome = true := by
      rw [refused]
      rfl
    exact ⟨rfl, .inr (.inr some)⟩
  · cases impossible

/-- The same within the session: where nothing stands in the way, the message was not taken. -/
theorem untaken_of_tell_error {method : String} {params : Json}
    (failed : Ends (notify method params) s (.error failure) after) :
    after.owner = s.owner ∧ (s.owner.obstacle? = none →
      Untaken s (Connection.notificationMessage method params)) := by
  rcases ends_tell failed with ⟨_, obstructed, _, rfl⟩ | ⟨_, _, _, impossible, _⟩ |
    ⟨_, _, same, sending⟩
  · refine ⟨rfl, fun free => ?_⟩
    cases free.symm.trans obstructed
  · cases impossible
  · cases same
    have untaken := untaken_of_notify_error sending
    exact ⟨untaken.1, fun _ => untaken.2⟩

/-- Why an operation on the document of a uri may be expected to fail: the connection did not take the
message, the client has no session, or the document is not open. -/
inductive Foreseen (s : Session σ Client) (uri : String) (failure : Failure) : Prop
  | unsent {problem : Problem} : failure = .problem problem → problem.kind = .connectionClosed →
    Foreseen s uri failure
  | obstructed {problem : Problem} : s.owner.obstacle? = some problem → Foreseen s uri failure
  | unopened : s.owner.documents.isOpen uri = false → Foreseen s uri failure

theorem documents_of_change_error {changes : List ContentChange}
    (distinct : s.owner.documents.Distinct) (foreseen : Foreseen s uri failure)
    (failed : Ends (change uri changes) s (.error failure) after) :
    after.owner.documents = s.owner.documents := by
  rcases ends_needSession_bind.mp failed with ⟨_, _, _, rfl⟩ | ⟨free, _⟩
  · rfl
  cases ends_changeDocument failed with
  | refused _ => rfl
  | @undone old document documents mid problem found updated _ unsent =>
      have same : mid.owner.documents = documents :=
        congrArg Client.documents (untaken_of_notify_error unsent).1
      change mid.owner.documents.revert uri old.content old.version = s.owner.documents
      rw [same]
      exact Tracker.revert_update distinct found updated
  | unsent found _ otherwise _ =>
      cases foreseen with
      | unsent same closed => exact absurd closed (otherwise _ same)
      | obstructed obstructed => cases free.symm.trans obstructed
      | unopened unopened =>
          unfold Tracker.isOpen at unopened
          rw [found] at unopened
          cases unopened

theorem documents_of_closeDocument_error
    (failed : Ends (closeDocument uri) s (.error failure) after) :
    after.owner.documents = s.owner.documents := by
  rcases ends_ite.mp (ends_current_bind.mp failed) with ⟨_, closing⟩ | ⟨_, idle⟩
  · rcases ends_bind.mp closing with ⟨_, _, _, dropping⟩ | ⟨_, same, untold⟩
    · cases (ends_update.mp dropping).1
    · cases same
      exact congrArg Client.documents (untaken_of_tell_error untold).1
  · cases (ends_pure.mp idle).1

def languageFor (c : Client) (languageId : Json) : Json :=
  languageId.orElse (c.config.languageId.orElse (.str c.language))

/-- An errand opens a document that is not open, and nothing stands in the way of telling the server:
then the document is entered first. -/
def Premature (s : Session σ Client) : Errand → Prop
  | .openDocument uri _ _ => s.owner.obstacle? = none ∧ s.owner.documents.isOpen uri = false
  | _ => False

def entered (c : Client) (uri content : String) (languageId : Json) : OpenDocument :=
  { uri, version := 1, content, languageId := languageFor c languageId }

/-- A document that could not be opened anew is entered all the same, and the server has not taken
it. -/
theorem documents_of_openDocument_error {content : String} {languageId : Json}
    (distinct : s.owner.documents.Distinct) (foreseen : Foreseen s uri failure)
    (failed : Ends (openDocument uri content languageId) s (.error failure) after) :
    (¬Premature s (.openDocument uri content languageId) ∧
        after.owner.documents = s.owner.documents) ∨
      (Premature s (.openDocument uri content languageId) ∧
        after.owner.documents =
          s.owner.documents.put (entered s.owner uri content languageId) ∧
        Untaken s (opening (entered s.owner uri content languageId))) := by
  rcases ends_needSession_bind.mp failed with ⟨_, obstructed, _, rfl⟩ | ⟨free, opening⟩
  · refine .inl ⟨fun premature => ?_, rfl⟩
    cases premature.1.symm.trans obstructed
  rcases ends_ite.mp (ends_current_bind.mp opening) with ⟨known, changing⟩ | ⟨unknown, entering⟩
  · refine .inl ⟨fun premature => ?_, documents_of_change_error distinct foreseen changing⟩
    cases premature.2.symm.trans known
  · have unopened : s.owner.documents.isOpen uri = false := Bool.eq_false_iff.mpr unknown
    rcases ends_bind.mp (ends_update_bind.mp entering) with ⟨_, _, _, last⟩ | ⟨_, same, untold⟩
    · have fetched := ends_current_bind.mp last
      cases (ends_pure.mp fetched).1
    · cases same
      have untaken := untaken_of_tell_error untold
      exact .inr ⟨⟨free, unopened⟩, congrArg Client.documents untaken.1, untaken.2 free⟩

/-- The uri of the document that an errand opens, changes or closes. -/
def Errand.document? : Errand → Option String
  | .openDocument uri _ _ => some uri
  | .changeDocument uri _ => some uri
  | .closeDocument uri => some uri
  | _ => none

/-- When an errand that opens, changes or closes a document fails because the connection did not take
its message, because there is no session or because the document is not open, then the open documents
are what they were, in order, text and version, exactly if it did not open a document anew within a
session. In that one case the document has been added, although the server has not taken it. -/
theorem failed_errand_keeps_documents_iff {errand : Errand} (subject : errand.document? = some uri)
    (distinct : s.owner.documents.Distinct) (foreseen : Foreseen s uri failure)
    (failed : Ends (doErrand errand) s (.error failure) after) :
    (after.owner.documents = s.owner.documents ↔ ¬Premature s errand) ∧
      ∀ {content : String} {languageId : Json}, errand = .openDocument uri content languageId →
        Premature s errand →
        after.owner.documents = s.owner.documents.put (entered s.owner uri content languageId) ∧
          Untaken s (opening (entered s.owner uri content languageId)) := by
  have alone {α : Type} {action : Action σ Client α}
      (ran : Ends (do let _ ← action) s (.error failure) after) :
      Ends action s (.error failure) after := by
    obtain ⟨result, ended, failures⟩ := ends_ignoring ran
    rw [(failures failure).mpr rfl] at ended
    exact ended
  cases errand with
  | openDocument uri content languageId =>
      cases subject
      rcases documents_of_openDocument_error distinct foreseen (alone failed) with
        ⟨free, kept⟩ | ⟨premature, added, untaken⟩
      · refine ⟨⟨fun _ => free, fun _ => kept⟩, fun _ premature => ?_⟩
        exact absurd premature free
      · have different : after.owner.documents ≠ s.owner.documents := by
          rw [added]
          exact Tracker.put_ne_self premature.2
        refine ⟨⟨fun kept => absurd kept different, fun free => absurd premature free⟩, ?_⟩
        intro _ _ same _
        cases same
        exact ⟨added, untaken⟩
  | changeDocument uri changes =>
      cases subject
      have kept := documents_of_change_error distinct foreseen (alone failed)
      exact ⟨⟨fun _ => id, fun _ => kept⟩, nofun⟩
  | closeDocument uri =>
      cases subject
      have kept := documents_of_closeDocument_error failed
      exact ⟨⟨fun _ => id, fun _ => kept⟩, nofun⟩
  | _ => cases subject

end Client

end Scalpel

/-! ### A server that takes no document -/

namespace Scalpel.Client

local instance undoingHalves : Halves :=
  Halves.trial

/-- A client in a session with a server that refuses to hear of documents. -/
def unheard : Session Script.Servers Client :=
  followAll {
    world := { server := { shared := { entries :=
      [("textDocument/didOpen", [{ refusal := some "no" }])] } } }
    owner := make { language := "py", command := .str "py-server" } "/w" {} 0.0 } [.stimulus .start]

def unheardErrand : Errand :=
  .openDocument "a.py" "x" (.str "python")

def unheardEnd : Session Script.Servers Client :=
  ((doErrand unheardErrand).run unheard).2

theorem failed_errand_keeps_documents_iff_of_unheard :
    (∃ failure, Ends (doErrand unheardErrand) unheard (.error failure) unheardEnd ∧
      Foreseen unheard "a.py" failure) ∧ Premature unheard unheardErrand ∧
      unheardEnd.owner.documents ≠ unheard.owner.documents := by
  obtain ⟨problem, closed, failed⟩ : ∃ problem : Problem, problem.kind = .connectionClosed ∧
      Ends (doErrand unheardErrand) unheard (.error (.problem problem)) unheardEnd :=
    ends_of_kind? (by decide +kernel)
  have distinct : unheard.owner.documents.Distinct := by
    unfold Tracker.Distinct
    decide +kernel
  have premature : Premature unheard unheardErrand := by
    constructor
    · exact Option.isNone_iff_eq_none.mp (by decide +kernel)
    · decide +kernel
  have foreseen : Foreseen unheard "a.py" (.problem problem) := .unsent rfl closed
  have subject : unheardErrand.document? = some "a.py" := rfl
  have kept := (failed_errand_keeps_documents_iff subject distinct foreseen failed).1
  exact ⟨⟨_, failed, foreseen⟩, premature, fun same => kept.mp same premature⟩

end Scalpel.Client
