import Scalpel.Proofs.Clerk
import Scalpel.Proofs.InStep
import Scalpel.Proofs.Poise
import Scalpel.Proofs.Rewriting

/-!
The two ways in which a client applies an edit of several documents. A server that can apply edits
applies it, and the client splices the same edits into its texts; a server that cannot is told the
changes one by one. With a server that says nothing but its answer, both ways lead to the same open
documents, and the changes that the server is told make of each old text the new one.
-/

set_option autoImplicit false

namespace Scalpel

namespace Document

/-- Edits of which one has no text make no text; the first of them from the bottom up says why. -/
theorem applyReceived_of_unfit {edits : List (TextEdit Json)} {failure : Failure}
    (unfit : (bottomUp edits).mapM TextEdit.checked = .error failure) (text : String) :
    applyReceived text edits = .error failure := by
  rw [applyReceived_eq_map, unfit]
  rfl

theorem exists_unchecked {edits : List (TextEdit Json)} {failure : Failure}
    (unfit : edits.mapM TextEdit.checked = .error failure) :
    ∃ edit ∈ edits, edit.checked = .error failure := by
  induction edits with
  | nil => cases unfit
  | cons first rest ih =>
      rw [List.mapM_cons] at unfit
      cases sound : first.checked with
      | error reason =>
          rw [sound] at unfit
          cases unfit
          exact ⟨first, List.mem_cons_self, sound⟩
      | ok edit =>
          rw [sound] at unfit
          cases remaining : rest.mapM TextEdit.checked with
          | error reason =>
              rw [remaining] at unfit
              cases unfit
              obtain ⟨other, member, bad⟩ := ih remaining
              exact ⟨other, List.mem_cons_of_mem _ member, bad⟩
          | ok others =>
              rw [remaining] at unfit
              cases unfit

theorem mem_of_mem_bottomUp {α : Type} {edits : List (TextEdit α)} {edit : TextEdit α}
    (member : edit ∈ bottomUp edits) : edit ∈ edits := by
  obtain ⟨⟨first, number⟩, sorted, rfl⟩ := List.mem_map.mp member
  exact List.fst_mem_of_mem_zipIdx (List.mem_mergeSort.mp sorted)

end Document

theorem Tracker.require_of_get? {t : Tracker} {uri : String} {document : OpenDocument}
    (found : t.get? uri = some document) : t.require uri = .ok document := by
  unfold require
  rw [found]

/-! ### Connections on which nothing is under way -/

namespace Connection

structure Idle (c : Connection) : Prop where
  opened : c.closed = false
  carrying : c.transportClosed = false
  handled : c.inbox = []
  sound : c.Sound

variable {c : Connection} {method : String} {outcome : Outcome Json} {message : Json}

variable [Halves]

theorem Idle.receive? (idle : c.Idle) : c.receive? = none := by
  unfold Connection.receive?
  rw [idle.handled]
  split <;> rfl

theorem settled_of_answered {number : Int} (answered : Desk.answered? message = some number) :
    (c.take message).1 = .settled := by
  cases message with
  | obj fields =>
      have named : (Json.obj fields).field? "method" = fields.lookup "method" := rfl
      simp only [Desk.answered?, named] at answered
      simp only [take]
      generalize (fields.lookup "method").getD .null = method at answered ⊢
      cases method with
      | null => cases fields.lookup "id" <;> rfl
      | _ => cases answered
  | _ => rfl

theorem receive?_message {rest : List Inbound} (awake : c.listening = true)
    (queue : c.inbox = .message message :: rest) :
    c.receive? = some (({ c with inbox := rest } : Connection).take message) := by
  unfold Connection.receive?
  rw [if_pos awake]
  split
  · next empty => cases empty.symm.trans queue
  · next first others same =>
    cases same.symm.trans queue
    rfl
  · next closure others same => cases same.symm.trans queue

theorem Awaits.taken {number : Int} (awaits : c.Awaits number method) (awake : c.listening = true)
    (queue : c.inbox = [.message message]) (answered : Desk.answered? message = some number)
    (meant : outcomeOf method message = some outcome) :
    ∃ d, c.receive? = some (.settled, d) ∧ d.outcomes.lookup number = some outcome ∧
      d.closed = c.closed ∧ d.inbox = [] := by
  have emptied : ({ c with inbox := [] } : Connection).Awaits number method :=
    ⟨awaits.waiting, awaits.outcomes⟩
  obtain ⟨value, index, taken⟩ := take_of_answered (c := { c with inbox := [] }) answered
  refine ⟨({ c with inbox := [] } : Connection).answer value message, ?_, ?_, ?_, ?_⟩
  · rw [receive?_message awake queue]
    exact congrArg some (Prod.ext (settled_of_answered answered) taken)
  · exact (emptied.answer index).outcomes.trans meant
  · exact congrArg (·.1) (stage_answer { c with inbox := [] } value message)
  · exact (answer_queue { c with inbox := [] } value message).1

/-- A request that is answered at once has its outcome when the answer has been taken, and nothing is
under way any more. -/
theorem Idle.answered (idle : c.Idle) (answered : Desk.answered? message = some c.nextId)
    (meant : outcomeOf method message = some outcome) :
    ∃ d, ((c.register method).2.deliver [.message message]).receive? = some (.settled, d) ∧
      d.outcomes.lookup c.nextId = some outcome ∧ d.language = c.language ∧ d.Idle := by
  have registered := (tended_register c method).sound idle.sound
  have sent : ((c.register method).2.deliver [.message message]).Sound :=
    ⟨registered.waiting, registered.outcomes, registered.awake⟩
  have awaits : ((c.register method).2.deliver [.message message]).Awaits c.nextId method := by
    obtain ⟨waiting, outcomes⟩ := awaits_register idle.sound method
    exact ⟨waiting, outcomes⟩
  have queue : ((c.register method).2.deliver [.message message]).inbox = [.message message] := by
    change c.inbox ++ [_] = _
    rw [idle.handled]
    rfl
  obtain ⟨d, arrived, known, opened, handled⟩ :=
    awaits.taken (idle.sound.awake idle.opened) queue answered meant
  refine ⟨d, arrived, known, (tended_receive arrived).language, opened.trans idle.opened, ?_,
    handled, (tended_receive arrived).sound sent⟩
  refine (transportClosed_receive arrived).trans ?_
  change (c.transportClosed || false) = false
  rw [idle.carrying]
  rfl

omit [Halves] in
theorem Idle.fetch (idle : c.Idle) (number : Int) : (c.fetch number).2.Idle :=
  ⟨idle.opened, idle.carrying, idle.handled, (tended_fetch c number).sound idle.sound⟩

end Connection

/-- Servers in certain states take every message that fits, and say nothing. -/
structure Peer.Silent {σ : Type} [Peer σ] (silent : σ → Prop) (fit : Json → Prop) : Prop where
  react : ∀ language {message} files {server : σ}, silent server → fit message →
    silent (Peer.react language message files server).2
  takes : ∀ language {message} files {server : σ}, silent server → fit message →
    (Peer.react language message files server).1.refusal = none
  mute : ∀ language {message} files {server : σ}, silent server → fit message →
    (Peer.react language message files server).1.arrivals = []

/-! ### Exchanges -/

namespace Session

variable [Halves] {σ ω : Type} [Peer σ] {h : Handlers σ ω} {s : Session σ ω}

theorem ends_drain_nothing (nothing : s.connection.receive? = none) :
    Ends (drain h) s (.ok ()) s := by
  refine ends_drain.mpr ?_
  cases s.world.budget with
  | zero => exact ends_pure.mpr ⟨rfl, rfl⟩
  | succ budget => exact ends_drainUpTo_succ.mpr (.inl ⟨nothing, rfl, rfl⟩)

theorem ends_drain_settled {d : Connection} (patient : 0 < s.world.budget)
    (arrived : s.connection.receive? = some (.settled, d)) (idle : d.Idle) :
    Ends (drain h) s (.ok ()) { s with connection := d } := by
  obtain ⟨budget, same⟩ := Nat.exists_eq_succ_of_ne_zero (Nat.ne_of_gt patient)
  refine ends_drain.mpr ?_
  rw [same]
  refine ends_drainUpTo_succ.mpr (.inr ⟨_, d, _, arrived, ends_pure.mpr ⟨rfl, rfl⟩, ?_⟩)
  cases budget with
  | zero => exact ends_pure.mpr ⟨rfl, rfl⟩
  | succ budget => exact ends_drainUpTo_succ.mpr (.inl ⟨idle.receive?, rfl, rfl⟩)

/-- The server answers the next request with one message, and says nothing else. -/
structure AnswersNext (s : Session σ ω) (method : String) (params : Json) (outcome : Outcome Json) :
    Prop where
  taken : (s.world.reaction s.connection.language
    (Connection.requestMessage s.connection.nextId method params)).refusal = none
  answer : ∃ message, (s.world.reaction s.connection.language
      (Connection.requestMessage s.connection.nextId method params)).arrivals = [.message message] ∧
    Desk.answered? message = some s.connection.nextId ∧
    Connection.outcomeOf method message = some outcome

theorem ends_request_answered {method : String} {params : Json} {outcome : Outcome Json}
    (timeout : Json) (patient : 0 < s.world.budget) (idle : s.connection.Idle)
    (answers : s.AnswersNext method params outcome) :
    ∃ d : Connection, d.Idle ∧ d.language = s.connection.language ∧
      Ends (request h method params timeout) s outcome { s with
        world := s.world.told s.connection.language
          (Connection.requestMessage s.connection.nextId method params)
        connection := d } := by
  obtain ⟨message, arrivals, answered, meant⟩ := answers.answer
  obtain ⟨d, arrived, known, language, idle'⟩ := idle.answered answered meant
  refine ⟨(d.fetch s.connection.nextId).2, idle'.fetch _, language, ?_⟩
  have emitted : Ends (emit (Connection.requestMessage s.connection.nextId method params))
      { s with connection := (s.connection.register method).2 } (.ok ()) { s with
        world := s.world.told s.connection.language
          (Connection.requestMessage s.connection.nextId method params)
        connection := (s.connection.register method).2.deliver [.message message] } := by
    refine ends_emit.mpr (.inr (.inr ⟨idle.carrying, answers.taken, ?_, rfl⟩))
    change _ = { s with
      world := _
      connection := (s.connection.register method).2.deliver (s.world.reaction s.connection.language
        (Connection.requestMessage s.connection.nextId method params)).arrivals }
    rw [arrivals]
    rfl
  have posed : Ends (pose h method params) s (.ok s.connection.nextId) { s with
        world := s.world.told s.connection.language
          (Connection.requestMessage s.connection.nextId method params)
        connection := d } := by
    refine ends_needOpen_bind.mpr (.inr ⟨idle.opened, ends_get_bind.mpr ?_⟩)
    refine (Ends.bind (ends_modifyConnection.mpr ⟨rfl, rfl⟩)).mpr ?_
    refine (Ends.bind (ends_attempt.mpr ⟨_, rfl, emitted⟩)).mpr ?_
    refine (Ends.bind (ends_drain_settled ?_ arrived idle')).mpr (ends_pure.mpr ⟨rfl, rfl⟩)
    exact patient
  refine (Ends.bind posed).mpr (ends_get_bind.mpr ?_)
  refine (Ends.bind (ends_modifyConnection.mpr ⟨rfl, rfl⟩)).mpr ?_
  dsimp only
  rw [known]
  exact ends_settle.mpr ⟨rfl, rfl⟩

theorem ends_notify_silent {silent : σ → Prop} {fit : Json → Prop} (server : Peer.Silent silent fit)
    (quiet : silent s.world.server) (idle : s.connection.Idle) {method : String} {params : Json}
    (fits : fit (Connection.notificationMessage method params)) :
    Ends (notify h method params) s (.ok ()) { s with
      world := s.world.told s.connection.language (Connection.notificationMessage method params) } := by
  have nothing : (s.world.reaction s.connection.language
      (Connection.notificationMessage method params)).arrivals = [] :=
    server.mute _ _ quiet fits
  have emitted : Ends (emit (Connection.notificationMessage method params)) s (.ok ()) { s with
      world := s.world.told s.connection.language
        (Connection.notificationMessage method params) } := by
    refine ends_emit.mpr (.inr (.inr ⟨idle.carrying, server.takes _ _ quiet fits, ?_, rfl⟩))
    rw [nothing, Connection.deliver_nil]
  refine ends_needOpen_bind.mpr (.inr ⟨idle.opened, (Ends.bind emitted).mpr ?_⟩)
  exact ends_drain_nothing idle.receive?

end Session

def Json.TellsChange (message : Json) : Prop :=
  ∃ params, message = Connection.notificationMessage "textDocument/didChange" params

def OpenDocument.changed (document : OpenDocument) (changes : List ContentChange) : OpenDocument :=
  { document with
    content := Document.applyChanges document.content changes
    version := document.version + 1 }

namespace Client

/-- A client that has a session in which nothing is under way. -/
structure Attuned {σ : Type} (s : Session σ Client) : Prop where
  free : s.owner.obstacle? = none
  idle : s.connection.Idle

structure Said {σ : Type} [Peer σ] (message : Json) (s after : Session σ Client) : Prop where
  world : after.world = s.world.told s.connection.language message
  language : after.connection.language = s.connection.language
  attuned : Attuned after

theorem free_iff {c : Client} : c.obstacle? = none ↔
    c.restarting = false ∧ (c.state = .ready ∨ c.state = .degraded) ∧ c.attached = true := by
  unfold obstacle?
  cases c.restarting <;> cases c.state <;> cases c.attached <;> simp

theorem obstacle?_touched {c : Client} (free : c.obstacle? = none) (now : Float) :
    (c.touched now).obstacle? = none := by
  obtain ⟨calm, alive, attached⟩ := free_iff.mp free
  refine free_iff.mpr ?_
  unfold touched
  split
  · exact ⟨calm, .inl rfl, attached⟩
  · exact ⟨calm, alive, attached⟩

section

variable [Halves] {σ : Type} [Peer σ] {s : Session σ Client}

omit [Halves] [Peer σ] in
private theorem ends_attempt_ok {α : Type} {action : Action σ Client α} {value : α}
    {after : Session σ Client} (done : Ends action s (.ok value) after) :
    Ends (Session.attempt action) s (.ok (.ok value)) after :=
  Session.ends_attempt.mpr ⟨_, rfl, done⟩

theorem request_answered {method : String} {params : Json} {outcome : Outcome Json}
    (timeout : Json) (patient : 0 < s.world.budget) (attuned : Attuned s)
    (answers : s.AnswersNext method params outcome) :
    ∃ after, Ends (request method params timeout) s outcome after ∧
      Said (Connection.requestMessage s.connection.nextId method params) s after ∧
      after.owner.documents = s.owner.documents := by
  obtain ⟨d, idle, language, ended⟩ := Session.ends_request_answered (h := handlers)
    (timeout.orElse s.owner.settings.requestTimeout) patient attuned.idle answers
  have asking {reached : Outcome Json} {after : Session σ Client}
      (rest : Ends (do
        let result ← Session.request handlers method params
          (timeout.orElse s.owner.settings.requestTimeout)
        touch
        return result) s reached after) : Ends (request method params timeout) s reached after :=
    ends_needSession_bind.mpr (.inr ⟨attuned.free, ends_current_bind.mpr rest⟩)
  cases outcome with
  | ok answer =>
      refine ⟨_, asking ((Ends.bind ended).mpr
        ((Ends.bind (ends_touch.mpr ⟨rfl, rfl⟩)).mpr (ends_pure.mpr ⟨rfl, rfl⟩))), ?_, ?_⟩
      · exact ⟨rfl, language, obstacle?_touched attuned.free _, idle⟩
      · exact (mild_touched _).documents _
  | error failure =>
      refine ⟨_, asking (ends_bind.mpr (.inr ⟨failure, rfl, ended⟩)), ?_, rfl⟩
      exact ⟨rfl, language, attuned.free, idle⟩

variable {silent : σ → Prop}

theorem change_silent (server : Peer.Silent silent Json.TellsChange) (quiet : silent s.world.server)
    (attuned : Attuned s) {uri : String} {document : OpenDocument}
    (found : s.owner.documents.get? uri = some document) (changes : List ContentChange) :
    ∃ value after, Ends (change uri changes) s (.ok value) after ∧
      Said (Connection.notificationMessage "textDocument/didChange"
        (Desk.changeParams uri (document.version + 1) changes)) s after ∧
      after.owner.documents = s.owner.documents.put (document.changed changes) := by
  have required := Tracker.require_of_get? found
  have updated : s.owner.documents.update uri changes =
      .ok (s.owner.documents.put (document.changed changes), document.changed changes) :=
    Tracker.update_of_get? found changes
  have free : (withDocuments s (s.owner.documents.put (document.changed changes))).owner.obstacle? =
      none := attuned.free
  have told : Json.TellsChange (Connection.notificationMessage "textDocument/didChange"
      (Desk.changeParams uri (document.version + 1) changes)) :=
    ⟨_, rfl⟩
  have notified := Session.ends_notify_silent (h := handlers) server
    (s := withDocuments s (s.owner.documents.put (document.changed changes))) quiet attuned.idle
    told
  have told : Ends (tell (Session.notify handlers) "textDocument/didChange"
      (Desk.changeParams uri (document.version + 1) changes))
      (withDocuments s (s.owner.documents.put (document.changed changes))) (.ok ()) _ :=
    ends_needSession_bind.mpr
      (.inr ⟨free, (Ends.bind notified).mpr (ends_touch.mpr ⟨rfl, rfl⟩)⟩)
  have carried := ends_attempt_ok told
  have changed : Ends (change uri changes) s (.ok _) _ :=
    ends_needSession_bind.mpr (.inr ⟨attuned.free, ends_current_bind.mpr
      (ends_settle_bind.mpr (.inr ⟨document, required, ends_current_bind.mpr
        (ends_settle_bind.mpr (.inr ⟨_, updated, ends_update_bind.mpr
          ((Ends.bind carried).mpr (ends_current_bind.mpr (ends_pure.mpr ⟨rfl, rfl⟩)))⟩))⟩))⟩)
  refine ⟨_, _, changed, ⟨rfl, rfl, obstacle?_touched free _, attuned.idle⟩, ?_⟩
  exact (mild_touched _).documents _

/-! ### One document -/

def changesOf (edits : List (TextEdit String)) : List ContentChange :=
  edits.map fun edit => { text := edit.newText, range := some edit.range }

theorem sendChanges_silent (server : Peer.Silent silent Json.TellsChange)
    (quiet : silent s.world.server) (attuned : Attuned s) {uri : String} {document : OpenDocument}
    (found : s.owner.documents.get? uri = some document) {edits : List (TextEdit Json)}
    {checked : List (TextEdit String)}
    (fit : (Document.bottomUp edits).mapM TextEdit.checked = .ok checked) :
    ∃ after, Ends (sendChanges uri edits) s (.ok ()) after ∧
      Said (Connection.notificationMessage "textDocument/didChange"
        (Desk.changeParams uri (document.version + 1) (changesOf checked))) s after ∧
      after.owner.documents = s.owner.documents.put (document.changed (changesOf checked)) := by
  obtain ⟨value, after, changed, said, documents⟩ :=
    change_silent server quiet attuned found (changesOf checked)
  refine ⟨after, ?_, said, documents⟩
  refine ends_needSession_bind.mpr (.inr ⟨attuned.free, ends_current_bind.mpr ?_⟩)
  refine ends_settle_bind.mpr (.inr ⟨document, Tracker.require_of_get? found, ?_⟩)
  refine ends_settle_bind.mpr (.inr ⟨checked, fit, ?_⟩)
  exact (Ends.bind changed).mpr (ends_pure.mpr ⟨rfl, rfl⟩)

theorem sendChanges_unfit (attuned : Attuned s) {uri : String} {document : OpenDocument}
    (found : s.owner.documents.get? uri = some document) {edits : List (TextEdit Json)}
    {failure : Failure} (unfit : (Document.bottomUp edits).mapM TextEdit.checked = .error failure) :
    Ends (sendChanges uri edits) s (.error failure) s := by
  refine ends_needSession_bind.mpr (.inr ⟨attuned.free, ends_current_bind.mpr ?_⟩)
  refine ends_settle_bind.mpr (.inr ⟨document, Tracker.require_of_get? found, ?_⟩)
  exact ends_settle_bind.mpr (.inl ⟨failure, unfit, rfl, rfl⟩)

omit [Halves] [Peer σ] in
theorem applyHere_fit {uri : String} {document : OpenDocument}
    (found : s.owner.documents.get? uri = some document) {edits : List (TextEdit Json)}
    {checked : List (TextEdit String)}
    (fit : (Document.bottomUp edits).mapM TextEdit.checked = .ok checked) :
    Ends (applyHere uri edits : Action σ Client Unit) s (.ok ())
      (withDocuments s (s.owner.documents.put (document.changed (changesOf checked)))) := by
  have made := Document.applyReceived_of_checked fit document.content
  refine ends_current_bind.mpr ?_
  refine ends_settle_bind.mpr (.inr ⟨document, Tracker.require_of_get? found, ?_⟩)
  refine ends_settle_bind.mpr (.inr ⟨_, made, ends_current_bind.mpr ?_⟩)
  refine ends_settle_bind.mpr (.inr ⟨_, Tracker.update_of_get? found _, ?_⟩)
  exact ends_update.mpr ⟨rfl, rfl⟩

omit [Halves] [Peer σ] in
theorem applyHere_unfit {uri : String} {document : OpenDocument}
    (found : s.owner.documents.get? uri = some document) {edits : List (TextEdit Json)}
    {failure : Failure} (unfit : (Document.bottomUp edits).mapM TextEdit.checked = .error failure) :
    Ends (applyHere uri edits : Action σ Client Unit) s (.error failure) s := by
  refine ends_current_bind.mpr ?_
  refine ends_settle_bind.mpr (.inr ⟨document, Tracker.require_of_get? found, ?_⟩)
  exact ends_settle_bind.mpr
    (.inl ⟨failure, Document.applyReceived_of_unfit unfit document.content, rfl, rfl⟩)

end

/-! ### All documents -/

/-- A message tells a server how the document of a uri came to be what it is after changes of the open
documents: by changes that make its new text of the old one. -/
def Explains (before after : Tracker) (uri : String) (message : Json) : Prop :=
  ∃ old new changes, before.get? uri = some old ∧ after.get? uri = some new ∧
    new.version = old.version + 1 ∧
    message = Connection.notificationMessage "textDocument/didChange"
      (Desk.changeParams uri new.version changes) ∧
    Document.applyChanges old.content changes = new.content

/-- How far a client that tells its server of edits has got with them. The server was told of each
document that has been edited, and all have been unless one has edits without a text. -/
def Explained (targets : List (String × List (TextEdit Json))) (before after : Tracker)
    (outcome : Outcome Unit) (messages : List Json) : Prop :=
  ∃ done rest, targets = done ++ rest ∧
    List.Forall₂ (fun target => Explains before after target.1) done messages ∧
    (rest = [] ↔ outcome = .ok ()) ∧ ∀ target ∈ rest, after.get? target.1 = before.get? target.1

namespace Explained

variable {targets : List (String × List (TextEdit Json))} {before after : Tracker}

theorem nil : Explained [] before after (.ok ()) [] :=
  ⟨[], [], rfl, .nil, ⟨fun _ => rfl, fun _ => rfl⟩, nofun⟩

theorem stuck {first : String × List (TextEdit Json)} {failure : Failure}
    (kept : ∀ target ∈ first :: targets, after.get? target.1 = before.get? target.1) :
    Explained (first :: targets) before after (.error failure) [] :=
  ⟨[], first :: targets, rfl, .nil, ⟨nofun, nofun⟩, kept⟩

theorem cons {first : String × List (TextEdit Json)} {outcome : Outcome Unit} {message : Json}
    {messages : List Json} (explains : Explains before after first.1 message)
    (explained : Explained targets before after outcome messages) :
    Explained (first :: targets) before after outcome (message :: messages) := by
  obtain ⟨done, rest, rfl, each, ended, kept⟩ := explained
  exact ⟨first :: done, rest, rfl, .cons explains each, ended, kept⟩

end Explained

variable [Halves] {σ τ : Type} [Peer σ] [Peer τ] {silent : τ → Prop} {s : Session σ Client}
  {t : Session τ Client} {targets : List (String × List (TextEdit Json))}

/-- What the two ways come to: the same outcome with the same documents, and messages on the second
that explain them. Documents that are not named stay as they are. Only edits that have no text end it
early. -/
structure Agreed (targets : List (String × List (TextEdit Json))) (before : Tracker)
    (s direct : Session σ Client) (t told : Session τ Client) (outcome : Outcome Unit) : Prop where
  documents : told.owner.documents = direct.owner.documents
  others : ∀ other ∉ targets.map (·.1),
    direct.owner.documents.get? other = s.owner.documents.get? other
  unfit : ∀ failure, outcome = .error failure → ∃ target ∈ targets, ∃ edit ∈ target.2,
    edit.checked = .error failure
  messages : ∃ messages, told.world.sent =
      messages.reverse.map (t.connection.language, ·) ++ t.world.sent ∧
    Explained targets before direct.owner.documents outcome messages

namespace Agreed

variable {before : Tracker} {outcome : Outcome Unit} {direct : Session σ Client}
  {told : Session τ Client}

omit [Halves] [Peer σ] [Peer τ] in
theorem nothing (same : t.owner.documents = s.owner.documents) :
    Agreed [] before s s t t (.ok ()) where
  documents := same
  others _ _ := rfl
  unfit _ failed := nomatch failed
  messages := ⟨[], rfl, .nil⟩

omit [Halves] [Peer σ] [Peer τ] in
theorem stuck {first : String × List (TextEdit Json)} {failure : Failure}
    (same : t.owner.documents = s.owner.documents)
    (kept : ∀ target ∈ first :: targets, s.owner.documents.get? target.1 = before.get? target.1)
    (unfit : (Document.bottomUp first.2).mapM TextEdit.checked = .error failure) :
    Agreed (first :: targets) before s s t t (.error failure) where
  documents := same
  others _ _ := rfl
  unfit reason failed := by
    cases failed
    obtain ⟨edit, member, bad⟩ := Document.exists_unchecked unfit
    exact ⟨first, List.mem_cons_self, edit, Document.mem_of_mem_bottomUp member, bad⟩
  messages := ⟨[], rfl, .stuck kept⟩

omit [Halves] [Peer σ] in
theorem cons {mid : Session τ Client} {uri : String} {edits : List (TextEdit Json)}
    {document : OpenDocument} {changes : List ContentChange}
    (found : s.owner.documents.get? uri = some document)
    (was : before.get? uri = some document) (fresh : uri ∉ targets.map (·.1))
    (said : Said (Connection.notificationMessage "textDocument/didChange"
      (Desk.changeParams uri (document.version + 1) changes)) t mid)
    (agreed : Agreed targets before
      (withDocuments s (s.owner.documents.put (document.changed changes))) direct mid told outcome) :
    Agreed ((uri, edits) :: targets) before s direct t told outcome := by
  have named : (document.changed changes).uri = uri :=
    (Tracker.uri_of_get? found : document.uri = uri)
  have put (other : String) := s.owner.documents.get?_put (document.changed changes) other
  have now : direct.owner.documents.get? uri = some (document.changed changes) :=
    (agreed.others uri fresh).trans ((put uri).trans (if_pos named))
  obtain ⟨messages, posted, explained⟩ := agreed.messages
  refine ⟨agreed.documents, fun other absent => ?_, fun failure failed => ?_, _ :: messages, ?_,
    explained.cons ⟨document, _, changes, was, now, rfl, rfl, rfl⟩⟩
  · rw [List.map_cons, List.mem_cons, not_or] at absent
    refine (agreed.others other absent.2).trans ((put other).trans (if_neg ?_))
    exact fun equal => absent.1 (equal.symm.trans named)
  · obtain ⟨target, member, edit⟩ := agreed.unfit failure failed
    exact ⟨target, List.mem_cons_of_mem _ member, edit⟩
  · rw [posted, said.world, said.language, List.reverse_cons, List.map_append, List.append_assoc]
    rfl

end Agreed

omit [Peer σ] in
/-- The edits of several open documents lead to the same documents on both ways. The induction is on
the documents that are still to be edited; `before` are the documents before the first of all. -/
theorem each_agrees (server : Peer.Silent silent Json.TellsChange) (quiet : silent t.world.server)
    (attuned : Attuned t) (same : t.owner.documents = s.owner.documents)
    (opened : ∀ target ∈ targets, s.owner.documents.isOpen target.1 = true)
    (once : (targets.map (·.1)).Nodup) {before : Tracker}
    (kept : ∀ target ∈ targets, s.owner.documents.get? target.1 = before.get? target.1) :
    ∃ outcome direct told,
      Ends (doEach targets fun target => applyHere target.1 target.2) s outcome direct ∧
      Ends (doEach targets fun target => sendChanges target.1 target.2) t outcome told ∧
      Agreed targets before s direct t told outcome := by
  induction targets generalizing s t with
  | nil =>
      exact ⟨.ok (), s, t, ends_doEach_nil.mpr ⟨rfl, rfl⟩, ends_doEach_nil.mpr ⟨rfl, rfl⟩,
        .nothing same⟩
  | cons first rest ih =>
      obtain ⟨uri, edits⟩ := first
      obtain ⟨document, found⟩ :=
        Option.isSome_iff_exists.mp (opened (uri, edits) List.mem_cons_self)
      have found' : t.owner.documents.get? uri = some document := by
        rw [same]
        exact found
      rw [List.map_cons, List.nodup_cons] at once
      cases fit : (Document.bottomUp edits).mapM TextEdit.checked with
      | error failure =>
          have direct := applyHere_unfit found fit
          have told := sendChanges_unfit attuned found' fit
          exact ⟨.error failure, s, t, ends_doEach_cons.mpr (.inr ⟨failure, rfl, direct⟩),
            ends_doEach_cons.mpr (.inr ⟨failure, rfl, told⟩), .stuck same kept fit⟩
      | ok checked =>
          have here := applyHere_fit found fit
          obtain ⟨mid, sent, said, documents⟩ := sendChanges_silent server quiet attuned found' fit
          have quiet' : silent mid.world.server := by
            rw [said.world]
            exact server.react _ _ quiet ⟨_, rfl⟩
          rw [same] at documents
          have was := (kept (uri, edits) List.mem_cons_self).symm.trans found
          have kept' : ∀ target ∈ rest, (s.owner.documents.put
              (document.changed (changesOf checked))).get? target.1 = before.get? target.1 := by
            intro target member
            have named : (document.changed (changesOf checked)).uri = uri :=
              (Tracker.uri_of_get? found : document.uri = uri)
            rw [Tracker.get?_put, named, if_neg]
            · exact kept target (List.mem_cons_of_mem _ member)
            · exact fun equal => once.1 (List.mem_map.mpr ⟨target, member, equal.symm⟩)
          obtain ⟨outcome, direct, told, applied, changes, agreed⟩ := ih
            (s := withDocuments s (s.owner.documents.put (document.changed (changesOf checked))))
            quiet' said.attuned documents
            (fun target member => Tracker.isOpen_put _ (opened target (List.mem_cons_of_mem _ member)))
            once.2 kept'
          exact ⟨outcome, direct, told, ends_doEach_cons.mpr (.inl ⟨_, here, applied⟩),
            ends_doEach_cons.mpr (.inl ⟨mid, sent, changes⟩), agreed.cons found was once.1 said⟩

/-! ### Both ways -/

omit [Peer σ] in
theorem ends_openTargets_named (opened : ∀ target ∈ targets, s.owner.documents.isOpen target.1 = true)
    {edit : WorkspaceEdit} (names : edit.changes = named targets) :
    Ends (openTargets edit : Action σ Client _) s (.ok targets) s := by
  refine ends_current_bind.mpr ?_
  dsimp only
  rw [names]
  clear names
  induction targets with
  | nil => exact ends_pure.mpr ⟨rfl, rfl⟩
  | cons first rest ih =>
      obtain ⟨document, found⟩ := Option.isSome_iff_exists.mp (opened first List.mem_cons_self)
      unfold named
      rw [List.map_cons, List.mapM_cons]
      have required : Ends (do
          let _ ← Session.settle (s.owner.documents.require first.1)
          return (first.1, first.2) : Action σ Client _) s (.ok first) s :=
        ends_settle_bind.mpr (.inr ⟨_, Tracker.require_of_get? found, ends_pure.mpr ⟨rfl, rfl⟩⟩)
      have others := ih fun target member => opened target (List.mem_cons_of_mem _ member)
      exact (Ends.bind required).mpr ((Ends.bind others).mpr (ends_pure.mpr ⟨rfl, rfl⟩))

omit [Halves] [Peer σ] in
private theorem ends_loop {body : String × List (TextEdit Json) → Action σ Client Unit}
    {outcome : Outcome Unit} {after : Session σ Client}
    (looped : Ends (doEach targets body) s outcome after) :
    Ends (doEach targets body >>= fun _ => pure ()) s outcome after := by
  cases outcome with
  | ok value => exact (Ends.bind looped).mpr (ends_pure.mpr ⟨rfl, rfl⟩)
  | error failure => exact ends_bind.mpr (.inr ⟨failure, rfl, looped⟩)

theorem applyEdit_applied {edit : WorkspaceEdit} {label : String} {answer : Json}
    {mid after : Session σ Client} {outcome : Outcome Unit} (names : edit.changes = named targets)
    (opened : ∀ target ∈ targets, s.owner.documents.isOpen target.1 = true)
    (requested : Ends (request "workspace/applyEdit" (Desk.editParams edit label)) s (.ok answer) mid)
    (accepted : isRejection answer = false)
    (applied : Ends (doEach targets fun target => applyHere target.1 target.2) mid outcome after) :
    Ends (applyEdit edit label) s outcome after := by
  refine (Ends.bind (ends_openTargets_named opened names)).mpr ?_
  refine (Ends.bind (ends_attempt_ok requested)).mpr ?_
  exact ends_ite.mpr (.inr ⟨by rw [accepted]; exact nofun, ends_loop applied⟩)

theorem applyEdit_unknown {edit : WorkspaceEdit} {label : String} {problem : Problem}
    {mid after : Session σ Client} {outcome : Outcome Unit} (names : edit.changes = named targets)
    (opened : ∀ target ∈ targets, s.owner.documents.isOpen target.1 = true)
    (requested : Ends (request "workspace/applyEdit" (Desk.editParams edit label)) s
      (.error (.problem problem)) mid)
    (unknown : problem.kind = .protocol ∧ problem.isMethodNotFound = true)
    (told : Ends (doEach targets fun target => sendChanges target.1 target.2) mid outcome after) :
    Ends (applyEdit edit label) s outcome after := by
  have tried : Ends (Session.attempt (request "workspace/applyEdit" (Desk.editParams edit label))) s
      (.ok (.error (.problem problem))) mid :=
    Session.ends_attempt.mpr ⟨_, rfl, requested⟩
  refine (Ends.bind (ends_openTargets_named opened names)).mpr ((Ends.bind tried).mpr ?_)
  refine ends_ite.mpr (.inl ⟨?_, ends_loop told⟩)
  exact Bool.and_eq_true_iff.mpr ⟨decide_eq_true unknown.1, unknown.2⟩

/-- An edit of open documents, applied by a server that says so or told to a server that does not know
how to apply edits, ends in the same way with the same documents, when the servers say nothing else. It
ends well if all new texts are texts. The server that is told the changes gets one message for each
document, whose changes make its new text of its old one. -/
theorem fallback_agrees (server : Peer.Silent silent Json.TellsChange) {edit : WorkspaceEdit}
    {label : String} {answer : Json} {problem : Problem} (names : edit.changes = named targets)
    (once : (targets.map (·.1)).Nodup) (same : t.owner.documents = s.owner.documents)
    (opened : ∀ target ∈ targets, s.owner.documents.isOpen target.1 = true)
    (attuned : Attuned s) (patient : 0 < s.world.budget)
    (attuned' : Attuned t) (patient' : 0 < t.world.budget)
    (accepts : s.AnswersNext "workspace/applyEdit" (Desk.editParams edit label) (.ok answer))
    (accepted : isRejection answer = false)
    (refuses : t.AnswersNext "workspace/applyEdit" (Desk.editParams edit label)
      (.error (.problem problem)))
    (unknown : problem.kind = .protocol ∧ problem.isMethodNotFound = true)
    (quiet : silent (t.world.told t.connection.language (Connection.requestMessage
      t.connection.nextId "workspace/applyEdit" (Desk.editParams edit label))).server) :
    ∃ outcome direct told messages,
      Ends (applyEdit edit label) s outcome direct ∧ Ends (applyEdit edit label) t outcome told ∧
      told.owner.documents = direct.owner.documents ∧
      ((∀ target ∈ targets, ∀ change ∈ target.2, ∃ text, change.newText = .str text) →
        outcome = .ok ()) ∧
      told.world.sent = messages.reverse.map (t.connection.language, ·) ++
        (t.connection.language, Connection.requestMessage t.connection.nextId
          "workspace/applyEdit" (Desk.editParams edit label)) :: t.world.sent ∧
      Explained targets t.owner.documents told.owner.documents outcome messages := by
  have opened' : ∀ target ∈ targets, t.owner.documents.isOpen target.1 = true := by
    rw [same]
    exact opened
  obtain ⟨mid, requested, _, kept⟩ := request_answered .null patient attuned accepts
  obtain ⟨mid', requested', said, kept'⟩ :=
    request_answered .null patient' attuned' refuses
  have same' : mid'.owner.documents = mid.owner.documents := by
    rw [kept', kept, same]
  have quiet' : silent mid'.world.server := by
    rw [said.world]
    exact quiet
  have before : ∀ target ∈ targets,
      mid.owner.documents.get? target.1 = t.owner.documents.get? target.1 := by
    rw [kept, same]
    exact fun _ _ => rfl
  obtain ⟨outcome, direct, told, applied, changes, agreed⟩ := each_agrees server quiet' said.attuned
    same' (by rw [kept]; exact opened) once before
  obtain ⟨messages, posted, explained⟩ := agreed.messages
  refine ⟨outcome, direct, told, messages,
    applyEdit_applied names opened requested accepted applied,
    applyEdit_unknown names opened' requested' unknown changes, agreed.documents, ?_, ?_, ?_⟩
  · intro texts
    cases outcome with
    | ok value => rfl
    | error failure =>
        obtain ⟨target, member, edit, known, bad⟩ := agreed.unfit failure rfl
        obtain ⟨text, given⟩ := texts target member edit known
        unfold TextEdit.checked at bad
        rw [given] at bad
        cases bad
  · rw [posted, said.world, said.language]
    rfl
  · rw [agreed.documents]
    exact explained

end Client

end Scalpel

/-! ### An edit on both ways -/

namespace Scalpel

theorem Clerk.answersNext [Halves] {ω : Type} (s : Session Clerk ω) (method : String)
    (params : Json) : s.AnswersNext method params
      (.ok ((s.world.server.answers.lookup method).getD .null)) where
  taken := rfl
  answer := ⟨.obj [("id", .int s.connection.nextId),
    ("result", (s.world.server.answers.lookup method).getD .null)], rfl, rfl, rfl⟩

/-- A server that shakes hands and knows no other request. -/
structure Novice where

namespace Novice

def answer (message : Json) : List Inbound :=
  match message.field? "method", message.field? "id" with
  | some (.str method), some id =>
    if method = "initialize" then
      [.message (.obj [("id", id), ("result", .obj [("capabilities", .obj [])])])]
    else
      [.message (.obj [("id", id), ("error", .obj [("code", .int Problem.methodNotFound),
        ("message", .str "Unhandled method")])])]
  | _, _ => []

instance : Peer Novice where
  launch config _ _ _ server := (.ok { name := config.language }, server)
  react _ message files server := ({ files, arrivals := answer message }, server)

theorem silent : Peer.Silent (fun _ : Novice => True) Json.TellsChange where
  react _ _ _ _ _ _ := trivial
  takes _ _ _ _ _ _ := rfl
  mute _ _ _ _ _ tells := by
    obtain ⟨params, rfl⟩ := tells
    cases params <;> rfl

theorem answersNext [Halves] {ω : Type} (s : Session Novice ω) (params : Json) :
    s.AnswersNext "workspace/applyEdit" params (.error (.problem (.answered
      "'workspace/applyEdit' failed: Unhandled method" (.int Problem.methodNotFound) .null))) where
  taken := rfl
  answer := ⟨.obj [("id", .int s.connection.nextId), ("error", .obj [
    ("code", .int Problem.methodNotFound), ("message", .str "Unhandled method")])], rfl, rfl, rfl⟩

end Novice

namespace Client

local instance fallbackHalves : Halves :=
  Halves.trial

def pair : Tracker :=
  { documents := [
      { uri := "a.py", version := 1, content := "x = 1\n", languageId := .str "py" },
      { uri := "b.py", version := 4, content := "y", languageId := .str "py" }] }

/-- A client with two open documents, after the handshake with a server. -/
def paired {σ : Type} [Peer σ] (server : σ) : Session σ Client :=
  withDocuments (start.run {
    world := { server }
    owner := make { language := "py", command := .str "py-server" } "/w" {} 0.0 }).2 pair

/-- Two insertions at one place and one past the end of the text, and no edit at all. -/
def pairEdits : List (String × List (TextEdit Json)) :=
  [("a.py", [⟨⟨⟨0, 0⟩, ⟨0, 0⟩⟩, .str "a = 0\n"⟩, ⟨⟨⟨0, 0⟩, ⟨0, 0⟩⟩, .str "b = 0\n"⟩,
    ⟨⟨⟨7, 0⟩, ⟨7, 9⟩⟩, .str "c"⟩]), ("b.py", [])]

private theorem attuned_of_decided {σ : Type} {s : Session σ Client}
    (owner : s.owner.restarting = false ∧ s.owner.state = .ready ∧ s.owner.attached = true)
    (opened : s.connection.closed = false ∧ s.connection.transportClosed = false ∧
      s.connection.listening = true)
    (queues : s.connection.inbox.isEmpty = true ∧ s.connection.waiting.isEmpty = true ∧
      s.connection.outcomes.isEmpty = true) : Attuned s := by
  obtain ⟨inbox, waiting, outcomes⟩ := queues
  refine ⟨free_iff.mpr ⟨owner.1, .inl owner.2.1, owner.2.2⟩, opened.1, opened.2.1,
    List.isEmpty_iff.mp inbox, ?_, ?_, fun _ => opened.2.2⟩
  · rw [List.isEmpty_iff.mp waiting]
    exact fun _ member => absurd member List.not_mem_nil
  · rw [List.isEmpty_iff.mp outcomes]
    exact fun _ member => absurd member List.not_mem_nil

theorem fallback_agrees_of_pair : ∃ direct told,
    Ends (applyEdit ⟨named pairEdits⟩ "edit") (paired Clerk.editing) (.ok ()) direct ∧
      Ends (applyEdit ⟨named pairEdits⟩ "edit") (paired Novice.mk) (.ok ()) told ∧
      told.owner.documents = direct.owner.documents := by
  have clerk : Attuned (paired Clerk.editing) :=
    attuned_of_decided (by decide +kernel) (by decide +kernel) (by decide +kernel)
  have novice : Attuned (paired Novice.mk) :=
    attuned_of_decided (by decide +kernel) (by decide +kernel) (by decide +kernel)
  have opened : ∀ target ∈ pairEdits, pair.isOpen target.1 = true := by decide
  have texts : ∀ target ∈ pairEdits, ∀ change ∈ target.2, ∃ text, change.newText = .str text := by
    simp [pairEdits]
  have knows : isRejection (((paired Clerk.editing).world.server.answers.lookup
      "workspace/applyEdit").getD .null) = false := by
    decide +kernel
  have names : (WorkspaceEdit.mk (named pairEdits)).changes = named pairEdits := rfl
  have same : (paired Novice.mk).owner.documents = (paired Clerk.editing).owner.documents := rfl
  have accepts := Clerk.answersNext (paired Clerk.editing) "workspace/applyEdit"
    (Desk.editParams ⟨named pairEdits⟩ "edit")
  have refuses := Novice.answersNext (paired Novice.mk)
    (Desk.editParams ⟨named pairEdits⟩ "edit")
  obtain ⟨outcome, direct, told, _, applied, changed, same, well, _⟩ :=
    fallback_agrees Novice.silent names (by decide) same opened clerk (by decide +kernel) novice
      (by decide +kernel) accepts knows refuses ⟨rfl, by decide⟩ trivial
  rw [well texts] at applied changed
  exact ⟨direct, told, applied, changed, same⟩

end Client

end Scalpel
