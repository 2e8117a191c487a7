import Scalpel.Proofs.Chronicle
import Scalpel.Proofs.Clerk
import Scalpel.Proofs.EditRequest
import Scalpel.Proofs.Stages

/-!
Files follow only edits that their server has accepted. An operation on a symbol writes nothing before
its client has applied the edit, and the client has done so only if the server answered the request to
apply it, and has not rejected it, or if the server knows no such request and has taken every change of
the edit. Both are read off the record of what the servers did.
-/

set_option autoImplicit false

namespace Scalpel

/-! ### A request that is under way -/

namespace Connection

variable [Halves]

/-- The outcome of a request is what an answer to it says, or the end of the connection. -/
def Decided (came : Json → Prop) (number : Int) (method : String) (outcome : Outcome Json) : Prop :=
  (∃ value, came value ∧ Desk.answered? value = some number ∧
      outcomeOf method value = some outcome) ∨
    ∃ problem : Problem, problem.kind = .connectionClosed ∧ outcome = .error (.problem problem)

/-- A request is under way: messages that came are in the queue, and it has ended, if it has, as it was
decided. -/
structure Pending (came : Json → Prop) (number : Int) (method : String) (c : Connection) : Prop where
  inbox : ∀ value, Inbound.message value ∈ c.inbox → came value
  waiting : ∀ other, c.waiting.lookup number = some other → other = method
  decided : ∀ outcome, c.outcomes.lookup number = some outcome →
    Decided came number method outcome

namespace Pending

variable {came wider : Json → Prop} {number : Int} {method : String} {c d : Connection}

theorem mono (pending : c.Pending came number method) (weaker : ∀ value, came value → wider value) :
    c.Pending wider number method := by
  refine ⟨fun value queued => weaker value (pending.inbox value queued), pending.waiting, ?_⟩
  intro outcome found
  rcases pending.decided outcome found with ⟨value, known, answered⟩ | closed
  · exact .inl ⟨value, weaker value known, answered⟩
  · exact .inr closed

theorem deliver (pending : c.Pending came number method) {arrivals : List Inbound}
    (sent : ∀ value, Inbound.message value ∈ arrivals → came value) :
    (c.deliver arrivals).Pending came number method := by
  refine ⟨fun value queued => ?_, pending.waiting, pending.decided⟩
  rcases List.mem_append.mp queued with old | new
  · exact pending.inbox value old
  · exact sent value new

theorem failAll (pending : c.Pending came number method) {reason : Problem}
    (closed : reason.kind = .connectionClosed) : (c.failAll reason).Pending came number method := by
  refine ⟨pending.inbox, fun _ waits => absurd waits nofun, fun outcome found => ?_⟩
  rw [lookup_failAll] at found
  rcases Option.or_eq_some_iff.mp found with old | ⟨_, failed⟩
  · exact pending.decided outcome old
  · obtain ⟨_, _, rfl⟩ := Option.map_eq_some_iff.mp failed
    exact .inr ⟨reason, closed, rfl⟩

theorem shut (pending : c.Pending came number method) :
    c.hangUp.finish.Pending came number method := by
  have hung : c.hangUp.Pending came number method := by
    unfold hangUp endTransport
    split
    · exact ⟨pending.inbox, pending.waiting, pending.decided⟩
    · have closing : ({ c with closing := true } : Connection).Pending came number method :=
        ⟨pending.inbox, pending.waiting, pending.decided⟩
      refine closing.deliver fun value queued => ?_
      cases List.mem_singleton.mp queued
  have ended : ({ c.hangUp with closed := true, listening := false } : Connection).Pending came
      number method :=
    ⟨hung.inbox, hung.waiting, hung.decided⟩
  exact ended.failAll rfl

theorem take (pending : c.Pending came number method) {message : Json} (known : came message) :
    (c.take message).2.Pending came number method := by
  by_cases answered : Desk.answered? message = some number
  · obtain ⟨value, index, taken⟩ := take_of_answered (c := c) answered
    have forgotten := lookup_forgotten c number
    rw [taken, answer_of_index index]
    cases waits : c.waiting.lookup number with
    | none => exact pending
    | some other =>
        cases pending.waiting other waits
        dsimp only
        cases decided : outcomeOf method message with
        | none =>
            refine ⟨pending.inbox, fun other still => ?_, pending.decided⟩
            cases forgotten.symm.trans still
        | some outcome =>
            refine ⟨pending.inbox, fun other still => ?_, fun reached found => ?_⟩
            · cases forgotten.symm.trans still
            · have found : (c.outcomes ++ [(number, outcome)]).lookup number = some reached := found
              rw [List.lookup_append, List.lookup_cons_self] at found
              rcases Option.or_eq_some_iff.mp found with old | ⟨_, new⟩
              · exact pending.decided reached old
              · cases new
                exact .inl ⟨message, known, answered, decided⟩
  · have spared := spared_take c answered
    refine ⟨fun value queued => ?_, fun other waits => ?_, fun outcome found => ?_⟩
    · rw [spared.inbox] at queued
      exact pending.inbox value queued
    · rw [spared.waiting] at waits
      exact pending.waiting other waits
    · rw [spared.outcomes] at found
      exact pending.decided outcome found

theorem receive (pending : c.Pending came number method) {arrival : Arrival}
    (arrived : c.receive? = some (arrival, d)) : d.Pending came number method := by
  rcases receive_cases arrived with ⟨message, rest, queue, rfl⟩ | ⟨_, rest, reason, queue, kind, rfl⟩
  · have shorter : ({ c with inbox := rest } : Connection).Pending came number method := by
      refine ⟨fun value queued => pending.inbox value ?_, pending.waiting, pending.decided⟩
      rw [queue]
      exact List.mem_cons_of_mem _ queued
    refine shorter.take (pending.inbox message ?_)
    rw [queue]
    exact List.mem_cons_self
  · have ended : ({ c with inbox := rest, listening := false, closed := true } :
        Connection).Pending came number method := by
      refine ⟨fun value queued => pending.inbox value ?_, pending.waiting, pending.decided⟩
      rw [queue]
      exact List.mem_cons_of_mem _ queued
    exact ended.failAll kind

end Pending

end Connection

/-- A server that refuses to take a message does not answer by that. -/
def Peer.Blunt (σ : Type) [Peer σ] : Prop :=
  ∀ language message files (server : σ) (problem : Problem),
    (Peer.react language message files server).1.refusal = some (.problem problem) →
    problem.kind ≠ .protocol

/-! ### Answers -/

/-- The server of a language has received a request, and an outcome is what it answered; `since` is what
servers did after they received it. -/
def Responded [Halves] (early : String → Json → Prop) (language method : String) (params : Json)
    (outcome : Outcome Json) (since deeds : List Deed) : Prop :=
  ∃ number seen reaction before value,
    deeds = since ++ .received language (Connection.requestMessage number method params) seen
      reaction :: before ∧
    reaction.refusal = none ∧ Came early deeds language value ∧
    Desk.answered? value = some number ∧ Connection.outcomeOf method value = some outcome

theorem Responded.further [Halves] {early : String → Json → Prop} {language method : String}
    {params : Json} {outcome : Outcome Json} {since deeds : List Deed}
    (responded : Responded early language method params outcome since deeds) (more : List Deed) :
    Responded early language method params outcome (more ++ since) (more ++ deeds) := by
  obtain ⟨number, seen, reaction, before, value, parted, taken, came, answered⟩ := responded
  refine ⟨number, seen, reaction, before, value, ?_, taken, ?_, answered⟩
  · rw [parted, List.append_assoc]
  · exact came.mono (List.suffix_append _ _)

/-- The server of a language has been told the changes that the edits of a document come to. -/
def Informed (language : String) (target : String × List (TextEdit Json)) (deeds : List Deed) :
    Prop :=
  ∃ checked version seen reaction,
    (Document.bottomUp target.2).mapM TextEdit.checked = .ok checked ∧
    Deed.received language (Connection.notificationMessage "textDocument/didChange"
      (Desk.changeParams target.1 version (checked.map fun edit =>
        { text := edit.newText, range := some edit.range }))) seen reaction ∈ deeds ∧
    reaction.refusal = none

theorem Informed.mono {language : String} {target : String × List (TextEdit Json)}
    {deeds more : List Deed} (informed : Informed language target deeds) (wider : deeds ⊆ more) :
    Informed language target more := by
  obtain ⟨checked, version, seen, reaction, fit, member, taken⟩ := informed
  exact ⟨checked, version, seen, reaction, fit, wider member, taken⟩

namespace Client

variable [Halves] {σ : Type} {early : String → Json → Prop} {first : FileTree}
  {language method : String} {number : Int} {s mid after : Session (Chronicle σ) Client}

structure Asking [Peer σ] (early : String → Json → Prop) (first : FileTree) (language : String)
    (number : Int) (method : String) (s : Session (Chronicle σ) Client) : Prop where
  attested : Attested early first s
  here : s.connection.language = language
  pending : s.connection.Pending (Came early s.world.server.deeds language) number method

variable [Peer σ]

def asking (early : String → Json → Prop) (first : FileTree) (language : String) (number : Int)
    (method : String) : Frame (Session (Chronicle σ) Client) :=
  Frame.guarded (Asking early first language number method) growing

theorem asking_delivered {message : Json} (asks : Asking early first language number method s)
    (taken : (s.world.reaction s.connection.language message).refusal = none) :
    Asking early first language number method (delivered message s) := by
  have attested := attested_delivered asks.attested taken
  have grown : s.world.server.deeds <:+ (delivered message s).world.server.deeds := grown_told
  refine ⟨attested, asks.here, ?_⟩
  refine (asks.pending.mono fun _ came => came.mono grown).deliver fun value sent => ?_
  rw [← asks.here]
  exact attested.connection.came value (List.mem_append_right _ sent)

theorem within_emit_asking (message : Json) :
    Within (asking early first language number method)
      (Session.emit message : Action (Chronicle σ) Client Unit) := by
  intro s after outcome ended asks
  rcases Session.ends_emit.mp ended with ⟨_, rfl, _⟩ | ⟨_, _, _, rfl, _⟩ | ⟨_, taken, rfl, _⟩
  · exact ⟨asks, List.suffix_rfl⟩
  · refine ⟨⟨attested_told asks.attested message, asks.here, ?_⟩, grown_told⟩
    exact asks.pending.mono fun _ came => came.mono grown_told
  · exact ⟨asking_delivered asks taken, grown_told⟩

theorem upkeep_asking :
    Upkeep (asking early first language number method :
      Frame (Session (Chronicle σ) Client)) := by
  have tend {s : Session (Chronicle σ) Client} {connection : Connection}
      (tended : s.connection.Tended connection)
      (pending : ∀ came : Json → Prop, s.connection.Pending came number method →
        connection.Pending came number method) :
      (asking early first language number method).holds s { s with connection } := by
    intro asks
    refine ⟨⟨⟨asks.attested.led, asks.attested.connection.tend tended⟩, ?_, ?_⟩, List.suffix_rfl⟩
    · exact tended.language.trans asks.here
    · exact pending _ asks.pending
  have update (f : Client → Client) (s : Session (Chronicle σ) Client) :
      (asking early first language number method).holds s { s with owner := f s.owner } :=
    fun asks => ⟨⟨⟨asks.attested.led, asks.attested.connection⟩, asks.here, asks.pending⟩,
      List.suffix_rfl⟩
  have receive {s : Session (Chronicle σ) Client} {arrival : Arrival} {connection : Connection}
      (arrived : s.connection.receive? = some (arrival, connection)) :
      (asking early first language number method).holds s { s with connection } :=
    tend (Connection.tended_receive arrived) fun _ pending => pending.receive arrived
  refine
    { reply := fun _ _ => within_emit_asking _
      update := fun f s _ => update f s
      shut := fun s => ?_
      clock := fun s clock asks => ?_
      receive := receive
      edit := fun arrived applied => ?_ }
  · have tended := (Connection.tended_hangUp s.connection).trans (Connection.tended_finish _)
    exact tend tended fun _ pending => pending.shut
  · exact ⟨⟨⟨asks.attested.led, asks.attested.connection⟩, asks.here, asks.pending⟩,
      List.suffix_rfl⟩
  · have roomy : Roomy (asking early first language number method :
        Frame (Session (Chronicle σ) Client)) :=
      fun s documents _ => update (fun c => { c with documents }) s
    have touched : Within (asking early first language number method)
        (touch : Action (Chronicle σ) Client Unit) :=
      within_bind within_get fun now => within_modify fun s =>
        update (·.touched now.world.clock.now) s
    exact (asking early first language number method).trans (receive arrived)
      (roomy.within_applyServerEdit touched within_emit_asking _ applied)

/-! ### What a request tells of the server -/

omit [Halves] in
theorem kind_of_obstacle {c : Client} {problem : Problem} (obstructed : c.obstacle? = some problem) :
    problem.kind ≠ .protocol := by
  unfold obstacle? at obstructed
  split at obstructed
  · cases obstructed
    nofun
  · split at obstructed
    · cases obstructed
    · cases obstructed
      nofun

def Reported (outcome : Outcome Json) : Prop :=
  ∀ failure, outcome = .error failure →
    ∃ problem : Problem, problem.kind = .protocol ∧ failure = .problem problem

theorem asking_of_sent {params : Json} (attested : Attested early first s)
    (emitted : Ends (Session.emit (Connection.requestMessage s.connection.nextId method params))
      { s with connection := (s.connection.register method).2 } (.ok ()) mid)
    (drained : Ends (Session.drain handlers) mid (.ok ()) after) :
    Asking early first s.connection.language s.connection.nextId method after ∧
      ∃ since seen reaction, reaction.refusal = none ∧
        after.world.server.deeds = since ++ .received s.connection.language
          (Connection.requestMessage s.connection.nextId method params) seen reaction ::
            s.world.server.deeds := by
  have registered := Connection.tended_register s.connection method
  have awaits := Connection.awaits_register attested.connection.sound method
  have asks : Asking early first s.connection.language s.connection.nextId method
      { s with connection := (s.connection.register method).2 } := by
    refine ⟨⟨attested.led, attested.connection.tend registered⟩, rfl, ?_⟩
    refine ⟨attested.connection.came, fun other waits => ?_, fun outcome found => ?_⟩
    · exact (Option.some.inj (awaits.waiting.symm.trans waits)).symm
    · cases awaits.outcomes.symm.trans found
  rcases Session.ends_emit.mp emitted with ⟨_, _, failed⟩ | ⟨_, _, _, _, failed⟩ |
    ⟨_, taken, rfl, _⟩
  · cases failed
  · cases failed
  · obtain ⟨last, since, parted⟩ :=
      upkeep_asking.intake.within_drain drained (asking_delivered asks taken)
    exact ⟨last, since, _, _, taken, parted.symm⟩

theorem responded_of_request (blunt : Peer.Blunt σ) {params timeout : Json}
    {outcome : Outcome Json} (attested : Attested early first s) (reported : Reported outcome)
    (ended : Ends (request method params timeout) s outcome after) :
    ∃ since, Responded early s.connection.language method params outcome since
      after.world.server.deeds := by
  have unlike {problem : Problem} {Q : Prop} (same : outcome = .error (.problem problem))
      (other : problem.kind ≠ .protocol) : Q := by
    obtain ⟨_, kind, equal⟩ := reported _ same
    cases equal
    exact absurd kind other
  -- what was fetched for the request has been decided by an answer
  have fetched {mid last : Session (Chronicle σ) Client} {time : Json}
      (posed : Session.Posed handlers method params s (.ok s.connection.nextId) mid)
      (awaited : Ends (Session.await s.connection.nextId method time) mid outcome last) :
      ∃ since, Responded early s.connection.language method params outcome since
        last.world.server.deeds := by
    cases posed with
    | sent _ emitted drained =>
        obtain ⟨asks, since, seen, reaction, taken, parted⟩ :=
          asking_of_sent attested emitted drained
        rcases Session.ends_await awaited with ⟨found, rfl⟩ | ⟨_, failure, rfl, late, _⟩
        · rcases asks.pending.decided outcome found with
            ⟨value, came, answered, decided⟩ | ⟨problem, closed, same⟩
          · exact ⟨since, _, seen, reaction, _, value, parted, taken, came, answered, decided⟩
          · refine unlike same ?_
            rw [closed]
            nofun
        · obtain ⟨problem, _, rfl⟩ := reported _ rfl
          refine unlike rfl ?_
          rw [late problem rfl]
          nofun
  cases ends_request ended with
  | obstructed obstructed => exact unlike rfl (kind_of_obstacle obstructed)
  | unsent posed =>
      cases posed with
      | closed => exact unlike rfl nofun
      | unsent _ emitted =>
          rcases Session.ends_emit.mp emitted with ⟨_, _, failed⟩ | ⟨_, failure, refused, _, failed⟩ |
            ⟨_, _, _, failed⟩
          · cases failed
            exact unlike rfl nofun
          · cases failed
            obtain ⟨problem, kind, rfl⟩ := reported _ rfl
            exact absurd kind (blunt _ _ _ _ _ refused)
          · cases failed
  | failed posed awaited => exact fetched posed awaited
  | answered posed awaited =>
      obtain ⟨since, responded⟩ := fetched posed awaited
      exact ⟨since, responded⟩

/-! ### What an applied edit tells of the server -/

/-- A client stays with the server that it talks to, whatever it does within a session. -/
def speaking : Frame (Session (Chronicle σ) Client) :=
  Frame.same fun s => s.connection.language

theorem keeping_speaking : Keeping (speaking : Frame (Session (Chronicle σ) Client)) := by
  have roomy : Roomy (speaking : Frame (Session (Chronicle σ) Client)) := fun _ _ _ => rfl
  have emits (message : Json) : Within speaking
      (Session.emit message : Action (Chronicle σ) Client Unit) :=
    Session.within_emit (fun _ => rfl) fun _ _ => rfl
  have routine : Routine (speaking : Frame (Session (Chronicle σ) Client)) fun _ => True :=
    .ofTended (fun _ _ _ => rfl) (fun tended => tended.language) (fun _ _ => rfl) roomy emits
  exact { routine.dealings with roomy }

theorem recorded_of_post {message : Json}
    (ended : Ends (Session.post handlers message) s (.ok ()) after) :
    ∃ since seen reaction, reaction.refusal = none ∧ after.world.server.deeds =
      since ++ .received s.connection.language message seen reaction :: s.world.server.deeds := by
  obtain ⟨_, told, emitted, drained⟩ := ends_bind_ok.mp ended
  rcases Session.ends_emit.mp emitted with ⟨_, _, failed⟩ | ⟨_, _, _, _, failed⟩ |
    ⟨_, taken, rfl, _⟩
  · cases failed
  · cases failed
  · obtain ⟨since, parted⟩ := recording_growing.dealings.within_drain drained
    exact ⟨since, _, _, taken, parted.symm⟩

theorem informed_of_sendChanges {uri : String} {edits : List (TextEdit Json)}
    (ended : Ends (sendChanges uri edits) s (.ok ()) after) :
    after.connection.language = s.connection.language ∧ ∃ since,
      after.world.server.deeds = since ++ s.world.server.deeds ∧
      Informed s.connection.language (uri, edits) since := by
  refine ⟨keeping_speaking.conduct.tasks.within_sendChanges uri edits ended, ?_⟩
  rcases ends_needSession_bind.mp ended with ⟨_, _, impossible, _⟩ | ⟨_, required⟩
  · cases impossible
  rcases ends_settle_bind.mp (ends_current_bind.mp required) with
    ⟨_, _, impossible, _⟩ | ⟨_, _, checking⟩
  · cases impossible
  rcases ends_settle_bind.mp checking with ⟨_, _, impossible, _⟩ | ⟨checked, fit, changing⟩
  · cases impossible
  obtain ⟨_, _, changed, done⟩ := ends_bind_ok.mp changing
  obtain ⟨_, rfl⟩ := ends_pure.mp done
  cases ends_changeDocument changed with
  | @sent _ document documents mid _ _ _ sent =>
      rcases Session.ends_needOpen_bind.mp sent with ⟨impossible, _, _⟩ | ⟨_, posting⟩
      · cases impossible
      obtain ⟨since, seen, reaction, taken, parted⟩ := recorded_of_post posting
      refine ⟨since ++ [_], ?_, checked, document.version, seen, reaction, fit,
        List.mem_append_right _ List.mem_cons_self, taken⟩
      rw [List.append_assoc]
      exact parted

theorem informed_of_each {targets : List (String × List (TextEdit Json))}
    (ended : Ends (doEach targets fun target => sendChanges target.1 target.2) s
      (.ok PUnit.unit) after) :
    ∃ since, after.world.server.deeds = since ++ s.world.server.deeds ∧
      ∀ target ∈ targets, Informed s.connection.language target since := by
  induction targets generalizing s with
  | nil =>
      obtain ⟨_, rfl⟩ := ends_doEach_nil.mp ended
      exact ⟨[], rfl, fun _ member => absurd member List.not_mem_nil⟩
  | cons target rest ih =>
      rcases ends_doEach_cons.mp ended with ⟨mid, told, remaining⟩ | ⟨_, impossible, _⟩
      case inr => cases impossible
      obtain ⟨language, since, first, informed⟩ := informed_of_sendChanges told
      obtain ⟨later, last, others⟩ := ih remaining
      refine ⟨later ++ since, ?_, fun other member => ?_⟩
      · rw [last, first, List.append_assoc]
      · rcases List.mem_cons.mp member with rfl | elsewhere
        · exact informed.mono (List.subset_append_right _ _)
        · rw [language] at others
          exact (others other elsewhere).mono (List.subset_append_left _ _)

end Client

/-- The server of a language has accepted an edit: it answered the request to apply it with a result
that is no rejection, or that it knows no such request, and then it took the changes of every document
of the edit. -/
inductive Accepted [Halves] (early : String → Json → Prop) (language : String) (edit : WorkspaceEdit)
    (label : String) (deeds : List Deed) : Prop
  | applied {answer : Json} {since : List Deed} :
    Responded early language "workspace/applyEdit" (Desk.editParams edit label) (.ok answer) since
      deeds →
    Client.isRejection answer = false → Accepted early language edit label deeds
  | told {problem : Problem} {since : List Deed}
    {targets : List (String × List (TextEdit Json))} :
    Responded early language "workspace/applyEdit" (Desk.editParams edit label)
      (.error (.problem problem)) since deeds →
    problem.isMethodNotFound = true → edit.changes = Client.named targets →
    (∀ target ∈ targets, Informed language target since) → Accepted early language edit label deeds

theorem Accepted.mono [Halves] {early : String → Json → Prop} {language label : String}
    {edit : WorkspaceEdit} {deeds later : List Deed}
    (accepted : Accepted early language edit label deeds) (grown : deeds <:+ later) :
    Accepted early language edit label later := by
  obtain ⟨more, rfl⟩ := grown
  cases accepted with
  | applied responded kept => exact .applied (responded.further more) kept
  | told responded unknown names informed =>
      refine .told (responded.further more) unknown names fun target member => ?_
      exact (informed target member).mono (List.subset_append_right _ _)

namespace Client

variable [Halves] {σ : Type} [Peer σ] {early : String → Json → Prop} {first : FileTree}
  {s after : Session (Chronicle σ) Client}

theorem accepted_of_applyEdit (blunt : Peer.Blunt σ) {edit : WorkspaceEdit} {label : String}
    (attested : Attested early first s) (ended : Ends (applyEdit edit label) s (.ok ()) after) :
    Accepted early s.connection.language edit label after.world.server.deeds := by
  cases ends_applyEdit ended with
  | @told targets problem mid _ _ names unknown requested looped =>
      have reported : Reported (.error (.problem problem)) := by
        intro _ same
        cases same
        exact ⟨problem, unknown.1, rfl⟩
      obtain ⟨since, responded⟩ := responded_of_request blunt attested reported requested
      obtain ⟨later, parted, informed⟩ := informed_of_each looped
      have language : mid.connection.language = s.connection.language :=
        keeping_speaking.conduct.ask _ _ _ requested
      rw [language] at informed
      rw [parted]
      refine .told (responded.further later) unknown.2 names fun target member => ?_
      exact (informed target member).mono (List.subset_append_left _ _)
  | @applied targets answer mid _ _ _ requested kept looped =>
      have reported : Reported (.ok answer) := fun _ failed => nomatch failed
      obtain ⟨since, responded⟩ := responded_of_request blunt attested reported requested
      have accepted : Accepted early s.connection.language edit label mid.world.server.deeds :=
        .applied responded (Bool.eq_false_iff.mpr kept)
      refine accepted.mono ?_
      have here : Within (growing : Frame (Session (Chronicle σ) Client))
          (doEach targets fun target => applyHere target.1 target.2) :=
        within_doEach fun target _ => recording_growing.keeping.conduct.tasks.here target.1 target.2
      exact here looped

end Client

namespace Workspace

/-! ### Operations -/

variable [Halves] {σ : Type}

def Sound (w : Workspace σ) : Prop :=
  ∀ ⦃language member⦄, w.member? language = some member → member.connection.Sound

/-- A message is on its way to a member of a workspace from the server of a language. -/
def OnItsWay (w : Workspace σ) (language : String) (value : Json) : Prop :=
  ∃ name member, w.member? name = some member ∧ member.connection.language = language ∧
    .message value ∈ member.connection.inbox

def watched (w : Workspace σ) : Workspace (Chronicle σ) :=
  { w with world := { w.world with server := { server := w.world.server } } }

variable [Peer σ]

omit [Halves] in
theorem attested_watched {w : Workspace σ} (sound : w.Sound) :
    w.watched.Attested w.OnItsWay w.world.files := by
  refine ⟨.start, fun language member found => ⟨sound found, fun value queued => ?_⟩⟩
  exact .inl ⟨language, member, found, rfl, queued⟩

/-- Whatever an operation on a symbol comes to and whatever servers do, the files have changed by the
servers' own deeds alone, and not at all where servers spare them, or a server has accepted the edit of
the operation: it answered the request to apply it and did not reject it, or it knows no such request
and took every change. -/
theorem files_follow_accepted (blunt : Peer.Blunt σ) {w : Workspace σ}
    {after : Workspace (Chronicle σ)} {op : EditOperation} {outcome : Outcome EditResult}
    (sound : w.Sound) (ended : Ends (perform op) w.watched outcome after) :
    (Led σ w.world.files after.world.server.deeds after.world.files ∧
        (Peer.SparesFiles σ → after.world.files = w.world.files)) ∨
      ∃ language edit, Accepted w.OnItsWay language edit (labelOf op)
        after.world.server.deeds := by
  have attested := attested_watched sound
  rcases within_or_proceeded houses_attesting Client.recording_attesting ended with
    inside | ⟨fresh, inside, proceeded⟩
  · obtain ⟨last, _⟩ := inside attested
    exact .inl ⟨last.led, fun spares => last.led.spared spares⟩
  · obtain ⟨ready, _⟩ := inside attested
    obtain ⟨language, edit, encoding, targets, mid, _, applied, writing⟩ := proceeded
    rcases ends_onClient.mp applied with ⟨_, impossible, _⟩ | ⟨member, session, found, acted, rfl⟩
    · cases impossible
    have accepted := Client.accepted_of_applyEdit blunt (ready.session found) acted
    refine .inr ⟨_, edit, accepted.mono ?_⟩
    have grown : (fresh.withSession language session).world.server.deeds <:+
        after.world.server.deeds :=
      hosts_growing.within_writeMirrors Client.recording_growing.preparing
        (fun _ _ => within_putText (fun _ => List.suffix_rfl) fun _ _ => List.suffix_rfl) writing
    rw [world_withSession] at grown
    exact grown

end Workspace

end Scalpel

/-! ### An edit that the server applies -/

namespace Scalpel.Workspace

local instance acceptanceHalves : Halves :=
  Halves.trial

theorem blunt_clerk : Peer.Blunt Clerk :=
  fun _ _ _ _ _ refused => nomatch refused

/-- A workspace with one file, and a server that applies every edit. -/
def obligedWorkspace : Workspace Clerk :=
  Clerk.workspace (.str "utf-8")

def obligedReplace : EditOperation :=
  { kind := .replace, uri := .str "a.py", symbol := .str "f", code := .str "g = 2" }

def obligedEnd : Workspace (Chronicle Clerk) :=
  ((perform obligedReplace).run obligedWorkspace.watched).2

theorem files_follow_accepted_of_obliged :
    Peer.Blunt Clerk ∧ obligedWorkspace.Sound ∧
      (∃ result, Ends (perform obligedReplace) obligedWorkspace.watched (.ok result) obligedEnd) ∧
      obligedEnd.world.files ≠ obligedWorkspace.world.files ∧
      ∃ language edit, Accepted obligedWorkspace.OnItsWay language edit (labelOf obligedReplace)
        obligedEnd.world.server.deeds := by
  have sound : obligedWorkspace.Sound := fun _ _ found => nomatch found
  obtain ⟨result, ended⟩ : ∃ result,
      Ends (perform obligedReplace) obligedWorkspace.watched (.ok result) obligedEnd :=
    ends_of_isOk (by decide +kernel)
  have changed : obligedEnd.world.files ≠ obligedWorkspace.world.files := by
    intro same
    have before : (obligedWorkspace.world.files.readFile "/w/a.py").toOption =
        some [102, 32, 61, 32, 49, 10] := by decide +kernel
    have now : (obligedEnd.world.files.readFile "/w/a.py").toOption =
        some [103, 32, 61, 32, 50, 10] := by decide +kernel
    rw [same, before] at now
    cases now
  refine ⟨blunt_clerk, sound, ⟨result, ended⟩, changed, ?_⟩
  rcases files_follow_accepted blunt_clerk sound ended with ⟨_, spared⟩ | accepted
  · exact absurd (spared Clerk.sparesFiles) changed
  · exact accepted

end Scalpel.Workspace
