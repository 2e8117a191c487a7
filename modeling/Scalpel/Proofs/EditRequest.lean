import Scalpel.Proofs.Mirror

/-!
A request to apply an edit, while it is under way. The answer is decided when the server sends it and
reaches the client when the client takes it from the queue; in between the desk has the documents of
the answer and the client has those from before. What the client finds at the end is what the first
answer says.
-/

set_option autoImplicit false

namespace Scalpel

/-! ### One request of a connection -/

namespace Connection

theorem lookup_dropped {α : Type} (entries : List (Int × α)) (number other : Int) :
    (entries.filter fun entry => entry.1 ≠ number).lookup other =
      if other = number then none else entries.lookup other := by
  induction entries with
  | nil => simp only [List.filter_nil, List.lookup_nil, ite_self]
  | cons first rest ih =>
      obtain ⟨key, value⟩ := first
      by_cases dropped : key = number
      · rw [List.filter_cons_of_neg (by simpa using dropped), ih]
        split
        · rfl
        · next different =>
          have unlike : (other == key) = false :=
            beq_eq_false_iff_ne.mpr fun same => different (same.trans dropped)
          rw [List.lookup_cons, unlike]
      · rw [List.filter_cons_of_pos (by simpa using dropped), List.lookup_cons, List.lookup_cons, ih]
        split
        · next same =>
          rw [if_neg]
          rw [eq_of_beq same]
          exact dropped
        · rfl

theorem lookup_forget (c : Connection) (number other : Int) :
    (c.forget number).waiting.lookup other =
      if other = number then none else c.waiting.lookup other :=
  lookup_dropped c.waiting number other

theorem lookup_forgotten (c : Connection) (number : Int) :
    (c.forget number).waiting.lookup number = none := by
  rw [lookup_forget, if_pos rfl]

theorem lookup_fetch (c : Connection) (number other : Int) :
    (c.fetch number).2.outcomes.lookup other =
      if other = number then none else c.outcomes.lookup other :=
  lookup_dropped c.outcomes number other

structure Awaits (c : Connection) (number : Int) (method : String) : Prop where
  waiting : c.waiting.lookup number = some method
  outcomes : c.outcomes.lookup number = none

structure Closed (c : Connection) (number : Int) (outcome : Option (Outcome Json)) : Prop where
  waiting : c.waiting.lookup number = none
  outcomes : c.outcomes.lookup number = outcome

variable {c : Connection} {number : Int} {method : String} {id_ message : Json}

theorem awaits_register (sound : c.Sound) (method : String) :
    (c.register method).2.Awaits c.nextId method := by
  constructor
  · change (c.waiting ++ [(c.nextId, method)]).lookup c.nextId = some method
    have fresh : c.waiting.lookup c.nextId = none := by
      refine List.lookup_eq_none_iff.mpr fun entry member => ?_
      exact bne_iff_ne.mpr fun same => Int.lt_irrefl _ (same ▸ sound.waiting entry member)
    rw [List.lookup_append, fresh, List.lookup_cons_self]
    rfl
  · refine List.lookup_eq_none_iff.mpr fun entry member => ?_
    exact bne_iff_ne.mpr fun same => Int.lt_irrefl _ (same ▸ sound.outcomes entry member)

theorem lookup_failAll (c : Connection) (reason : Problem) (number : Int) :
    (c.failAll reason).outcomes.lookup number = (c.outcomes.lookup number).or
      ((c.waiting.lookup number).map fun _ => .error (.problem reason)) := by
  change (c.outcomes ++ c.waiting.map _).lookup number = _
  rw [List.lookup_append]
  congr 1
  induction c.waiting with
  | nil => rfl
  | cons first rest ih =>
      rw [List.map_cons, List.lookup_cons, List.lookup_cons, ih]
      split <;> rfl

theorem Awaits.failAll (awaits : c.Awaits number method) (reason : Problem) :
    (c.failAll reason).Closed number (some (.error (.problem reason))) := by
  refine ⟨rfl, ?_⟩
  rw [lookup_failAll, awaits.waiting, awaits.outcomes]
  rfl

theorem Closed.failAll {outcome : Option (Outcome Json)} (closed : c.Closed number outcome)
    (reason : Problem) : (c.failAll reason).Closed number outcome := by
  refine ⟨rfl, ?_⟩
  rw [lookup_failAll, closed.waiting, closed.outcomes]
  exact Option.or_none

def atEnd (c : Connection) (remaining : List Inbound) (reason : Problem) : Connection :=
  { c with inbox := remaining, listening := false, closed := true }.failAll reason

theorem Awaits.atEnd (awaits : c.Awaits number method) (remaining : List Inbound)
    (reason : Problem) :
    (c.atEnd remaining reason).Closed number (some (.error (.problem reason))) := by
  have waits : ({ c with inbox := remaining, listening := false, closed := true } :
      Connection).Awaits number method := ⟨awaits.waiting, awaits.outcomes⟩
  exact waits.failAll reason

theorem Closed.atEnd {outcome : Option (Outcome Json)} (closed : c.Closed number outcome)
    (remaining : List Inbound) (reason : Problem) :
    (c.atEnd remaining reason).Closed number outcome := by
  have ended : ({ c with inbox := remaining, listening := false, closed := true } :
      Connection).Closed number outcome := ⟨closed.waiting, closed.outcomes⟩
  exact ended.failAll reason

theorem deliver_nil (c : Connection) : c.deliver [] = c := by
  unfold deliver
  simp only [List.append_nil, List.any_nil, Bool.or_false]

theorem deliver_cons (c : Connection) (arrival : Inbound) (rest : List Inbound) :
    c.deliver (arrival :: rest) = (c.deliver [arrival]).deliver rest := by
  unfold deliver
  simp only [List.append_assoc, List.singleton_append, List.any_cons, List.any_nil, Bool.or_false,
    Bool.or_assoc]

variable [Halves]

theorem answer_of_index {key : Int} (index : id_.index? = some key) :
    c.answer id_ message = match c.waiting.lookup key with
      | none => c
      | some method => match outcomeOf method message with
        | none => c.forget key
        | some outcome => { c.forget key with outcomes := c.outcomes ++ [(key, outcome)] } := by
  unfold answer
  rewrite [index]
  rfl

theorem Awaits.answer (awaits : c.Awaits number method) (index : id_.index? = some number) :
    (c.answer id_ message).Closed number (outcomeOf method message) := by
  have forgotten := lookup_forgotten c number
  rw [answer_of_index index, awaits.waiting]
  dsimp only
  cases found : outcomeOf method message with
  | none => exact ⟨forgotten, awaits.outcomes⟩
  | some outcome =>
      refine ⟨forgotten, ?_⟩
      change (c.outcomes ++ [(number, outcome)]).lookup number = some outcome
      rw [List.lookup_append, awaits.outcomes, List.lookup_cons_self]
      rfl

theorem Closed.answer {outcome : Option (Outcome Json)} (closed : c.Closed number outcome)
    (index : id_.index? = some number) : c.answer id_ message = c := by
  rw [answer_of_index index, closed.waiting]

theorem lookup_answer_of_ne {key : Int} (index : id_.index? = some key) (other : number ≠ key) :
    (c.answer id_ message).waiting.lookup number = c.waiting.lookup number ∧
      (c.answer id_ message).outcomes.lookup number = c.outcomes.lookup number := by
  have kept : (c.forget key).waiting.lookup number = c.waiting.lookup number := by
    rw [lookup_forget, if_neg other]
  rw [answer_of_index index]
  split
  · exact ⟨rfl, rfl⟩
  · split
    · exact ⟨kept, rfl⟩
    · refine ⟨kept, ?_⟩
      change (c.outcomes ++ [_]).lookup number = _
      rw [List.lookup_append, List.lookup_cons, beq_eq_false_iff_ne.mpr other]
      exact Option.or_none

theorem take_of_unanswered (unanswered : Desk.answered? message = none) :
    (c.take message).2 = c := by
  cases message with
  | obj fields =>
      have method : (Json.obj fields).field? "method" = fields.lookup "method" := rfl
      have id : (Json.obj fields).field? "id" = fields.lookup "id" := rfl
      simp only [Desk.answered?, method, id] at unanswered
      simp only [take]
      generalize (fields.lookup "method").getD .null = named at unanswered ⊢
      cases given : fields.lookup "id" with
      | none => cases named <;> rfl
      | some value =>
          rw [given] at unanswered
          cases named with
          | null =>
              have noIndex : value.index? = none := unanswered
              simp only [Connection.answer, noIndex]
          | _ => rfl
  | _ => rfl

theorem take_of_answered (answered : Desk.answered? message = some number) :
    ∃ value : Json, value.index? = some number ∧ (c.take message).2 = c.answer value message := by
  cases message with
  | obj fields =>
      have method : (Json.obj fields).field? "method" = fields.lookup "method" := rfl
      have id : (Json.obj fields).field? "id" = fields.lookup "id" := rfl
      simp only [Desk.answered?, method, id] at answered
      simp only [take]
      generalize (fields.lookup "method").getD .null = named at answered ⊢
      cases given : fields.lookup "id" with
      | none =>
          rw [given] at answered
          cases named <;> cases answered
      | some value =>
          rw [given] at answered
          cases named with
          | null => exact ⟨value, answered, rfl⟩
          | _ => cases answered
  | _ => cases answered

theorem answer_queue (c : Connection) (value message : Json) :
    (c.answer value message).inbox = c.inbox ∧
      (c.answer value message).listening = c.listening := by
  unfold answer
  split
  · exact ⟨rfl, rfl⟩
  · split
    · exact ⟨rfl, rfl⟩
    · split <;> exact ⟨rfl, rfl⟩

theorem queue_take (c : Connection) (message : Json) :
    (c.take message).2.inbox = c.inbox ∧ (c.take message).2.listening = c.listening := by
  cases answered : Desk.answered? message with
  | none =>
      rw [take_of_unanswered answered]
      exact ⟨rfl, rfl⟩
  | some key =>
      obtain ⟨value, _, taken⟩ := take_of_answered (c := c) answered
      rw [taken]
      exact answer_queue c value message

/-- What a connection that takes a message keeps of a request that the message does not answer. -/
structure Spared (number : Int) (before after : Connection) : Prop where
  waiting : after.waiting.lookup number = before.waiting.lookup number
  outcomes : after.outcomes.lookup number = before.outcomes.lookup number
  inbox : after.inbox = before.inbox
  listening : after.listening = before.listening

theorem spared_take (c : Connection) (other : Desk.answered? message ≠ some number) :
    Spared number c (c.take message).2 := by
  obtain ⟨inbox, listening⟩ := queue_take c message
  cases answered : Desk.answered? message with
  | none =>
      rw [take_of_unanswered answered]
      exact ⟨rfl, rfl, rfl, rfl⟩
  | some key =>
      have different : number ≠ key := fun same => other (same ▸ answered)
      obtain ⟨value, index, taken⟩ := take_of_answered (c := c) answered
      obtain ⟨waiting, outcomes⟩ := @lookup_answer_of_ne c number value message _ key index different
      refine ⟨?_, ?_, inbox, listening⟩
      · rw [taken]
        exact waiting
      · rw [taken]
        exact outcomes

theorem Closed.take {outcome : Option (Outcome Json)} {remaining : List Inbound}
    (closed : c.Closed number outcome) (message : Json) :
    (({ c with inbox := remaining } : Connection).take message).2.Closed number outcome := by
  have here : ({ c with inbox := remaining } : Connection).Closed number outcome :=
    ⟨closed.waiting, closed.outcomes⟩
  by_cases answered : Desk.answered? message = some number
  · obtain ⟨value, index, taken⟩ :=
      take_of_answered (c := { c with inbox := remaining }) answered
    rw [taken, here.answer index]
    exact here
  · have spared := spared_take { c with inbox := remaining } answered
    exact ⟨spared.waiting.trans closed.waiting, spared.outcomes.trans closed.outcomes⟩

/-- The connection after the first arrival of its queue: a message was taken, or the end of the
transport, with which every request that waits has failed. -/
theorem receive_cases {d : Connection} {arrival : Arrival}
    (arrived : c.receive? = some (arrival, d)) :
    (∃ message rest, c.inbox = .message message :: rest ∧
        d = (({ c with inbox := rest } : Connection).take message).2) ∨
      ∃ closure rest reason, c.inbox = .closure closure :: rest ∧
        reason.kind = Problem.Kind.connectionClosed ∧
        d = c.atEnd rest reason := by
  rcases received arrived with ⟨_, ⟨message, rest, queue, taken⟩ | ⟨closure, rest, queue, ended⟩⟩
  · exact .inl ⟨message, rest, queue, (congrArg Prod.snd taken).symm⟩
  · exact .inr ⟨closure, rest, _, queue, rfl, (congrArg Prod.snd ended).symm⟩

end Connection

/-! ### The progress of a request -/

namespace Desk

def resolved (texts : String → Option Held) (edit : WorkspaceEdit) (answer : Json) :
    String → Option Held :=
  if affirms answer then applied texts edit.changes else texts

theorem send_answer {texts : String → Option Held} {number : Int} {edit : WorkspaceEdit}
    {answer : Json} (answered : answered? answer = some number) :
    ({ texts, asked := [(number, edit)] } : Desk).send (.message answer) =
      { texts := resolved texts edit answer } := by
  unfold send
  dsimp only
  rw [answered]
  dsimp only
  rw [List.lookup_cons_self]
  dsimp only
  rw [List.filter_cons_of_neg (by simp), List.filter_nil]
  rfl

theorem send_other {texts : String → Option Held} {number : Int} {edit : WorkspaceEdit}
    {message : Json} (other : answered? message ≠ some number) :
    ({ texts, asked := [(number, edit)] } : Desk).send (.message message) =
      { texts, asked := [(number, edit)] } := by
  unfold send
  dsimp only
  split
  · rfl
  · next key answered =>
    have unlike : (key == number) = false :=
      beq_eq_false_iff_ne.mpr fun same => other (same ▸ answered)
    rw [List.lookup_cons, unlike]
    rfl

end Desk

namespace Client

variable [Halves]

inductive Progress (number : Int) (edit : WorkspaceEdit) (texts : String → Option Held) :
    Desk → Connection → Prop
  | asked {c : Connection} : c.listening = true → c.Awaits number "workspace/applyEdit" →
    (∀ message, .message message ∈ c.inbox → Desk.answered? message ≠ some number) →
    Progress number edit texts { texts, asked := [(number, edit)] } c
  | answered {c : Connection} (front rest : List Inbound) (answer : Json) : c.listening = true →
    c.Awaits number "workspace/applyEdit" → c.inbox = front ++ .message answer :: rest →
    (∀ message, .message message ∈ front → Desk.answered? message ≠ some number) →
    Desk.answered? answer = some number →
    Progress number edit texts { texts := Desk.resolved texts edit answer } c
  | ended {c : Connection} (answer : Json) :
    c.Closed number (Connection.outcomeOf "workspace/applyEdit" answer) →
    Progress number edit texts { texts := Desk.resolved texts edit answer } c
  | lost {desk : Desk} {c : Connection} {problem : Problem} : problem.kind = .connectionClosed →
    c.Closed number (some (.error (.problem problem))) → Progress number edit texts desk c

namespace Progress

variable {number : Int} {edit : WorkspaceEdit} {texts : String → Option Held} {desk : Desk}
  {c : Connection}

private theorem deliver_one (progress : Progress number edit texts desk c) (arrival : Inbound) :
    Progress number edit texts (desk.send arrival) (c.deliver [arrival]) := by
  cases progress with
  | @asked c awake awaits unanswered =>
      cases arrival with
      | closure closure =>
          refine .asked awake ⟨awaits.waiting, awaits.outcomes⟩ fun message member => ?_
          rcases List.mem_append.mp member with old | new
          · exact unanswered message old
          · cases List.mem_singleton.mp new
      | message message =>
          by_cases answered : Desk.answered? message = some number
          · rw [Desk.send_answer answered]
            exact .answered c.inbox [] message awake ⟨awaits.waiting, awaits.outcomes⟩ rfl
              unanswered answered
          · rw [Desk.send_other answered]
            refine .asked awake ⟨awaits.waiting, awaits.outcomes⟩ fun other member => ?_
            rcases List.mem_append.mp member with old | new
            · exact unanswered other old
            · cases List.mem_singleton.mp new
              exact answered
  | @answered c front rest answer awake awaits queue unanswered answered =>
      rw [Desk.send_of_asked_nil rfl]
      refine .answered front (rest ++ [arrival]) answer awake ⟨awaits.waiting, awaits.outcomes⟩ ?_
        unanswered answered
      change c.inbox ++ [arrival] = _
      rw [queue, List.append_assoc, List.cons_append]
  | @ended c answer closed =>
      rw [Desk.send_of_asked_nil rfl]
      exact .ended answer ⟨closed.waiting, closed.outcomes⟩
  | lost kind closed => exact .lost kind ⟨closed.waiting, closed.outcomes⟩

theorem deliver (progress : Progress number edit texts desk c) (arrivals : List Inbound) :
    Progress number edit texts (arrivals.foldl Desk.send desk) (c.deliver arrivals) := by
  induction arrivals generalizing desk c with
  | nil =>
      rw [Connection.deliver_nil]
      exact progress
  | cons arrival rest ih =>
      rw [Connection.deliver_cons, List.foldl_cons]
      exact ih (progress.deliver_one arrival)

theorem atEnd (progress : Progress number edit texts desk c) (remaining : List Inbound)
    {reason : Problem} (kind : reason.kind = .connectionClosed) :
    Progress number edit texts desk (c.atEnd remaining reason) := by
  cases progress with
  | asked _ awaits _ => exact .lost kind (awaits.atEnd remaining reason)
  | answered _ _ _ _ awaits _ _ _ => exact .lost kind (awaits.atEnd remaining reason)
  | ended answer closed => exact .ended answer (closed.atEnd remaining reason)
  | lost known closed => exact .lost known (closed.atEnd remaining reason)

theorem receive (progress : Progress number edit texts desk c) {arrival : Arrival} {d : Connection}
    (arrived : c.receive? = some (arrival, d)) : Progress number edit texts desk d := by
  rcases Connection.receive_cases arrived with
    ⟨message, remaining, queue, rfl⟩ | ⟨_, remaining, reason, _, kind, rfl⟩
  · cases progress with
    | asked awake awaits unanswered =>
        have other : Desk.answered? message ≠ some number :=
          unanswered message (queue ▸ List.mem_cons_self)
        have spared := Connection.spared_take { c with inbox := remaining } other
        refine .asked (spared.listening.trans awake) ⟨spared.waiting.trans awaits.waiting,
          spared.outcomes.trans awaits.outcomes⟩ fun later member => ?_
        rw [spared.inbox] at member
        exact unanswered later (queue ▸ List.mem_cons_of_mem _ member)
    | answered front rest answer awake awaits parted unanswered answered =>
        rw [queue] at parted
        cases front with
        | nil =>
            cases parted
            obtain ⟨value, index, taken⟩ :=
              Connection.take_of_answered (c := { c with inbox := remaining }) answered
            have waits : ({ c with inbox := remaining } : Connection).Awaits number
                "workspace/applyEdit" := ⟨awaits.waiting, awaits.outcomes⟩
            rw [taken]
            exact .ended message (waits.answer index)
        | cons first front =>
            cases parted
            have other := unanswered message List.mem_cons_self
            have spared := Connection.spared_take
              { c with inbox := front ++ .message answer :: rest } other
            exact .answered front rest answer (spared.listening.trans awake)
              ⟨spared.waiting.trans awaits.waiting, spared.outcomes.trans awaits.outcomes⟩
              spared.inbox (fun later member => unanswered later (List.mem_cons_of_mem _ member))
              answered
    | ended answer closed => exact .ended answer (closed.take message)
    | lost kind closed => exact .lost kind (closed.take message)
  · exact progress.atEnd remaining kind

theorem congr (progress : Progress number edit texts desk c) {d : Connection}
    (waiting : d.waiting = c.waiting) (outcomes : d.outcomes = c.outcomes)
    (inbox : d.inbox = c.inbox) (listening : d.listening = c.listening) :
    Progress number edit texts desk d := by
  cases progress with
  | asked awake awaits unanswered =>
      exact .asked (listening.trans awake) ⟨waiting ▸ awaits.waiting, outcomes ▸ awaits.outcomes⟩
        (inbox ▸ unanswered)
  | answered front rest answer awake awaits queue unanswered answered =>
      exact .answered front rest answer (listening.trans awake)
        ⟨waiting ▸ awaits.waiting, outcomes ▸ awaits.outcomes⟩ (inbox.trans queue) unanswered
        answered
  | ended answer closed =>
      exact .ended answer ⟨waiting ▸ closed.waiting, outcomes ▸ closed.outcomes⟩
  | lost kind closed => exact .lost kind ⟨waiting ▸ closed.waiting, outcomes ▸ closed.outcomes⟩

theorem shut (progress : Progress number edit texts desk c) :
    Progress number edit texts desk c.hangUp.finish := by
  have hungUp : Progress number edit texts desk c.hangUp := by
    have closing : Progress number edit texts desk { c with closing := true } :=
      progress.congr rfl rfl rfl rfl
    unfold Connection.hangUp Connection.endTransport
    split
    · exact closing
    · exact closing.deliver [.closure .byClient]
  exact hungUp.atEnd c.hangUp.inbox rfl

end Progress

/-! ### While the answer is waited for -/

/-- A client has asked its server to apply an edit and has not looked at the outcome. -/
structure Requested {σ : Type} (quiet : σ → Prop) (number : Int) (edit : WorkspaceEdit)
    (origin : Client) (s : Session (Reference σ) Client) : Prop where
  server : quiet s.world.server.server
  others : ∀ language ≠ origin.config.language, (s.world.server.desks language).asked = []
  calm : s.connection.Quiet
  sound : s.connection.Sound
  language : s.connection.language = origin.config.language
  documents : s.owner.documents = origin.documents
  config : s.owner.config = origin.config
  progress : Progress number edit origin.documents.view
    (s.world.server.desks origin.config.language) s.connection

variable {σ : Type} [Peer σ] {quiet : σ → Prop} {number : Int} {edit : WorkspaceEdit}
  {origin : Client} {s after : Session (Reference σ) Client}

omit [Peer σ] in
theorem Requested.tend {connection : Connection}
    (requested : Requested quiet number edit origin s)
    (tended : s.connection.Tended connection)
    (progress : Progress number edit origin.documents.view
      (s.world.server.desks origin.config.language) connection) :
    Requested quiet number edit origin { s with connection } :=
  ⟨requested.server, requested.others, tended.quiet requested.calm, tended.sound requested.sound,
    tended.language.trans requested.language, requested.documents, requested.config, progress⟩

theorem requested_taken (server : Peer.Receptive quiet) {message : Json}
    (kept : quiet s.world.server.server)
    (others : ∀ language ≠ origin.config.language, (s.world.server.desks language).asked = [])
    (calm : s.connection.Quiet) (sound : s.connection.Sound)
    (language : s.connection.language = origin.config.language)
    (documents : s.owner.documents = origin.documents) (config : s.owner.config = origin.config)
    (progress : Progress number edit origin.documents.view
      ((s.world.server.desks origin.config.language).hear message) s.connection)
    (taken : (s.world.reaction s.connection.language message).refusal = none) :
    Requested quiet number edit origin { s with
      world := s.world.told s.connection.language message
      connection := s.connection.deliver
        (s.world.reaction s.connection.language message).arrivals } := by
  have executed : (s.world.told s.connection.language message).server =
      ({ s.world.server with
        server := (Peer.react s.connection.language message s.world.files
          s.world.server.server).2 } : Reference σ).withDesk s.connection.language
        ((s.world.reaction s.connection.language message).arrivals.foldl Desk.send
          ((s.world.server.desks s.connection.language).hear message)) :=
    Reference.reacted_of_taken taken
  refine ⟨?_, fun other different => ?_, Connection.quiet_deliver calm ?_,
    ⟨sound.waiting, sound.outcomes, sound.awake⟩, language, documents, config, ?_⟩
  · dsimp only
    rw [executed]
    exact server.react _ _ kept trivial
  · dsimp only
    rw [executed]
    change (if other = s.connection.language then _ else s.world.server.desks other).asked = []
    rw [if_neg (language ▸ different)]
    exact others other different
  · exact server.reaction _ _ kept trivial
  · dsimp only
    rw [executed]
    change Progress number edit origin.documents.view
      (if origin.config.language = s.connection.language then _ else _) _
    rw [if_pos language.symm, language]
    exact progress.deliver _

theorem upkeep_requested (server : Peer.Receptive quiet) :
    Upkeep (Frame.invariant (Requested (σ := σ) quiet number edit origin)) where
  reply value result s after outcome ended requested := by
    rcases Session.ends_emit.mp ended with ⟨_, rfl, _⟩ | ⟨_, _, refused, _⟩ | ⟨_, taken, rfl, _⟩
    · exact requested
    · have taken := server.takes s.connection.language (Connection.replyMessage value result)
        s.world.files requested.server
      cases taken.symm.trans refused
    · refine requested_taken server requested.server requested.others requested.calm
        requested.sound requested.language requested.documents requested.config ?_ taken
      rw [Desk.ignores_reply]
      exact requested.progress
  update f s mild requested :=
    ⟨requested.server, requested.others, requested.calm, requested.sound, requested.language,
      (mild.documents _).trans requested.documents, (mild.config _).trans requested.config,
      requested.progress⟩
  shut s requested := by
    have tended := (Connection.tended_hangUp s.connection).trans (Connection.tended_finish _)
    exact requested.tend tended requested.progress.shut
  clock s clock requested :=
    ⟨requested.server, requested.others, requested.calm, requested.sound, requested.language,
      requested.documents, requested.config, requested.progress⟩
  receive arrived requested :=
    requested.tend (Connection.tended_receive arrived) (requested.progress.receive arrived)
  edit arrived _ requested := absurd arrived requested.calm.receive_ne

/-- Everything that arrived has been handled, and every edit that was asked for was answered. -/
structure Settled (s : Session (Reference σ) Client) : Prop where
  handled : s.connection.receive? = none
  answered : (s.world.server.desks s.owner.config.language).asked = []

/-- What a request to apply an edit has come to. After a failure the client is in step with its server
unless the connection was closed or something is still to be done; after an answer the server has
applied the edit or not, as the answer says. -/
inductive Replied (quiet : σ → Prop) (edit : WorkspaceEdit) (origin : Client) :
    Outcome Json → Session (Reference σ) Client → Prop
  | failed {failure after} : Mirrored quiet after → after.connection.Quiet →
    Replied quiet edit origin (.error failure) after
  | closed {problem : Problem} {after} : problem.kind = .connectionClosed →
    Replied quiet edit origin (.error (.problem problem)) after
  | pending {failure after} : (∀ problem, failure = .problem problem → problem.kind ≠ .protocol) →
    ¬Settled after → Replied quiet edit origin (.error failure) after
  | answered {answer after} : after.world.server.Idle quiet → after.connection.Quiet →
    after.connection.Sound → after.connection.language = origin.config.language →
    after.owner.documents = origin.documents → after.owner.config = origin.config →
    (after.world.server.desks origin.config.language).texts =
      (if isRejection answer then origin.documents.view
        else Desk.applied origin.documents.view edit.changes) →
    Replied quiet edit origin (.ok answer) after

theorem affirms_of_outcome {answer value : Json} {method : String}
    (outcome : Connection.outcomeOf method answer = some (.ok value)) :
    Desk.affirms answer = !isRejection value := by
  unfold Connection.outcomeOf at outcome
  unfold Desk.affirms
  generalize (answer.field? "error").getD .null = error at outcome ⊢
  cases error with
  | null =>
      have same : (answer.field? "result").getD .null = value :=
        Except.ok.inj (Option.some.inj outcome)
      rw [same]
      cases value with
      | obj fields => exact (Bool.not_not _).symm
      | _ => rfl
  | obj fields =>
      unfold fail at outcome
      cases Option.some.inj outcome
  | _ => cases outcome

theorem not_affirms_of_outcome {answer : Json} {method : String}
    (outcome : ∀ value, Connection.outcomeOf method answer ≠ some (.ok value)) :
    Desk.affirms answer = false := by
  unfold Connection.outcomeOf at outcome
  unfold Desk.affirms
  generalize (answer.field? "error").getD .null = error at outcome ⊢
  cases error with
  | null => exact absurd rfl (outcome _)
  | _ => rfl

omit [Peer σ] in
theorem Requested.idle (requested : Requested quiet number edit origin s)
    (settled : (s.world.server.desks origin.config.language).asked = []) :
    s.world.server.Idle quiet := by
  refine ⟨requested.server, fun language => ?_⟩
  by_cases here : language = origin.config.language
  · rw [here]
    exact settled
  · exact requested.others language here

omit [Peer σ] in
/-- A server whose answer gives no result has changed nothing, and is in step with the client. -/
theorem Requested.mirrored (requested : Requested quiet number edit origin s)
    (distinct : origin.documents.Distinct) {answer : Json}
    (held : s.world.server.desks origin.config.language =
      { texts := Desk.resolved origin.documents.view edit answer })
    (refused : ∀ value, Connection.outcomeOf "workspace/applyEdit" answer ≠ some (.ok value)) :
    Mirrored quiet s := by
  have same : s.world.server.desks origin.config.language =
      { texts := origin.documents.view } := by
    rw [held]
    unfold Desk.resolved
    rw [not_affirms_of_outcome refused]
    rfl
  refine ⟨requested.idle (same ▸ rfl), ?_, ?_, ?_, requested.sound⟩
  · rw [requested.config]
    exact requested.language
  · rw [requested.config, requested.documents, same]
  · rw [requested.documents]
    exact distinct

omit [Peer σ] in
private theorem replied_found {outcome : Outcome Json}
    (requested : Requested quiet number edit origin s) (distinct : origin.documents.Distinct)
    (found : s.connection.outcomes.lookup number = some outcome) :
    (∀ answer, outcome = .ok answer → Replied quiet edit origin (.ok answer)
      (touchedNow { s with connection := (s.connection.fetch number).2 })) ∧
    (∀ failure, outcome = .error failure → Replied quiet edit origin (.error failure)
      { s with connection := (s.connection.fetch number).2 }) := by
  have tended := Connection.tended_fetch s.connection number
  have progress := requested.progress
  generalize held : s.world.server.desks origin.config.language = desk at progress
  cases progress with
  | asked _ awaits _ => cases awaits.outcomes.symm.trans found
  | answered _ _ _ _ awaits _ _ _ => cases awaits.outcomes.symm.trans found
  | lost kind closed =>
      cases Option.some.inj (closed.outcomes.symm.trans found)
      exact ⟨fun _ impossible => (nomatch impossible), fun _ same => by cases same; exact .closed kind⟩
  | ended answer closed =>
      have decided := closed.outcomes.symm.trans found
      constructor
      · rintro value rfl
        have mild := mild_touched s.world.clock.now
        refine .answered (requested.idle (by rw [held])) (tended.quiet requested.calm)
          (tended.sound requested.sound) (tended.language.trans requested.language)
          ((mild.documents _).trans requested.documents) ((mild.config _).trans requested.config) ?_
        change (s.world.server.desks origin.config.language).texts = _
        rw [held]
        change (if Desk.affirms answer then _ else _) = _
        rw [affirms_of_outcome decided]
        cases isRejection value <;> rfl
      · rintro failure rfl
        have mirrored := requested.mirrored distinct held fun value accepted => by
          cases decided.symm.trans accepted
        exact .failed (mirrored.tend tended.language tended.sound) (tended.quiet requested.calm)

omit [Peer σ] in
private theorem replied_missing {connection : Connection} {failure : Failure}
    (requested : Requested quiet number edit origin s) (distinct : origin.documents.Distinct)
    (missing : s.connection.outcomes.lookup number = none)
    (late : ∀ problem, failure = .problem problem → problem.kind = .requestTimeout)
    (tended : s.connection.Tended connection) (inbox : connection.inbox = s.connection.inbox)
    (listening : connection.listening = s.connection.listening) :
    Replied quiet edit origin (.error failure) { s with connection } := by
  have unlike (problem : Problem) (same : failure = .problem problem) :
      problem.kind ≠ .protocol := by
    rw [late problem same]
    decide
  have progress := requested.progress
  generalize held : s.world.server.desks origin.config.language = desk at progress
  cases progress with
  | asked _ _ _ =>
      refine .pending unlike fun settled => ?_
      have answered := settled.answered
      dsimp only at answered
      rw [requested.config, held] at answered
      cases answered
  | answered front rest answer awake _ queue _ _ =>
      refine .pending unlike fun settled => ?_
      have handled := settled.handled
      dsimp only at handled
      unfold Connection.receive? at handled
      rw [listening, awake, inbox, queue] at handled
      cases front with
      | nil => cases handled
      | cons first front => cases first <;> cases handled
  | lost kind closed => cases missing.symm.trans closed.outcomes
  | ended answer closed =>
      have decided := closed.outcomes.symm.trans missing
      have mirrored := requested.mirrored distinct held fun value accepted => by
        cases decided.symm.trans accepted
      exact .failed (mirrored.tend tended.language tended.sound) (tended.quiet requested.calm)

omit [Peer σ] in
theorem Requested.replied {method : String} {timeout : Json} {outcome : Outcome Json}
    (requested : Requested quiet number edit origin s) (distinct : origin.documents.Distinct)
    (ended : Ends (Session.await number method timeout) s outcome after) :
    (∀ answer, outcome = .ok answer →
      Replied quiet edit origin (.ok answer) (touchedNow after)) ∧
    (∀ failure, outcome = .error failure → Replied quiet edit origin (.error failure) after) := by
  rcases Session.ends_await ended with ⟨found, rfl⟩ | ⟨missing, failure, rfl, late, moved⟩
  · exact replied_found requested distinct found
  · have fetched := Connection.tended_fetch s.connection number
    have forgotten := fetched.trans (Connection.tended_forget _ number)
    refine ⟨fun _ impossible => (nomatch impossible), fun reason same => ?_⟩
    cases same
    rcases moved with rfl | rfl
    · exact replied_missing requested distinct missing late fetched rfl rfl
    · exact replied_missing requested distinct missing late forgotten rfl rfl

theorem inbox_of_handled {c : Connection} (handled : c.receive? = none)
    (awake : c.listening = true) : c.inbox = [] := by
  unfold Connection.receive? at handled
  rw [awake] at handled
  cases queue : c.inbox with
  | nil => rfl
  | cons first rest =>
      rw [queue] at handled
      cases first <;> cases handled

theorem quiet_of_handled {c : Connection} (handled : c.receive? = none) : c.Quiet := by
  intro awake value member
  rw [inbox_of_handled handled awake] at member
  cases member

private theorem requested_of_sent (server : Peer.Receptive quiet) (mirrored : Mirrored quiet s)
    (handled : s.connection.receive? = none) (distinct : edit.Distinct) {label : String}
    {mid : Session (Reference σ) Client} (opened : s.connection.closed = false)
    (emitted : Ends (Session.emit (Connection.requestMessage s.connection.nextId
        "workspace/applyEdit" (Desk.editParams edit label)))
      { s with connection := (s.connection.register "workspace/applyEdit").2 } (.ok ()) mid)
    (drained : Ends (Session.drain handlers) mid (.ok ()) after) :
    Requested quiet s.connection.nextId edit s.owner after := by
  have registered := Connection.tended_register s.connection "workspace/applyEdit"
  refine (upkeep_requested server).intake.within_drain drained ?_
  rcases Session.ends_emit.mp emitted with ⟨_, _, failed⟩ | ⟨_, _, _, _, failed⟩ |
    ⟨_, taken, rfl, _⟩
  · cases failed
  · cases failed
  · refine requested_taken server mirrored.idle.server (fun other _ => mirrored.idle.asked other)
      (registered.quiet (quiet_of_handled handled)) (registered.sound mirrored.sound)
      mirrored.language rfl rfl ?_ taken
    have desk : s.world.server.desks s.owner.config.language =
        { texts := s.owner.documents.view, asked := [] } := by
      rw [← mirrored.texts, ← mirrored.idle.asked s.owner.config.language]
    have awake := mirrored.sound.awake opened
    dsimp only
    rw [desk, Desk.hear_applyEdit _ _ distinct]
    refine .asked awake (Connection.awaits_register mirrored.sound _) fun message member => ?_
    change Inbound.message message ∈ s.connection.inbox at member
    rw [inbox_of_handled handled awake] at member
    cases member

theorem replied_request (server : Peer.Receptive quiet) (mirrored : Mirrored quiet s)
    (handled : s.connection.receive? = none) (distinct : edit.Distinct) {label : String}
    {timeout : Json} {outcome : Outcome Json}
    (ended : Ends (request "workspace/applyEdit" (Desk.editParams edit label) timeout) s outcome
      after) :
    Replied quiet edit s.owner outcome after := by
  cases ends_request ended with
  | obstructed _ => exact .failed mirrored (quiet_of_handled handled)
  | unsent posed =>
      cases posed with
      | closed => exact .closed rfl
      | unsent _ emitted =>
          rcases Session.ends_emit.mp emitted with ⟨_, _, failed⟩ | ⟨_, _, refused, _⟩ |
            ⟨_, _, _, failed⟩
          · cases failed
            exact .closed rfl
          · have taken := server.takes s.connection.language (Connection.requestMessage
              s.connection.nextId "workspace/applyEdit" (Desk.editParams edit label)) s.world.files
              mirrored.idle.server
            cases taken.symm.trans refused
          · cases failed
  | failed posed awaited =>
      cases posed with
      | sent opened emitted drained =>
          have requested :=
            requested_of_sent server mirrored handled distinct opened emitted drained
          exact (requested.replied mirrored.distinct awaited).2 _ rfl
  | answered posed awaited =>
      cases posed with
      | sent opened emitted drained =>
          have requested :=
            requested_of_sent server mirrored handled distinct opened emitted drained
          exact (requested.replied mirrored.distinct awaited).1 _ rfl

end Client

end Scalpel
