import Scalpel.Proofs.Documents

/-!
The documents of a client and the desk of its server. Each operation on documents moves both in the
same way: what the client has recorded is what the messages that it sent make of an empty desk. A
change that was not sent is taken back.
-/

set_option autoImplicit false

namespace Scalpel

/-! ### The documents that a server should hold -/

namespace Tracker

theorem view_put (t : Tracker) (document : OpenDocument) :
    (t.put document).view = Desk.replace t.view document.uri
      (some { version := document.version, text := document.content }) := by
  funext uri
  unfold view Desk.replace
  rw [get?_put]
  by_cases here : document.uri = uri
  · rw [if_pos here, if_pos here.symm]
    rfl
  · rw [if_neg here, if_neg fun same => here same.symm]

theorem view_remove (t : Tracker) (uri : String) :
    (t.remove uri).view = Desk.replace t.view uri none := by
  funext other
  unfold view Desk.replace
  rw [get?_remove]
  split <;> rfl

theorem view_of_get? {t : Tracker} {uri : String} {found : Option OpenDocument}
    (known : t.get? uri = found) : t.view uri = found.map fun document =>
      { version := document.version, text := document.content } := by
  unfold view
  rw [known]

theorem view_congr {t other : Tracker} (same : ∀ uri, t.get? uri = other.get? uri) :
    t.view = other.view := by
  funext uri
  unfold view
  rw [same]

theorem view_update {t after : Tracker} {uri : String} {changes : List ContentChange}
    {document : OpenDocument} (updated : t.update uri changes = .ok (after, document)) :
    after.view = Desk.replace t.view uri ((t.view uri).map fun held =>
      { version := document.version, text := Document.applyChanges held.text changes }) := by
  obtain ⟨old, found, rfl, rfl⟩ := update_eq_ok updated
  rw [view_put]
  have named := uri_of_get? found
  unfold view
  rw [found]
  dsimp only
  rw [named]
  rfl

end Tracker

/-! ### Servers with nothing to answer -/

structure Reference.Idle {σ : Type} (quiet : σ → Prop) (r : Reference σ) : Prop where
  server : quiet r.server
  asked : ∀ language, (r.desks language).asked = []

namespace Reference

variable {σ : Type}

theorem withDesk_same (r : Reference σ) {language : String} {desk : Desk}
    (same : r.desks language = desk) : (r.withDesk language desk).desks = r.desks := by
  funext other
  change (if other = language then desk else r.desks other) = _
  split
  · next here => rw [here, same]
  · rfl

variable {r : Reference σ} {language : String} {message : Json} {reaction : Reaction}
  {server : σ}

theorem reacted_server : (r.reacted language message reaction server).server = server := by
  unfold reacted
  split <;> rfl

theorem reacted_of_taken (taken : reaction.refusal = none) :
    r.reacted language message reaction server =
      ({ r with server } : Reference σ).withDesk language
        (reaction.arrivals.foldl Desk.send ((r.desks language).hear message)) := by
  unfold reacted
  rw [taken]

theorem reacted_desks (settled : (r.desks language).asked = []) (ignored : Desk.Ignores message) :
    (r.reacted language message reaction server).desks = r.desks := by
  unfold reacted
  split
  · rfl
  · rw [ignored, Desk.foldl_send_of_asked_nil settled]
    exact withDesk_same _ rfl

theorem launched_fst (found : Outcome Launched × σ) : (r.launched language found).1 = found.1 := by
  rcases found with ⟨_ | _, _⟩ <;> rfl

theorem launched_desk {found : Outcome Launched × σ} {launched : Launched} {after : Reference σ}
    (same : r.launched language found = (.ok launched, after)) : after.desks language = {} := by
  rcases found with ⟨failure | value, server⟩
  · cases same
  · cases same
    exact if_pos rfl

variable {quiet : σ → Prop}

theorem Idle.launched (idle : r.Idle quiet) {outcome : Outcome Launched} (kept : quiet server) :
    (r.launched language (outcome, server)).2.Idle quiet := by
  cases outcome with
  | error failure => exact ⟨kept, idle.asked⟩
  | ok launched =>
      refine ⟨kept, fun other => ?_⟩
      change (if other = language then ({} : Desk) else r.desks other).asked = []
      split
      · rfl
      · exact idle.asked other

end Reference

theorem Peer.Quiet.idle {σ : Type} [Peer σ] {quiet : σ → Prop}
    (server : Peer.Quiet quiet fun _ => True) :
    Peer.Quiet (Reference.Idle quiet) Desk.Ignores where
  launch config root settings files _ idle :=
    idle.launched (server.launch config root settings files idle.server)
  greeting config root settings files _ _ idle done := by
    refine server.greeting config root settings files idle.server (done ▸ ?_)
    exact (Reference.launched_fst _).symm
  react language _ files r idle ignored := by
    refine ⟨?_, ?_⟩
    · change quiet (r.reacted language _ _ _).server
      rw [Reference.reacted_server]
      exact server.react language files idle.server trivial
    · change ∀ other, ((r.reacted language _ _ _).desks other).asked = []
      rw [Reference.reacted_desks (idle.asked language) ignored]
      exact idle.asked
  reaction language _ files _ idle _ :=
    server.reaction language files idle.server trivial

theorem World.unmoved_desks {σ : Type} [Peer σ] {quiet : σ → Prop} :
    World.Unmoved (Reference.Idle quiet) Desk.Ignores
      (fun world : World (Reference σ) => world.server.desks) where
  told language _ idle ignored := Reference.reacted_desks (idle.asked language) ignored
  clock _ _ := rfl

structure Peer.Receptive {σ : Type} [Peer σ] (quiet : σ → Prop) : Prop extends
    Peer.Quiet quiet fun _ => True where
  takes : ∀ language message files {server : σ}, quiet server →
    (Peer.react language message files server).1.refusal = none

namespace Client

variable {σ : Type} {quiet : σ → Prop}

structure Mirrored (quiet : σ → Prop) (s : Session (Reference σ) Client) : Prop where
  idle : s.world.server.Idle quiet
  language : s.connection.language = s.owner.config.language
  texts : (s.world.server.desks s.owner.config.language).texts = s.owner.documents.view
  distinct : s.owner.documents.Distinct
  sound : s.connection.Sound

structure Told (quiet : σ → Prop) (message : Json) (s after : Session (Reference σ) Client) :
    Prop where
  idle : after.world.server.Idle quiet
  undisturbed : Undisturbed (fun _ => ()) s after
  desks : after.world.server.desks = (s.world.server.withDesk s.connection.language
    ((s.world.server.desks s.connection.language).hear message)).desks
  calm : s.connection.Quiet → after.connection.Quiet

/-- What became of a message: the server has executed it, or the connection was closed. -/
inductive Fate (quiet : σ → Prop) (message : Json) (s : Session (Reference σ) Client) :
    Outcome Unit → Session (Reference σ) Client → Prop
  | told {after} : Told quiet message s after → Fate quiet message s (.ok ()) after
  | closed {problem : Problem} : problem.kind = .connectionClosed →
    Fate quiet message s (.error (.problem problem)) s

variable [Peer σ] {s after : Session (Reference σ) Client} {message : Json} {outcome : Outcome Unit}

theorem fate_emit (server : Peer.Receptive quiet) (idle : s.world.server.Idle quiet)
    (modest : ∀ desk : Desk, (desk.hear message).asked = desk.asked)
    (ended : Ends (Session.emit message) s outcome after) : Fate quiet message s outcome after := by
  have taken := server.takes s.connection.language message s.world.files idle.server
  rcases Session.ends_emit.mp ended with ⟨_, rfl, rfl⟩ | ⟨_, _, refused, _⟩ | ⟨_, _, rfl, rfl⟩
  · exact .closed rfl
  · cases taken.symm.trans refused
  · have settled : ((s.world.server.desks s.connection.language).hear message).asked = [] :=
      (modest _).trans (idle.asked _)
    have executed : (s.world.told s.connection.language message).server =
        ({ s.world.server with
          server := (Peer.react s.connection.language message s.world.files
            s.world.server.server).2 } : Reference σ).withDesk s.connection.language
          ((s.world.server.desks s.connection.language).hear message) := by
      change Reference.reacted _ _ _ _ _ = _
      rw [Reference.reacted_of_taken taken, Desk.foldl_send_of_asked_nil settled]
    have kept : quiet (Peer.react s.connection.language message s.world.files
        s.world.server.server).2 :=
      server.react _ _ idle.server trivial
    have arrivals : ∀ arrival ∈ (s.world.reaction s.connection.language message).arrivals,
        arrival.Quiet :=
      server.reaction _ _ idle.server trivial
    refine .told ⟨?_, ⟨rfl, rfl, rfl, fun sound => ⟨sound.waiting, sound.outcomes, sound.awake⟩, rfl⟩,
      ?_, fun quiet => Connection.quiet_deliver quiet arrivals⟩
    · change Reference.Idle quiet (s.world.told s.connection.language message).server
      rw [executed]
      refine ⟨kept, fun other => ?_⟩
      change (if other = s.connection.language then
        (s.world.server.desks s.connection.language).hear message
        else s.world.server.desks other).asked = []
      split
      · exact settled
      · exact idle.asked other
    · change (s.world.told s.connection.language message).server.desks = _
      rw [executed]
      rfl

def watching (quiet : σ → Prop) : Frame (Session (Reference σ) Client) :=
  still (Reference.Idle quiet) fun world => world.server.desks

omit [Peer σ] in
theorem Told.watch {mid : Session (Reference σ) Client} (told : Told quiet message s mid)
    (calm : s.connection.Quiet) (watched : (watching quiet).holds mid after) :
    Told quiet message s after := by
  obtain ⟨rest, kept⟩ := watched ⟨told.idle, told.calm calm⟩
  have before := told.undisturbed
  exact ⟨rest.server,
    ⟨kept.documents.trans before.documents, kept.config.trans before.config,
      kept.language.trans before.language, fun sound => kept.sound (before.sound sound),
      rfl⟩,
    kept.world.trans told.desks, fun _ => rest.connection⟩

def Carries (quiet : σ → Prop) (ready : Connection → Prop)
    (send : String → Json → Action (Reference σ) Client Unit) : Prop :=
  ∀ ⦃s after : Session (Reference σ) Client⦄ ⦃method : String⦄ ⦃params : Json⦄
    ⦃outcome : Outcome Unit⦄, Ends (send method params) s outcome after →
    ready s.connection → s.world.server.Idle quiet →
    (∀ desk : Desk,
      (desk.hear (Connection.notificationMessage method params)).asked = desk.asked) →
    Fate quiet (Connection.notificationMessage method params) s outcome after

theorem carries_notifyWithin (server : Peer.Receptive quiet) :
    Carries quiet (fun _ => True) (Session.notifyWithin (σ := Reference σ) (ω := Client)) := by
  intro s after method params outcome ended _ idle modest
  rcases Session.ends_needOpen_bind.mp ended with ⟨rfl, rfl, _⟩ | ⟨_, sent⟩
  · exact .closed rfl
  · exact fate_emit server idle modest sent

omit [Peer σ] in
theorem fate_tell {ready : Connection → Prop}
    {send : String → Json → Action (Reference σ) Client Unit} (carries : Carries quiet ready send)
    {method : String} {params : Json} (ended : Ends (tell send method params) s outcome after)
    (here : ready s.connection) (idle : s.world.server.Idle quiet)
    (free : s.owner.obstacle? = none)
    (modest : ∀ desk : Desk,
      (desk.hear (Connection.notificationMessage method params)).asked = desk.asked) :
    Fate quiet (Connection.notificationMessage method params) s outcome after := by
  rcases ends_tell ended with ⟨_, obstructed, _, _⟩ | ⟨_, mid, sent, rfl, rfl⟩ |
    ⟨_, failure, rfl, unsent⟩
  · cases free.symm.trans obstructed
  · have fate := carries sent here idle modest
    cases fate with
    | told told =>
        have mild := mild_touched mid.world.clock.now
        have before := told.undisturbed
        exact .told ⟨told.idle,
          ⟨(mild.documents _).trans before.documents, (mild.config _).trans before.config,
            before.language, before.sound, rfl⟩,
          told.desks, told.calm⟩
  · exact carries unsent here idle modest

omit [Peer σ] in
theorem told_tell {ready : Connection → Prop}
    {send : String → Json → Action (Reference σ) Client Unit} (carries : Carries quiet ready send)
    {method : String} {params : Json} (ended : Ends (tell send method params) s outcome after)
    (here : ready s.connection) (idle : s.world.server.Idle quiet)
    (modest : ∀ desk : Desk,
      (desk.hear (Connection.notificationMessage method params)).asked = desk.asked) :
    (outcome = .ok () ∧ Told quiet (Connection.notificationMessage method params) s after) ∨
      ((∃ failure, outcome = .error failure) ∧ after = s) := by
  cases free : s.owner.obstacle? with
  | none =>
      cases fate_tell carries ended here idle free modest with
      | told told => exact .inl ⟨rfl, told⟩
      | closed _ => exact .inr ⟨⟨_, rfl⟩, rfl⟩
  | some problem =>
      rcases ends_tell ended with ⟨_, _, rfl, rfl⟩ | ⟨unobstructed, _⟩ | ⟨unobstructed, _⟩
      · exact .inr ⟨⟨_, rfl⟩, rfl⟩
      · cases free.symm.trans unobstructed
      · cases free.symm.trans unobstructed

omit [Peer σ] in
theorem Told.desk (told : Told quiet message s after) :
    after.world.server.desks s.connection.language =
      (s.world.server.desks s.connection.language).hear message := by
  rw [told.desks]
  exact if_pos rfl

omit [Peer σ] in
/-- A client that has told its server of a change of its documents is in step if the message makes of
the old documents the new ones. -/
theorem Told.mirrored {mid : Session (Reference σ) Client} {before now : Client}
    (mirrored : Mirrored quiet s) (told : Told quiet message { s with owner := before } mid)
    (sameBefore : before.config = s.owner.config) (sameNow : now.config = mid.owner.config)
    (distinct : now.documents.Distinct)
    (hears : ∀ desk : Desk, desk.texts = s.owner.documents.view →
      (desk.hear message).texts = now.documents.view) :
    Mirrored quiet { mid with owner := now } := by
  have config : now.config = s.owner.config :=
    sameNow.trans (told.undisturbed.config.trans sameBefore)
  refine ⟨told.idle, ?_, ?_, distinct, told.undisturbed.sound mirrored.sound⟩
  · change mid.connection.language = now.config.language
    rw [config, ← mirrored.language]
    exact told.undisturbed.language
  · change (mid.world.server.desks now.config.language).texts = _
    rw [config, ← mirrored.language]
    have heard := told.desk
    dsimp only at heard
    rw [heard]
    refine hears _ ?_
    rw [mirrored.language]
    exact mirrored.texts

omit [Peer σ] in
/-- A change of a document keeps the client in step with its server, whatever becomes of it. -/
theorem mirrored_changeDocument {ready : Connection → Prop}
    {send : String → Json → Action (Reference σ) Client Unit} (carries : Carries quiet ready send)
    {uri : String} {changes : List ContentChange} {outcome : Outcome OpenDocument}
    (here : ready s.connection) (mirrored : Mirrored quiet s)
    (ended : Ends (changeDocument send uri changes) s outcome after) :
    Mirrored quiet after ∧ (s.connection.Quiet → after.connection.Quiet) := by
  have modest (version : Int) (desk : Desk) :
      (desk.hear (Connection.notificationMessage "textDocument/didChange"
        (Desk.changeParams uri version changes))).asked = desk.asked := by
    rw [Desk.hear_didChange]
  cases ends_changeDocument ended with
  | refused failure => exact ⟨mirrored, id⟩
  | @sent old document documents mid value found updated sent =>
      cases carries sent here mirrored.idle (modest _) with
      | told told =>
          have mild := mild_touched mid.world.clock.now
          have same : (mid.owner.touched mid.world.clock.now).documents = documents :=
            (mild.documents _).trans told.undisturbed.documents
          refine ⟨told.mirrored mirrored rfl (mild.config _) ?_ fun desk held => ?_, told.calm⟩
          · rw [same]
            exact Tracker.distinct_update mirrored.distinct updated
          · rw [same, Desk.hear_didChange, Tracker.view_update updated, held]
  | @undone old document documents mid problem found updated kind unsent =>
      cases carries unsent here mirrored.idle (modest _) with
      | closed _ =>
          refine ⟨⟨mirrored.idle, mirrored.language, ?_, ?_, mirrored.sound⟩, id⟩
          · refine mirrored.texts.trans (Tracker.view_congr fun other => ?_)
            exact (Tracker.get?_revert_update found updated other).symm
          · exact Tracker.distinct_revert (Tracker.distinct_update mirrored.distinct updated) _ _
  | @unsent old document documents _ failure found updated other unsent =>
      cases carries unsent here mirrored.idle (modest _) with
      | closed kind => exact absurd kind (other _ rfl)

variable [Halves]

theorem routine_watching (server : Peer.Receptive quiet) :
    Routine (watching quiet) Desk.Ignores :=
  routine_still server.toQuiet.idle World.unmoved_desks Desk.ignores_reply

theorem carries_notify (server : Peer.Receptive quiet) :
    Carries quiet Connection.Quiet (Session.notify (handlers (σ := Reference σ))) := by
  intro s after method params outcome ended calm idle modest
  rcases Session.ends_needOpen_bind.mp ended with ⟨rfl, rfl, _⟩ | ⟨_, sent⟩
  · exact .closed rfl
  · rcases ends_bind.mp sent with ⟨_, mid, emitted, drained⟩ | ⟨failure, rfl, emitted⟩
    · have fate := fate_emit server idle modest emitted
      cases fate with
      | told told =>
          cases Session.drain_ok drained
          exact .told (told.watch calm ((routine_watching server).intake.within_drain drained))
    · exact fate_emit server idle modest emitted

/-! ### Staying in step -/

omit [Halves] [Peer σ] in
theorem Mirrored.watch (mirrored : Mirrored quiet s) (calm : s.connection.Quiet)
    (watched : (watching quiet).holds s after) : Mirrored quiet after ∧ after.connection.Quiet := by
  obtain ⟨rest, kept⟩ := watched ⟨mirrored.idle, calm⟩
  refine ⟨⟨rest.server, ?_, ?_, ?_, kept.sound mirrored.sound⟩, rest.connection⟩
  · rw [kept.language, kept.config]
    exact mirrored.language
  · have desks : after.world.server.desks = s.world.server.desks := kept.world
    rw [kept.config, kept.documents, desks]
    exact mirrored.texts
  · rw [kept.documents]
    exact mirrored.distinct

omit [Halves] [Peer σ] in
theorem Mirrored.tend {connection : Connection} (mirrored : Mirrored quiet s)
    (language : connection.language = s.connection.language)
    (sound : s.connection.Sound → connection.Sound) :
    Mirrored quiet { s with connection } :=
  ⟨mirrored.idle, language.trans mirrored.language, mirrored.texts, mirrored.distinct,
    sound mirrored.sound⟩

omit [Halves] in
theorem Mirrored.emit (mirrored : Mirrored quiet s) (server : Peer.Receptive quiet)
    (ignored : Desk.Ignores message) (ended : Ends (Session.emit message) s outcome after) :
    Mirrored quiet after := by
  have modest (desk : Desk) : (desk.hear message).asked = desk.asked := by rw [ignored]
  cases fate_emit server mirrored.idle modest ended with
  | closed kind => exact mirrored
  | told told =>
      refine told.mirrored mirrored rfl rfl ?_ fun desk held => ?_
      · rw [told.undisturbed.documents]
        exact mirrored.distinct
      · rw [ignored, held, told.undisturbed.documents]

theorem upkeep_mirrored (server : Peer.Receptive quiet) :
    Upkeep (Frame.invariant (Mirrored (σ := σ) quiet)) where
  reply number result _ _ _ ended mirrored :=
    mirrored.emit server (Desk.ignores_reply number result) ended
  update f s mild mirrored := by
    refine ⟨mirrored.idle, ?_, ?_, ?_, mirrored.sound⟩
    · exact mirrored.language.trans (congrArg (·.language) (mild.config _).symm)
    · dsimp only
      rw [mild.config, mild.documents]
      exact mirrored.texts
    · dsimp only
      rw [mild.documents]
      exact mirrored.distinct
  shut s mirrored :=
    have tended := (Connection.tended_hangUp s.connection).trans (Connection.tended_finish _)
    mirrored.tend tended.language tended.sound
  clock s clock mirrored :=
    ⟨mirrored.idle, mirrored.language, mirrored.texts, mirrored.distinct, mirrored.sound⟩
  receive arrived mirrored :=
    have tended := Connection.tended_receive arrived
    mirrored.tend tended.language tended.sound
  edit arrived applied mirrored := by
    have tended := Connection.tended_receive arrived
    refine within_applyServerEdit (F := Frame.invariant (Mirrored quiet)) ?_ _ applied
      (mirrored.tend tended.language tended.sound)
    intro uri changes s after outcome changed mirrored
    exact (mirrored_changeDocument (carries_notifyWithin server) trivial mirrored changed).1

end Client

end Scalpel
