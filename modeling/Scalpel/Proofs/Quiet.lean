import Scalpel.Proofs.Upkeep

/-!
Servers that ask for no edits of their own while a call is going on. With such a server nothing that a
client does apart from its documents touches them, and what is seen of the world stays the same as
long as the messages that are sent leave it so.
-/

set_option autoImplicit false

namespace Scalpel

def Json.AsksForEdit (message : Json) : Prop :=
  message.field? "method" = some (.str "workspace/applyEdit") ∧ ∃ number, message.field? "id" = some number

def Inbound.Quiet : Inbound → Prop
  | .message value => ¬value.AsksForEdit
  | .closure _ => True

/-- Servers in certain states never ask for an edit, and they stay in such states as long as the
messages that they receive fit. -/
structure Peer.Quiet {σ : Type} [Peer σ] (quiet : σ → Prop) (fit : Json → Prop) : Prop where
  launch : ∀ config root settings files {server : σ}, quiet server →
    quiet (Peer.launch config root settings files server).2
  greeting : ∀ config root settings files {server : σ} {launched : Launched}, quiet server →
    (Peer.launch config root settings files server).1 = .ok launched →
    ∀ arrival ∈ launched.arrivals, arrival.Quiet
  react : ∀ language {message} files {server : σ}, quiet server → fit message →
    quiet (Peer.react language message files server).2
  reaction : ∀ language {message} files {server : σ}, quiet server → fit message →
    ∀ arrival ∈ (Peer.react language message files server).1.arrivals, arrival.Quiet

/-- A connection that still takes arrivals holds no question that asks for an edit. -/
def Connection.Quiet (c : Connection) : Prop :=
  c.listening = true → ∀ value, .message value ∈ c.inbox → ¬value.AsksForEdit

namespace Connection

theorem Tended.quiet {c d : Connection} (tended : Tended c d) (quiet : c.Quiet) : d.Quiet :=
  fun awake value member => quiet (tended.listening awake) value (tended.inbox value member)

theorem quiet_deliver {c : Connection} {arrivals : List Inbound} (quiet : c.Quiet)
    (calm : ∀ arrival ∈ arrivals, arrival.Quiet) : (c.deliver arrivals).Quiet := by
  intro awake value member
  rcases List.mem_append.mp member with old | new
  · exact quiet awake value old
  · exact calm _ new

variable [Halves]

theorem take_question {c d : Connection} {message number method params : Json}
    (taken : c.take message = (.question number method params, d)) :
    message.field? "id" = some number ∧ (message.field? "method").getD .null = method := by
  cases message with
  | obj fields =>
      simp only [take] at taken
      change fields.lookup "id" = some number ∧ (fields.lookup "method").getD .null = method
      generalize (fields.lookup "method").getD .null = named at taken
      cases given : fields.lookup "id" with
      | none =>
          rw [given] at taken
          cases named <;> cases taken
      | some value =>
          rw [given] at taken
          cases named <;> cases taken <;> exact ⟨rfl, rfl⟩
  | _ => cases taken

theorem Quiet.receive_ne {c d : Connection} {number params : Json} (quiet : c.Quiet) :
    c.receive? ≠ some (.question number (.str "workspace/applyEdit") params, d) := by
  intro arrived
  rcases received arrived with ⟨awake, ⟨value, rest, queue, taken⟩ | ⟨closure, rest, _, ended⟩⟩
  · obtain ⟨given, named⟩ := take_question taken
    refine quiet awake value (by rw [queue]; exact List.mem_cons_self) ⟨?_, number, given⟩
    cases found : value.field? "method" with
    | none =>
        rw [found] at named
        cases named
    | some method =>
        rw [found] at named
        exact congrArg some named
  · have taken := congrArg Prod.fst ended
    change (if c.closing = true then Arrival.settled else .ended closure) = _ at taken
    split at taken <;> cases taken

end Connection

/-- What a view shows of the world stays the same when a quiet server receives a message that fits, and
when calls are scheduled. -/
structure World.Unmoved {σ V : Type} [Peer σ] (quiet : σ → Prop) (fit : Json → Prop)
    (view : World σ → V) : Prop where
  told : ∀ {world : World σ} (language : String) {message : Json}, quiet world.server →
    fit message → view (world.told language message) = view world
  clock : ∀ (world : World σ) (clock : Clock Task), view { world with clock } = view world

namespace Client

variable {σ V : Type}

/-- Nothing asks for an edit that has not been handled, and the server will not ask. -/
structure Calm (quiet : σ → Prop) (s : Session σ Client) : Prop where
  server : quiet s.world.server
  connection : s.connection.Quiet

structure Undisturbed (view : World σ → V) (before after : Session σ Client) : Prop where
  documents : after.owner.documents = before.owner.documents
  config : after.owner.config = before.owner.config
  language : after.connection.language = before.connection.language
  sound : before.connection.Sound → after.connection.Sound
  world : view after.world = view before.world

namespace Undisturbed

variable {view : World σ → V} {a b c : Session σ Client}

theorem refl : Undisturbed view a a :=
  ⟨rfl, rfl, rfl, id, rfl⟩

theorem trans (first : Undisturbed view a b) (second : Undisturbed view b c) :
    Undisturbed view a c :=
  ⟨second.documents.trans first.documents, second.config.trans first.config,
    second.language.trans first.language,
    fun sound => second.sound (first.sound sound), second.world.trans first.world⟩

end Undisturbed

/-- While the server is calm, the documents of a client and what is seen of the world stay the same. -/
def still (quiet : σ → Prop) (view : World σ → V) : Frame (Session σ Client) :=
  Frame.guarded (Calm quiet) ⟨Undisturbed view, fun _ => .refl, .trans⟩

variable [Peer σ] {quiet : σ → Prop} {fit : Json → Prop} {view : World σ → V}

theorem within_emit_still (server : Peer.Quiet quiet fit) (unmoved : World.Unmoved quiet fit view)
    {message : Json} (fits : fit message) :
    Within (still quiet view) (Session.emit message : Action σ Client Unit) := by
  intro s after outcome ended calm
  have told : view (s.world.told s.connection.language message) = view s.world :=
    unmoved.told _ calm.server fits
  have kept := server.react s.connection.language s.world.files calm.server fits
  have arrivals := server.reaction s.connection.language s.world.files calm.server fits
  rcases Session.ends_emit.mp ended with ⟨_, rfl, _⟩ | ⟨_, _, _, rfl, _⟩ | ⟨_, _, rfl, _⟩
  · exact ⟨calm, .refl⟩
  · exact ⟨⟨kept, calm.connection⟩, rfl, rfl, rfl, id, told⟩
  · exact ⟨⟨kept, Connection.quiet_deliver calm.connection arrivals⟩, rfl, rfl, rfl,
      fun sound => ⟨sound.waiting, sound.outcomes, sound.awake⟩, told⟩

variable [Halves]

/-- What a client does apart from its documents leaves them alone while the server is calm. -/
theorem routine_still (server : Peer.Quiet quiet fit) (unmoved : World.Unmoved quiet fit view)
    (replies : ∀ number outcome, fit (Connection.replyMessage number outcome)) :
    Routine (still (σ := σ) quiet view) fit where
  reply number outcome := within_emit_still server unmoved (replies number outcome)
  update _ _ mild calm :=
    ⟨⟨calm.server, calm.connection⟩, mild.documents _, mild.config _, rfl, id, rfl⟩
  shut s calm :=
    have tended := (Connection.tended_hangUp s.connection).trans (Connection.tended_finish _)
    ⟨⟨calm.server, tended.quiet calm.connection⟩, rfl, rfl, tended.language, tended.sound, rfl⟩
  clock s clock calm :=
    ⟨⟨calm.server, calm.connection⟩, rfl, rfl, rfl, id, unmoved.clock s.world clock⟩
  receive arrived calm :=
    have tended := Connection.tended_receive arrived
    ⟨⟨calm.server, tended.quiet calm.connection⟩, rfl, rfl, tended.language, tended.sound, rfl⟩
  edit arrived _ calm := absurd arrived calm.connection.receive_ne
  emit fits := within_emit_still server unmoved fits
  tend tended calm :=
    ⟨⟨calm.server, tended.quiet calm.connection⟩, rfl, rfl, tended.language, tended.sound, rfl⟩

end Client

end Scalpel
