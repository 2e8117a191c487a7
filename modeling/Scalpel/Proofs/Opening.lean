import Scalpel.Proofs.Busy

/-!
How a session begins. A client that is brought to life says two things to its new server, and in the
meantime nothing that the server says changes more than the signs of its health. So there are few ways
in which it can end: the server was not launched, the handshake was refused, the client got stuck on
the way, or the session has begun.
-/

set_option autoImplicit false

namespace Scalpel

def World.posts {σ : Type} (world : World σ) : List (String × Json) :=
  world.sent.filter fun entry => (entry.2.field? "method").isSome

theorem World.posts_told {σ : Type} [Peer σ] {world : World σ} {language : String} {message : Json}
    (post : (message.field? "method").isSome = true) :
    (world.told language message).posts = (language, message) :: world.posts :=
  List.filter_cons_of_pos post

theorem World.posts_answered {σ : Type} [Peer σ] {world : World σ} {language : String}
    {message : Json} (answer : message.field? "method" = none) :
    (world.told language message).posts = world.posts := by
  refine List.filter_cons_of_neg ?_
  rw [answer]
  exact Bool.false_ne_true

namespace Client

variable [Halves] {σ : Type} [Peer σ] {a b c s after : Session σ Client}

/-- A client that was busy has posted messages, the latest first, and nothing else has become of it
than becomes of a busy client. -/
structure Posted (messages : List Json) (a b : Session σ Client) : Prop
    extends Frozen (fun _ : World σ => ()) a b where
  posts : b.world.posts = messages.map (a.connection.language, ·) ++ a.world.posts

omit [Halves] [Peer σ] in
theorem Posted.trans {first second : List Json} (one : Posted first a b)
    (two : Posted second b c) : Posted (second ++ first) a c := by
  refine ⟨one.toFrozen.trans two.toFrozen, ?_⟩
  rw [two.posts, one.posts, one.language, List.map_append, List.append_assoc]

theorem dealings_posts : Dealings (frozen (World.posts (σ := σ)))
    fun message => message.field? "method" = none := by
  refine dealings_frozen (fun answer _ _ => World.posts_answered answer) fun _ outcome => ?_
  cases outcome <;> rfl

/-! ### Messages -/

theorem posted_of_sent {message : Json} {mid : Session σ Client} (busy : s.owner.Busy)
    (post : (message.field? "method").isSome = true)
    (emitted : Ends (Session.emit message) s (.ok ()) mid)
    (drained : Ends (Session.drain handlers) mid (.ok ()) after) : Posted [message] s after := by
  rcases Session.ends_emit.mp emitted with ⟨_, _, failed⟩ | ⟨_, _, _, _, failed⟩ | ⟨_, _, rfl, _⟩
  · cases failed
  · cases failed
  have rest := dealings_posts.within_drain drained busy
  refine ⟨⟨rest.owner, rest.healthy, rest.clock, rest.language, rfl⟩, ?_⟩
  rw [rest.view]
  exact World.posts_told post

inductive Notified (method : String) (params : Json) (s : Session σ Client) :
    Outcome Unit → Session σ Client → Prop
  | mute {problem} : s.connection.closed = true ∨ s.connection.transportClosed = true →
    Notified method params s (.error (.problem problem)) s
  | refused {failure} : s.connection.closed = false → s.connection.transportClosed = false →
    (s.world.reaction s.connection.language
      (Connection.notificationMessage method params)).refusal = some failure →
    Notified method params s (.error failure) { s with
      world := s.world.told s.connection.language (Connection.notificationMessage method params) }
  | taken {after : Session σ Client} :
    Posted [Connection.notificationMessage method params] s after →
    Notified method params s (.ok ()) after

theorem ends_notify {method : String} {params : Json} {outcome : Outcome Unit}
    (busy : s.owner.Busy) (ended : Ends (Session.notify handlers method params) s outcome after) :
    Notified method params s outcome after := by
  rcases Session.ends_needOpen_bind.mp ended with ⟨rfl, rfl, closed⟩ | ⟨opened, posting⟩
  · exact .mute (.inl closed)
  rcases ends_bind.mp posting with ⟨_, mid, emitted, drained⟩ | ⟨failure, rfl, failed⟩
  · cases Session.drain_ok drained
    exact .taken (posted_of_sent busy rfl emitted drained)
  · rcases Session.ends_emit.mp failed with ⟨shut, rfl, same⟩ | ⟨unshut, _, refused, rfl, same⟩ |
      ⟨_, _, _, same⟩
    · cases same
      exact .mute (.inr shut)
    · cases same
      exact .refused opened unshut refused
    · cases same

theorem posted_of_request {method : String} {params timeout answer : Json} (busy : s.owner.Busy)
    (ended : Ends (Session.request handlers method params timeout) s (.ok answer) after) :
    Posted [Connection.requestMessage s.connection.nextId method params] s after := by
  obtain ⟨number, mid, posing, awaiting⟩ := ends_bind_ok.mp ended
  cases Session.ends_pose posing with
  | sent _ emitted drained =>
      have asked := posted_of_sent (s := { s with connection := (s.connection.register method).2 })
        busy rfl emitted drained
      have waited := dealings_posts.within_await _ method timeout awaiting (asked.busy busy)
      refine ⟨⟨?_, ?_, ?_, ?_, rfl⟩, waited.view.trans asked.posts⟩
      · have whole := waited.owner
        rw [asked.owner] at whole
        exact whole
      · exact fun well => asked.healthy (waited.healthy well)
      · exact waited.clock.trans asked.clock
      · exact waited.language.trans asked.language

/-! ### Handshakes -/

def inState (state : ClientState) (s : Session σ Client) : Session σ Client :=
  { s with owner := { s.owner with state } }

inductive Greeted (before : ClientState) (s : Session σ Client) :
    Outcome (Json × Json.Fields) → Session σ Client → Prop
  | refused {problem mid} : Frozen (fun _ : World σ => ()) s mid →
    Greeted before s (.error (.problem problem)) (inState before mid)
  | broken {failure mid} : (∀ problem, failure ≠ .problem problem) →
    Frozen (fun _ : World σ => ()) s mid → Greeted before s (.error failure) mid
  | welcomed {greeting mid} : Posted [Connection.requestMessage s.connection.nextId "initialize"
      (s.owner.handshakeParams s.world.files.workingDirectory s.world.processId)] s mid →
    Greeted before s (.ok greeting) mid

theorem ends_failHandshake {α : Type} {before : ClientState} {problem : Problem}
    {outcome : Outcome α} (busy : s.owner.Busy)
    (ended : Ends (failHandshake before problem) s outcome after) :
    outcome = .error (.problem problem) ∧ ∃ mid, Frozen (fun _ : World σ => ()) s mid ∧
      after = inState before mid := by
  rcases ends_bind.mp ended with ⟨_, mid, closing, moving⟩ | ⟨_, _, failed⟩
  · obtain ⟨rfl, rfl⟩ := Session.ends_raise.mp (ends_update_bind.mp moving)
    exact ⟨rfl, mid, within_close_frozen closing busy, rfl⟩
  · cases (Session.ends_close failed).1

theorem ends_shakeHands {before : ClientState} {outcome : Outcome (Json × Json.Fields)}
    (busy : s.owner.Busy) (ended : Ends (shakeHands before) s outcome after) :
    Greeted before s outcome after := by
  rcases ends_bind.mp (ends_get_bind.mp ended) with ⟨tried, mid, trying, settled⟩ | ⟨_, _, failed⟩
  · obtain ⟨_, same, asked⟩ := Session.ends_attempt.mp trying
    cases same
    have frozen : Frozen (fun _ : World σ => ()) s mid :=
      dealings_busy.within_exchange (fitRequest _) _ _ asked busy
    have failing {problem : Problem} (ending : Ends (failHandshake before problem) mid outcome after) :
        Greeted before s outcome after := by
      obtain ⟨rfl, last, closed, rfl⟩ := ends_failHandshake (frozen.busy busy) ending
      exact .refused (frozen.trans closed)
    cases tried with
    | ok answer =>
        dsimp only at settled
        split at settled
        · obtain ⟨rfl, rfl⟩ := ends_pure.mp settled
          exact .welcomed (posted_of_request busy asked)
        · exact failing settled
    | error failure =>
        cases failure with
        | problem cause =>
            rcases ends_ite.mp settled with ⟨_, ending⟩ | ⟨_, ending⟩
            · exact failing ending
            · exact failing ending
        | _ =>
            obtain ⟨rfl, rfl⟩ := ends_throw.mp settled
            exact .broken (fun _ same => nomatch same) frozen
  · obtain ⟨_, impossible, _⟩ := Session.ends_attempt.mp failed
    cases impossible

/-! ### Beginnings -/

def boarded (launched : Launched) (server : σ) (s : Session σ Client) : Session σ Client :=
  launchedWith (inState .initializing s) launched server

/-- The session of a client whose session with its server has begun. -/
def opened (capabilities : Json.Fields) (s : Session σ Client) : Session σ Client :=
  { s with owner := { s.owner with
      attached := true, capabilities := .obj capabilities, state := .ready, healthy := true } }

/-- The messages with which a client begins a session on a new connection, the latest first. -/
def greetings (s : Session σ Client) : List Json :=
  [Connection.notificationMessage "initialized" (.obj []),
    Connection.requestMessage 1 "initialize"
      (s.owner.handshakeParams s.world.files.workingDirectory s.world.processId)]

inductive Began (s : Session σ Client) : Outcome Json → Session σ Client → Prop
  | unlaunched {failure server} : Began s (.error failure)
    { inState (stateUnlaunched failure s.owner.state .initializing) s with
      world := { s.world with server } }
  | refused {launched server mid problem} :
    Frozen (fun _ : World σ => ()) (boarded launched server s) mid →
    Began s (.error (.problem problem)) (inState s.owner.state mid)
  | stuck {launched server mid failure} :
    Frozen (fun _ : World σ => ()) (boarded launched server s) mid → Began s (.error failure) mid
  | begun {launched server mid capabilities outcome} :
    Posted (greetings s) (boarded launched server s) mid →
    (∀ problem, outcome ≠ .error (.problem problem)) →
    Began s outcome (touchedNow (opened capabilities mid))

omit [Halves] [Peer σ] in
theorem busy_boarded {launched : Launched} {server : σ} : (boarded launched server s).owner.Busy :=
  ⟨nofun, .inr (.inl rfl)⟩

omit [Halves] in
private theorem optional_ne_problem {value default : Json} {name : String} {problem : Problem} :
    value.optional name default ≠ .error (.problem problem) := by
  cases value <;> exact fun same => nomatch same

theorem ends_start_began {outcome : Outcome Json}
    (fresh : s.owner.state = .uninitialized ∨ s.owner.state = .restarting)
    (ended : Ends start s outcome after) : Began s outcome after := by
  rcases ends_bind.mp (ends_start fresh ended) with ⟨_, mid, launching, greeting⟩ | ⟨_, rfl, launching⟩
  rcases ends_launch launching with ⟨_, _, _, failed, _⟩ | ⟨launched, server, _, _, rfl⟩
  · cases failed
  have busy : (boarded launched server s).owner.Busy := busy_boarded
  rcases ends_bind.mp greeting with ⟨⟨result, capabilities⟩, met, shaking, notifying⟩ |
    ⟨failure, rfl, shaking⟩
  · have welcomed : Posted [Connection.requestMessage 1 "initialize"
          (s.owner.handshakeParams s.world.files.workingDirectory s.world.processId)]
        (boarded launched server s) met := by
      cases ends_shakeHands busy shaking with
      | welcomed posted => exact posted
    have busy' := welcomed.busy busy
    rcases ends_bind.mp notifying with ⟨_, last, told, opening⟩ | ⟨failure, rfl, untold⟩
    · cases ends_notify busy' told with
      | taken posted =>
          obtain ⟨_, _, touching, settling⟩ | ⟨_, _, touching⟩ :=
            ends_bind.mp (ends_update_bind.mp opening)
          · obtain ⟨_, rfl⟩ := ends_touch.mp touching
            have whole := welcomed.trans posted
            rcases ends_settle_bind.mp settling with ⟨failure, misread, rfl, rfl⟩ | ⟨_, _, fetching⟩
            · exact .begun whole fun problem same => optional_ne_problem (misread.trans same)
            · have fetched := ends_current_bind.mp fetching
              obtain ⟨rfl, rfl⟩ := ends_pure.mp fetched
              exact .begun whole fun _ same => nomatch same
          · cases (ends_touch.mp touching).1
    · exact .stuck (welcomed.toFrozen.trans
        (dealings_busy.within_notify (fitNotice _) _ untold busy'))
  · cases ends_shakeHands busy shaking with
    | refused frozen => exact .refused frozen
    | broken _ frozen => exact .stuck frozen
  · rcases ends_launch launching with ⟨failure, server, _, same, rfl⟩ | ⟨_, _, _, impossible, _⟩
    · cases same
      exact .unlaunched
    · cases impossible

end Client

end Scalpel
