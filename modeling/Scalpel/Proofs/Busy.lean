import Scalpel.Proofs.Supervision

/-!
Clients that are busy with themselves: in a handshake, in a restart, or not alive. Such a client serves
no edits, and the end of its server changes nothing but its signs of health. So whatever its server
says, an exchange leaves it as it is, and nothing is scheduled.
-/

set_option autoImplicit false

namespace Scalpel.Client

variable {σ V : Type} {a b c s after : Session σ Client} {view : World σ → V}

def Busy (c : Client) : Prop :=
  c.state ≠ .degraded ∧ (c.restarting = true ∨ c.state = .initializing ∨ c.state = .shutDown ∨
    c.state = .uninitialized)

theorem Busy.obstacle? {c : Client} (busy : c.Busy) : ∃ problem, c.obstacle? = some problem := by
  unfold Client.obstacle?
  by_cases restarting : (c.restarting || c.state = .restarting) = true
  · rw [if_pos restarting]
    exact ⟨_, rfl⟩
  · rw [if_neg restarting]
    rw [Bool.or_eq_true, not_or] at restarting
    rcases busy.2 with busy | state | state | state
    · exact absurd busy restarting.1
    all_goals
      rw [state]
      exact ⟨_, rfl⟩

theorem Busy.deaf {c : Client} (busy : c.Busy) (idle : c.restarting = false) : c.Deaf := by
  rcases busy.2 with busy | state | state | state
  · cases idle.symm.trans busy
  · exact .inr (.inr ⟨state, idle⟩)
  · exact .inl state
  · exact .inr (.inl state)

structure Frozen (view : World σ → V) (a b : Session σ Client) : Prop where
  owner : b.owner = { a.owner with
    healthy := b.owner.healthy, lastExitCode := b.owner.lastExitCode
    lastActivity := b.owner.lastActivity, diagnostics := b.owner.diagnostics }
  healthy : b.owner.healthy = true → a.owner.healthy = true
  clock : b.world.clock = a.world.clock
  language : b.connection.language = a.connection.language
  view : view b.world = view a.world

namespace Frozen

theorem refl (view : World σ → V) (s : Session σ Client) : Frozen view s s :=
  ⟨rfl, id, rfl, rfl, rfl⟩

theorem trans (first : Frozen view a b) (second : Frozen view b c) : Frozen view a c := by
  refine ⟨?_, fun well => first.healthy (second.healthy well), second.clock.trans first.clock,
    second.language.trans first.language, second.view.trans first.view⟩
  have whole := second.owner
  rw [first.owner] at whole
  exact whole

theorem state (frozen : Frozen view a b) : b.owner.state = a.owner.state :=
  (congrArg (·.state) frozen.owner :)

theorem restarting (frozen : Frozen view a b) : b.owner.restarting = a.owner.restarting :=
  (congrArg (·.restarting) frozen.owner :)

theorem attached (frozen : Frozen view a b) : b.owner.attached = a.owner.attached :=
  (congrArg (·.attached) frozen.owner :)

theorem restartNeeded (frozen : Frozen view a b) : b.owner.restartNeeded = a.owner.restartNeeded :=
  (congrArg (·.restartNeeded) frozen.owner :)

theorem documents (frozen : Frozen view a b) : b.owner.documents = a.owner.documents :=
  (congrArg (·.documents) frozen.owner :)

theorem config (frozen : Frozen view a b) : b.owner.config = a.owner.config :=
  (congrArg (·.config) frozen.owner :)

theorem launches (frozen : Frozen view a b) : b.owner.launches = a.owner.launches :=
  (congrArg (·.launches) frozen.owner :)

theorem busy (frozen : Frozen view a b) (busy : a.owner.Busy) : b.owner.Busy := by
  unfold Busy
  rw [frozen.state, frozen.restarting]
  exact busy

end Frozen

def frozen (view : World σ → V) : Frame (Session σ Client) where
  holds a b := a.owner.Busy → Frozen view a b
  refl s _ := .refl view s
  trans first second busy := (first busy).trans (second ((first busy).busy busy))

theorem within_connection_frozen {f : Connection → Connection}
    (same : ∀ connection, (f connection).language = connection.language) :
    Within (frozen view) (Session.modifyConnection f : Action σ Client Unit) :=
  within_modify fun s _ => ⟨rfl, id, rfl, same s.connection, rfl⟩

theorem within_touch_frozen : Within (frozen view) (touch : Action σ Client Unit) := by
  intro s after outcome ended busy
  obtain ⟨_, rfl⟩ := ends_touch.mp ended
  have calm : (touchedNow s).owner = { s.owner with lastActivity := s.world.clock.now } := by
    change Client.touched _ _ = _
    unfold touched
    rw [if_neg fun degraded => busy.1 (of_decide_eq_true (Bool.and_eq_true_iff.mp degraded).1)]
  exact ⟨by rw [calm], fun well => by rw [calm] at well; exact well, rfl, rfl, rfl⟩

theorem within_emit_frozen [Peer σ] {message : Json}
    (unmoved : ∀ (world : World σ) language, view (world.told language message) = view world) :
    Within (frozen view) (Session.emit message : Action σ Client Unit) :=
  Session.within_emit (fun _ _ => ⟨rfl, id, rfl, rfl, unmoved _ _⟩)
    fun _ _ _ => ⟨rfl, id, rfl, rfl, rfl⟩

theorem within_changeDocument_frozen {send : String → Json → Action σ Client Unit} {uri : String}
    {changes : List ContentChange} : Within (frozen view) (changeDocument send uri changes) := by
  intro s after outcome ended busy
  rcases ends_needSession_bind.mp ended with ⟨_, _, _, rfl⟩ | ⟨free, _⟩
  · exact .refl _ _
  · obtain ⟨_, obstructed⟩ := busy.obstacle?
    cases free.symm.trans obstructed

theorem within_ended_frozen (closure : Closure) :
    Within (frozen view) (Client.ended closure : Action σ Client Unit) := by
  intro s after outcome ended busy
  cases ends_ended ended with
  | unheeded _ => exact ⟨rfl, id, rfl, rfl, rfl⟩
  | restarting _ _ => exact ⟨rfl, nofun, rfl, rfl, rfl⟩
  | noticed heeded idle _ => exact absurd (busy.deaf idle) heeded

variable [Halves] [Peer σ] {fit : Json → Prop}

/-- Whatever a server says to a busy client, messages that leave what is seen of the world alone leave
everything alone. -/
theorem dealings_frozen
    (unmoved : ∀ {message}, fit message →
      ∀ (world : World σ) language, view (world.told language message) = view world)
    (replies : ∀ number outcome, fit (Connection.replyMessage number outcome)) :
    Dealings (frozen view) fit where
  reply number outcome := within_emit_frozen (unmoved (replies number outcome))
  touch := within_touch_frozen
  publish _ _ := within_modify fun _ _ => ⟨rfl, id, rfl, rfl, rfl⟩
  receive arrived _ _ := ⟨rfl, id, rfl, (Connection.tended_receive arrived).language, rfl⟩
  edit {s after _ _ connection _ _} arrived applied busy := by
    have received : Frozen view s { s with connection } :=
      ⟨rfl, id, rfl, (Connection.tended_receive arrived).language, rfl⟩
    have kept : (frozen view).holds { s with connection } after :=
      within_applyServerEdit (fun _ _ => within_changeDocument_frozen) _ applied
    exact received.trans (kept busy)
  lose {s _ closure connection _} arrived lost busy := by
    have received : Frozen view s { s with connection } :=
      ⟨rfl, id, rfl, (Connection.tended_receive arrived).language, rfl⟩
    exact received.trans (within_ended_frozen closure lost busy)
  emit fits := within_emit_frozen (unmoved fits)
  file {s connection} filed _ := by
    refine ⟨rfl, id, rfl, ?_, rfl⟩
    exact (Connection.tended_filed filed).language

theorem dealings_busy : Dealings (frozen fun _ : World σ => ()) fun _ => True :=
  dealings_frozen (fun _ _ _ => rfl) fun _ _ => trivial

theorem within_close_frozen : Within (frozen fun _ : World σ => ())
    (Session.close (handlers (σ := σ))) := by
  refine within_bind (within_connection_frozen fun c => (Connection.tended_hangUp c).language)
    fun _ => ?_
  refine within_bind dealings_busy.within_drain fun _ => ?_
  exact within_connection_frozen fun c => (Connection.tended_finish c).language

theorem within_leave_frozen : Within (frozen fun _ : World σ => ()) (leave : Action σ Client Unit) :=
  dealings_busy.within_leave ⟨fitRequest _, fitNotice _⟩ within_close_frozen

end Scalpel.Client
