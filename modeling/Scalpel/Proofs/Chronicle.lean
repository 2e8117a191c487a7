import Scalpel.Proofs.Writing

/-!
Servers whose deeds are recorded. A record has what each server sent when it was launched, and each
message that it received with what it did about it. Whatever a client does, the files change only by
what the record has of the servers' own deeds, as long as the client writes none; and every message
that reaches a client is in the record, or was on its way before the record began.
-/

set_option autoImplicit false

namespace Scalpel

/-! ### Records -/

/-- What a server did: it was launched, or it received a message while the files were as `seen`. -/
inductive Deed where
  | launched (language : String) (arrivals : List Inbound)
  | received (language : String) (message : Json) (seen : FileTree) (reaction : Reaction)

namespace Deed

def language : Deed → String
  | .launched language _ => language
  | .received language _ _ _ => language

/-- What the server sent. Nothing that it sends as it refuses a message is on the way. -/
def arrivals : Deed → List Inbound
  | .launched _ arrivals => arrivals
  | .received _ _ _ reaction =>
    match reaction.refusal with
    | none => reaction.arrivals
    | some _ => []

end Deed

/-- Servers with a record of their deeds, the latest first. -/
structure Chronicle (σ : Type) where
  server : σ
  deeds : List Deed := []

def recorded (language : String) (deeds : List Deed) : Outcome Launched → List Deed
  | .ok launched => .launched language launched.arrivals :: deeds
  | .error _ => deeds

instance {σ : Type} [Peer σ] : Peer (Chronicle σ) where
  launch config root settings files chronicle :=
    let started := Peer.launch config root settings files chronicle.server
    (started.1, {
      server := started.2
      deeds := recorded config.language chronicle.deeds started.1 })
  react language message files chronicle :=
    let reacted := Peer.react language message files chronicle.server
    (reacted.1, {
      server := reacted.2
      deeds := .received language message files reacted.1 :: chronicle.deeds })

/-- Files have become what they are by the deeds of servers alone: each server found the files as they
had been left, and left them as it does. -/
inductive Led (σ : Type) [Peer σ] (first : FileTree) : List Deed → FileTree → Prop
  | start : Led σ first [] first
  | launched {deeds : List Deed} {files : FileTree} {language : String} {arrivals : List Inbound} :
    Led σ first deeds files → Led σ first (.launched language arrivals :: deeds) files
  | received {deeds : List Deed} {files : FileTree} {language : String} {message : Json}
    {server : σ} : Led σ first deeds files →
    Led σ first
      (.received language message files (Peer.react language message files server).1 :: deeds)
      (Peer.react language message files server).1.files

theorem Led.spared {σ : Type} [Peer σ] {first files : FileTree} {deeds : List Deed}
    (spares : Peer.SparesFiles σ) (led : Led σ first deeds files) : files = first := by
  induction led with
  | start => rfl
  | launched _ ih => exact ih
  | received _ ih => exact (spares _ _ _ _).trans ih

/-- A message is on its way to the client of a language: a server sent it, or it was on its way
before. -/
def Came (early : String → Json → Prop) (deeds : List Deed) (language : String) (value : Json) :
    Prop :=
  early language value ∨
    ∃ deed ∈ deeds, deed.language = language ∧ Inbound.message value ∈ deed.arrivals

theorem Came.mono {early : String → Json → Prop} {deeds later : List Deed} {language : String}
    {value : Json} (grown : deeds <:+ later) (came : Came early deeds language value) :
    Came early later language value := by
  rcases came with before | ⟨deed, member, named, sent⟩
  · exact .inl before
  · exact .inr ⟨deed, grown.subset member, named, sent⟩

section Worlds

variable {σ : Type} [Peer σ] {world : World (Chronicle σ)} {language : String} {message : Json}

theorem grown_told : world.server.deeds <:+ (world.told language message).server.deeds :=
  List.suffix_cons _ _

end Worlds

/-! ### Connections -/

structure Connection.Attested (early : String → Json → Prop) (deeds : List Deed) (c : Connection) :
    Prop where
  sound : c.Sound
  came : ∀ value, Inbound.message value ∈ c.inbox → Came early deeds c.language value

namespace Connection.Attested

variable {early : String → Json → Prop} {deeds later : List Deed} {c d : Connection}

theorem mono (attested : c.Attested early deeds) (grown : deeds <:+ later) :
    c.Attested early later :=
  ⟨attested.sound, fun value queued => (attested.came value queued).mono grown⟩

theorem tend (attested : c.Attested early deeds) (tended : c.Tended d) : d.Attested early deeds := by
  refine ⟨tended.sound attested.sound, fun value queued => ?_⟩
  rw [tended.language]
  exact attested.came value (tended.inbox value queued)

theorem deliver (attested : c.Attested early deeds) {arrivals : List Inbound}
    (sent : ∃ deed ∈ deeds, deed.language = c.language ∧ deed.arrivals = arrivals) :
    (c.deliver arrivals).Attested early deeds := by
  refine ⟨⟨attested.sound.waiting, attested.sound.outcomes, attested.sound.awake⟩, ?_⟩
  intro value queued
  rcases List.mem_append.mp queued with old | new
  · exact attested.came value old
  · obtain ⟨deed, member, named, rfl⟩ := sent
    exact .inr ⟨deed, member, named, new⟩

theorem fresh (language name : String) :
    ({ language, name } : Connection).Attested early deeds :=
  ⟨⟨fun _ member => absurd member List.not_mem_nil, fun _ member => absurd member List.not_mem_nil,
    fun _ => rfl⟩, fun _ member => absurd member List.not_mem_nil⟩

end Connection.Attested

/-! ### Sessions -/

namespace Client

variable {σ : Type} {early : String → Json → Prop} {first : FileTree}
  {s after : Session (Chronicle σ) Client}

/-- The files have been led by servers, and what is in the queue has come from the server. -/
structure Attested [Peer σ] (early : String → Json → Prop) (first : FileTree)
    (s : Session (Chronicle σ) Client) : Prop where
  led : Led σ first s.world.server.deeds s.world.files
  connection : s.connection.Attested early s.world.server.deeds

def growing : Frame (Session (Chronicle σ) Client) where
  holds a b := a.world.server.deeds <:+ b.world.server.deeds
  refl _ := List.suffix_rfl
  trans := List.IsSuffix.trans

def attesting [Peer σ] (early : String → Json → Prop) (first : FileTree) :
    Frame (Session (Chronicle σ) Client) :=
  Frame.guarded (Attested early first) growing

variable [Peer σ]

theorem attested_told (attested : Attested early first s) (message : Json) :
    Attested early first
      { s with world := s.world.told s.connection.language message } :=
  ⟨.received attested.led, attested.connection.mono grown_told⟩

theorem attested_delivered {message : Json} (attested : Attested early first s)
    (taken : (s.world.reaction s.connection.language message).refusal = none) :
    Attested early first (delivered message s) := by
  have told := attested_told attested message
  refine ⟨told.led, told.connection.deliver ⟨_, List.mem_cons_self, rfl, ?_⟩⟩
  change (match (s.world.reaction s.connection.language message).refusal with
    | none => (s.world.reaction s.connection.language message).arrivals
    | some _ => []) = (s.world.reaction s.connection.language message).arrivals
  rw [taken]

theorem within_emit_attesting (message : Json) :
    Within (attesting early first) (Session.emit message : Action (Chronicle σ) Client Unit) := by
  intro s after outcome ended attested
  rcases Session.ends_emit.mp ended with ⟨_, rfl, _⟩ | ⟨_, _, _, rfl, _⟩ | ⟨_, taken, rfl, _⟩
  · exact ⟨attested, List.suffix_rfl⟩
  · exact ⟨attested_told attested message, grown_told⟩
  · exact ⟨attested_delivered attested taken, grown_told⟩

section Launches

variable {server : Chronicle σ} {result : Outcome Launched} {root : String} {settings : Settings}
  {files : FileTree} {chronicle : Chronicle σ} {config : ServerConfig}

theorem deeds_launched
    (launched : Peer.launch config root settings files chronicle = (result, server)) :
    server.deeds = recorded config.language chronicle.deeds result := by
  cases launched
  rfl

theorem grown_launched
    (launched : Peer.launch config root settings files chronicle = (result, server)) :
    chronicle.deeds <:+ server.deeds := by
  rw [deeds_launched launched]
  cases result with
  | ok launched => exact List.suffix_cons _ _
  | error failure => exact List.suffix_rfl

end Launches

theorem within_launch_attesting [Halves] (before : ClientState) :
    Within (attesting early first) (launch before : Action (Chronicle σ) Client Unit) := by
  intro s after outcome ended attested
  rcases ends_launch ended with ⟨_, server, failed, _, rfl⟩ | ⟨launched, server, started, _, rfl⟩
  · have same : server.deeds = s.world.server.deeds := deeds_launched failed
    refine ⟨⟨?_, ?_⟩, grown_launched failed⟩
    · change Led σ first server.deeds s.world.files
      rw [same]
      exact attested.led
    · change s.connection.Attested early server.deeds
      rw [same]
      exact attested.connection
  · have more : server.deeds = .launched s.owner.config.language launched.arrivals ::
        s.world.server.deeds := deeds_launched started
    refine ⟨⟨?_, ?_⟩, grown_launched started⟩
    · change Led σ first server.deeds s.world.files
      rw [more]
      exact .launched attested.led
    · change (Connection.deliver _ _).Attested early server.deeds
      rw [more]
      exact (Connection.Attested.fresh s.owner.language launched.name).deliver
        ⟨_, List.mem_cons_self, rfl, rfl⟩

theorem recording_attesting [Halves] :
    Recording (attesting early first : Frame (Session (Chronicle σ) Client)) := by
  have roomy : Roomy (attesting early first : Frame (Session (Chronicle σ) Client)) :=
    fun _ _ _ attested => ⟨⟨attested.led, attested.connection⟩, List.suffix_rfl⟩
  refine { Routine.ofTended ?_ ?_ ?_ roomy within_emit_attesting with
    roomy
    launch := within_launch_attesting }
  · exact fun _ _ _ attested => ⟨⟨attested.led, attested.connection⟩, List.suffix_rfl⟩
  · exact fun tended attested =>
      ⟨⟨attested.led, attested.connection.tend tended⟩, List.suffix_rfl⟩
  · exact fun _ _ attested => ⟨⟨attested.led, attested.connection⟩, List.suffix_rfl⟩

theorem recording_growing [Halves] :
    Recording (growing : Frame (Session (Chronicle σ) Client)) := by
  refine .ofIndifferent (fun message => ?_) (fun _ _ _ => List.suffix_rfl)
    (fun _ _ => List.suffix_rfl) (fun _ _ => List.suffix_rfl) (fun _ _ _ => List.suffix_rfl)
    fun before s after outcome ended => ?_
  · exact Session.within_emit (fun _ => grown_told) fun _ _ => List.suffix_rfl
  · rcases ends_launch ended with ⟨_, server, failed, _, rfl⟩ | ⟨launched, server, started, _, rfl⟩
    · exact grown_launched failed
    · exact grown_launched started

end Client

/-! ### Workspaces -/

namespace Workspace

variable {σ : Type} {early : String → Json → Prop} {first : FileTree}
  {w after : Workspace (Chronicle σ)}

structure Attested [Peer σ] (early : String → Json → Prop) (first : FileTree)
    (w : Workspace (Chronicle σ)) : Prop where
  led : Led σ first w.world.server.deeds w.world.files
  members : ∀ ⦃language member⦄, w.member? language = some member →
    member.connection.Attested early w.world.server.deeds

def growing : Frame (Workspace (Chronicle σ)) where
  holds a b := a.world.server.deeds <:+ b.world.server.deeds
  refl _ := List.suffix_rfl
  trans := List.IsSuffix.trans

def attesting [Peer σ] (early : String → Json → Prop) (first : FileTree) :
    Frame (Workspace (Chronicle σ)) :=
  Frame.guarded (Attested early first) growing

variable [Peer σ]

theorem Attested.session {language : String} {member : Member} (attested : w.Attested early first)
    (found : w.member? language = some member) :
    Client.Attested early first (w.sessionOf member) :=
  ⟨attested.led, attested.members found⟩

theorem houses_attesting [Halves] :
    Houses (attesting early first) (Client.attesting (σ := σ) early first) := by
  refine houses_each (fun world => Led σ first world.server.deeds world.files)
    (fun world connection => connection.Attested early world.server.deeds)
    (fun world later => world.server.deeds <:+ later.server.deeds) (fun _ => List.suffix_rfl)
    (fun grown attested => attested.mono grown) (fun _ => .fresh "" "")
    (fun each attested => ?_) fun stays led held => ?_
  · obtain ⟨last, grown⟩ := each ⟨attested.led, attested.members⟩
    exact ⟨⟨last.world, last.members⟩, grown⟩
  · obtain ⟨last, grown⟩ := stays ⟨led, held⟩
    exact ⟨last.led, last.connection, grown⟩

omit [Peer σ] in
theorem hosts_growing [Halves] :
    Hosts growing (Client.growing : Frame (Session (Chronicle σ) Client)) where
  acts {w language member session} _ grown := by
    change _ <:+ (w.withSession language session).world.server.deeds
    rw [world_withSession]
    exact grown
  loads _ _ _ := List.suffix_rfl
  notes _ := List.suffix_rfl

end Workspace

end Scalpel
