import Scalpel.Proofs.Exchange

/-!
What a client does about what arrives, and how it talks to its server. All of it is made of few kinds
of steps: answers, arrivals that are taken, what the server publishes, signs of activity, edits that
the server asks for, and the end of the server. A frame that takes in these steps takes in every
exchange, whatever the server says; with few steps more it takes in how sessions begin and end.
-/

set_option autoImplicit false

namespace Scalpel

inductive Connection.Filed (c : Connection) : Connection → Prop
  | registered (method : String) : Filed c (c.register method).2
  | forgotten (number : Int) : Filed c (c.forget number)
  | fetched (number : Int) : Filed c (c.fetch number).2

namespace Client

theorem within_current {σ : Type} {F : Frame (Session σ Client)} :
    Within F (current : Action σ Client Client) :=
  within_bind within_get fun _ => within_pure _

theorem within_needSession {σ : Type} {F : Frame (Session σ Client)} :
    Within F (needSession : Action σ Client Unit) := by
  refine within_bind within_current fun c => ?_
  split
  · exact Session.within_raise _
  · exact within_pure ()

variable {σ : Type} {F : Frame (Session σ Client)}

section

variable (touched : Within F (touch : Action σ Client Unit))
  (published : ∀ uri diagnostics, Within F (update (·.withDiagnostics uri diagnostics) :
    Action σ Client Unit))

include published in
theorem within_publish (params : Json) : Within F (publish params : Action σ Client Unit) := by
  refine within_bind (Session.within_settle _) fun items => ?_
  refine within_bind (Session.within_settle _) fun diagnostics => ?_
  refine within_bind (Session.within_settle _) fun uri => ?_
  split
  · exact published _ diagnostics
  · exact within_pure ()

include touched published in
theorem within_notified (method params : Json) :
    Within F (notified method params : Action σ Client Unit) := by
  refine within_ite ?_ touched
  refine within_ite (within_bind (within_publish published params) fun _ => touched) ?_
  refine within_ite ?_ touched
  exact within_bind (Session.within_settle _) fun _ => touched

end

variable [Peer σ]

theorem within_applyServerEdit
    (changes : ∀ uri changes, Within F (changeDocument Session.notifyWithin uri changes))
    (edit : WorkspaceEdit) : Within F (applyServerEdit edit : Action σ Client Unit) := by
  refine within_bind (within_forIn fun entry _ _ => ?_) fun _ => within_pure ()
  obtain ⟨name, edits⟩ := entry
  cases name with
  | stray value => exact within_pure _
  | uri uri =>
      refine within_bind within_current fun c => ?_
      split
      · exact within_pure _
      · refine within_bind (Session.within_settle _) fun text => ?_
        exact within_bind (changes uri _) fun _ => within_pure _

variable [Halves]

theorem within_asked_of_edits {method params : Json}
    (edits : ∀ edit, Within F (applyServerEdit edit : Action σ Client Unit)) :
    Within F (asked method params : Action σ Client Json) := by
  refine within_ite ?_ (within_ite ?_ ?_)
  · exact within_bind (Session.within_settle _) fun items => within_pure _
  · refine within_bind (Session.within_settle _) fun edit => ?_
    exact within_bind (edits edit) fun _ => within_pure _
  · refine within_ite ?_ (within_pure _)
    exact within_bind within_current fun _ => within_bind within_get fun _ => within_pure _

/-! ### Arrivals -/

/-- A frame takes in what a client does about arrivals. An edit that the server asks for has to stay
within the frame, and so has what is done about the end of the server. -/
structure Intake (F : Frame (Session σ Client)) : Prop where
  reply : ∀ number outcome, Within F (Session.emit (Connection.replyMessage number outcome))
  touch : Within F (touch : Action σ Client Unit)
  publish : ∀ uri diagnostics, Within F (update (·.withDiagnostics uri diagnostics) :
    Action σ Client Unit)
  receive : ∀ {s : Session σ Client} {arrival : Arrival} {connection : Connection},
    s.connection.receive? = some (arrival, connection) → (∀ closure, arrival ≠ .ended closure) →
    F.holds s { s with connection }
  edit : ∀ {s after : Session σ Client} {number params : Json} {connection : Connection}
    {edit : WorkspaceEdit} {outcome : Outcome Unit},
    s.connection.receive? =
      some (.question number (.str "workspace/applyEdit") params, connection) →
    Ends (applyServerEdit edit) { s with connection } outcome after → F.holds s after
  lose : ∀ {s after : Session σ Client} {closure : Closure} {connection : Connection}
    {outcome : Outcome Unit}, s.connection.receive? = some (.ended closure, connection) →
    Ends (ended closure) { s with connection } outcome after → F.holds s after

theorem within_asked {method params : Json}
    (other : method ≠ .str "workspace/applyEdit") :
    Within F (asked method params : Action σ Client Json) := by
  refine within_ite ?_ ?_
  · exact within_bind (Session.within_settle _) fun items => within_pure _
  · rw [if_neg (fun named => other ((Json.beq_str_iff _ _).mp named))]
    refine within_ite ?_ (within_pure _)
    exact within_bind within_current fun _ => within_bind within_get fun _ => within_pure _

private theorem ends_askedToEdit {s after : Session σ Client} {params : Json}
    {outcome : Outcome Json}
    (ended : Ends (asked (.str "workspace/applyEdit") params) s outcome after) :
    after = s ∨ ∃ edit reached, Ends (applyServerEdit edit) s reached after := by
  unfold asked at ended
  rcases ends_ite.mp ended with ⟨named, _⟩ | ⟨_, chosen⟩
  · exact absurd (Json.str.inj ((Json.beq_str_iff _ _).mp named)) (by decide)
  rcases ends_ite.mp chosen with ⟨_, asking⟩ | ⟨unnamed, _⟩
  · rcases ends_bind.mp asking with ⟨edit, mid, begun, rest⟩ | ⟨_, _, failed⟩
    · obtain ⟨_, rfl⟩ := Session.ends_settle.mp begun
      rcases ends_bind.mp rest with ⟨_, _, applied, done⟩ | ⟨_, _, applied⟩
      · obtain ⟨_, rfl⟩ := ends_pure.mp done
        exact .inr ⟨edit, _, applied⟩
      · exact .inr ⟨edit, _, applied⟩
    · exact .inl (Session.ends_settle.mp failed).2
  · exact absurd ((Json.beq_str_iff _ _).mpr rfl) unnamed

namespace Intake

theorem within_notified (intake : Intake F) (method params : Json) :
    Within F (Client.notified method params : Action σ Client Unit) :=
  Client.within_notified intake.touch intake.publish method params

theorem handled (intake : Intake F) {s mid : Session σ Client} {arrival : Arrival}
    {connection : Connection} (arrived : s.connection.receive? = some (arrival, connection))
    (handled : Ends (Session.handle handlers arrival) { s with connection } (.ok ()) mid) :
    F.holds s mid := by
  cases arrival with
  | settled =>
      obtain ⟨_, rfl⟩ := ends_pure.mp handled
      exact intake.receive arrived fun _ => nofun
  | notification method params =>
      have inside := Session.within_quietly (intake.within_notified method params)
      exact F.trans (intake.receive arrived fun _ => nofun) (inside handled)
  | ended closure =>
      obtain ⟨_, _, lost⟩ := Session.ends_quietly.mp handled
      exact intake.lose arrived lost
  | question number method params =>
      have received : F.holds s { s with connection } := intake.receive arrived fun _ => nofun
      obtain ⟨result, answered, tried, replied⟩ := ends_bind_ok.mp handled
      obtain ⟨_, _, ended⟩ := Session.ends_attempt.mp tried
      refine F.trans ?_ (Session.within_quietly (intake.reply number result) replied)
      by_cases named : method = .str "workspace/applyEdit"
      · subst named
        rcases ends_askedToEdit ended with rfl | ⟨edit, _, applied⟩
        · exact received
        · exact intake.edit arrived applied
      · exact F.trans received (within_asked named ended)

theorem within_drain (intake : Intake F) : Within F (Session.drain (handlers (σ := σ))) :=
  Session.within_drain intake.handled

end Intake

/-! ### Exchanges -/

/-- A frame takes in the exchanges of a client with its server, as far as the messages that the client
sends fit. -/
structure Dealings (F : Frame (Session σ Client)) (fit : Json → Prop) : Prop extends Intake F where
  emit : ∀ {message}, fit message → Within F (Session.emit message)
  file : ∀ {s : Session σ Client} {connection : Connection},
    s.connection.Filed connection → F.holds s { s with connection }

def FitNotice (fit : Json → Prop) (method : String) : Prop :=
  ∀ params, fit (Connection.notificationMessage method params)

def FitRequest (fit : Json → Prop) (method : String) : Prop :=
  ∀ number params, fit (Connection.requestMessage number method params)

namespace Dealings

variable {fit : Json → Prop}

theorem within_notify (dealings : Dealings F fit) {method : String}
    (fits : FitNotice fit method) (params : Json) :
    Within F (Session.notify (handlers (σ := σ)) method params) := by
  refine within_bind (Session.within_needOpen method) fun _ => ?_
  exact within_bind (dealings.emit (fits params)) fun _ => dealings.within_drain

theorem within_pose (dealings : Dealings F fit) {method : String} (fits : FitRequest fit method)
    (params : Json) : Within F (Session.pose (handlers (σ := σ)) method params) := by
  intro s after outcome ended
  have registered : F.holds s
      { s with connection := (s.connection.register method).2 } :=
    dealings.file (.registered method)
  cases Session.ends_pose ended with
  | closed => exact F.refl _
  | @unsent mid _ _ refused =>
      have last : F.holds mid
          { mid with connection := mid.connection.forget s.connection.nextId } :=
        dealings.file (.forgotten _)
      exact F.trans registered (F.trans (dealings.emit (fits _ params) refused) last)
  | sent _ sent drained =>
      have sending := dealings.emit (fits _ params) sent
      exact F.trans registered (F.trans sending (dealings.within_drain drained))

theorem within_await (dealings : Dealings F fit) (number : Int) (method : String)
    (timeout : Json) : Within F (Session.await number method timeout : Action σ Client Json) := by
  intro s after outcome ended
  have fetched : F.holds s { s with connection := (s.connection.fetch number).2 } :=
    dealings.file (.fetched number)
  rcases Session.ends_await ended with ⟨_, rfl⟩ | ⟨_, _, _, _, rfl | rfl⟩
  · exact fetched
  · exact fetched
  · exact F.trans fetched (dealings.file (.forgotten number))

theorem within_exchange (dealings : Dealings F fit) {method : String}
    (fits : FitRequest fit method) (params timeout : Json) :
    Within F (Session.request (handlers (σ := σ)) method params timeout) :=
  within_bind (dealings.within_pose fits params) fun number =>
    dealings.within_await number method timeout

theorem within_tell (dealings : Dealings F fit) {method : String} (fits : FitNotice fit method)
    (params : Json) : Within F (Client.notify method params : Action σ Client Unit) := by
  refine within_bind within_needSession fun _ => ?_
  exact within_bind (dealings.within_notify fits params) fun _ => dealings.touch

theorem within_request (dealings : Dealings F fit) {method : String}
    (fits : FitRequest fit method) (params timeout : Json) :
    Within F (Client.request method params timeout : Action σ Client Json) := by
  refine within_bind within_needSession fun _ => ?_
  refine within_bind within_current fun c => ?_
  refine within_bind (dealings.within_exchange fits params _) fun result => ?_
  exact within_bind dealings.touch fun _ => within_pure result

end Dealings

/-! ### Sessions -/

/-- A frame takes in how a client closes its connection, and what it notes of its own life at the
beginning of a session. -/
structure Sittings (F : Frame (Session σ Client)) (fit : Json → Prop) : Prop
    extends Dealings F fit where
  close : Within F (Session.close (handlers (σ := σ)))
  move : ∀ state, Within F (setState state : Action σ Client Unit)
  begin : ∀ capabilities, Within F (update fun c => { c with
    attached := true, capabilities := .obj capabilities, state := .ready, healthy := true } :
      Action σ Client Unit)

structure FitGreeting (fit : Json → Prop) : Prop where
  handshake : FitRequest fit "initialize"
  initialized : FitNotice fit "initialized"

structure FitFarewell (fit : Json → Prop) : Prop where
  shutdown : FitRequest fit "shutdown"
  exit : FitNotice fit "exit"

theorem Dealings.within_leave {fit : Json → Prop} (dealings : Dealings F fit)
    (fits : FitFarewell fit) (closed : Within F (Session.close (handlers (σ := σ)))) :
    Within F (leave : Action σ Client Unit) := by
  refine within_bind within_get fun s => within_ite ?_ closed
  refine within_bind within_current fun c => ?_
  refine within_bind (Session.within_attempt ?_) fun tried => ?_
  · refine within_bind (dealings.within_exchange fits.shutdown _ _) fun _ => ?_
    exact dealings.within_notify fits.exit _
  · split
    · exact closed
    · exact closed
    · exact within_bind (within_throw _) fun _ => closed

namespace Sittings

variable {fit : Json → Prop}

theorem within_failHandshake (sittings : Sittings F fit) {α : Type} (before : ClientState)
    (problem : Problem) : Within F (failHandshake before problem : Action σ Client α) := by
  refine within_bind sittings.close fun _ => ?_
  exact within_bind (sittings.move before) fun _ => Session.within_raise _

theorem within_shakeHands (sittings : Sittings F fit) (fits : FitGreeting fit)
    (before : ClientState) :
    Within F (shakeHands before : Action σ Client (Json × Json.Fields)) := by
  refine within_bind within_get fun s => ?_
  refine within_bind (Session.within_attempt
    (sittings.within_exchange fits.handshake _ _)) fun tried => ?_
  split
  · exact within_ite (sittings.within_failHandshake _ _) (sittings.within_failHandshake _ _)
  · exact within_throw _
  · split
    · exact within_pure _
    · exact sittings.within_failHandshake _ _

theorem within_greet (sittings : Sittings F fit) (fits : FitGreeting fit) (before : ClientState) :
    Within F (greet before : Action σ Client Json) := by
  refine within_bind (sittings.within_shakeHands fits before) fun greeting => ?_
  refine within_bind (sittings.within_notify fits.initialized _) fun _ => ?_
  refine within_bind (sittings.begin _) fun _ => within_bind sittings.touch fun _ => ?_
  refine within_bind (Session.within_settle _) fun _ => ?_
  exact within_bind within_current fun _ => within_pure _

theorem within_start (sittings : Sittings F fit) (fits : FitGreeting fit)
    (launches : ∀ before, Within F (launch before : Action σ Client Unit)) :
    Within F (start : Action σ Client Json) := by
  refine within_bind within_current fun c => ?_
  split
  · exact within_pure _
  · exact within_pure _
  · exact Session.within_raise _
  · exact Session.within_raise _
  · refine within_bind (sittings.move _) fun _ => ?_
    exact within_bind (launches _) fun _ => sittings.within_greet fits _

end Sittings

end Client

end Scalpel
