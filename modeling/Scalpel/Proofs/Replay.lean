import Scalpel.Proofs.Attention

/-!
What a restart tells the new server of the open documents. It tells all of them, each at version 1 and
in order, right after the handshake and before anything else; or it leaves a client that sends no
requests. There are two ways between: the server refuses to hear of a document although it is alive, or
the client was brought to life by other means before the restart was due.

A client that sends no requests fails at the first thing that it would say, before it takes in anything
that arrived. So whatever it is asked to do, it sends nothing at all.
-/

set_option autoImplicit false

namespace Scalpel.Client

variable {σ : Type} {s mid after : Session σ Client}

/-! ### Clients that do not serve -/

def Serving (s : Session σ Client) : Prop :=
  s.owner.obstacle? = none ∧ s.connection.closed = false ∧ s.connection.transportClosed = false

theorem not_serving_of_restarting (busy : s.owner.restarting = true) : ¬Serving s := by
  rintro ⟨free, _⟩
  unfold Client.obstacle? at free
  rw [busy] at free
  cases free

theorem not_serving_of_detached (detached : s.owner.attached = false) : ¬Serving s := by
  rintro ⟨free, _⟩
  unfold Client.obstacle? at free
  rw [detached, Bool.and_false] at free
  split at free
  · cases free
  · cases free

theorem closed_or_shut (mute : ¬Serving s) (free : s.owner.obstacle? = none) :
    s.connection.closed = true ∨ s.connection.transportClosed = true := by
  cases closed : s.connection.closed with
  | true => exact .inl rfl
  | false => exact .inr (Bool.of_not_eq_false fun unshut => mute ⟨free, closed, unshut⟩)

/-- Nothing happens to the world on account of a client that does not serve, and it stays like that. -/
def muted : Frame (Session σ Client) where
  holds a b := ¬Serving a → ¬Serving b ∧ b.world = a.world
  refl _ mute := ⟨mute, rfl⟩
  trans first second mute :=
    have ⟨mute', world⟩ := first mute
    have ⟨mute'', world'⟩ := second mute'
    ⟨mute'', world'.trans world⟩

def outlook (s : Session σ Client) : Option Problem × Bool × Bool :=
  (s.owner.obstacle?, s.connection.closed, s.connection.transportClosed)

theorem muted_of_outlook (same : outlook after = outlook s) (world : after.world = s.world) :
    muted.holds s after := by
  simp only [outlook, Prod.mk.injEq] at same
  intro mute
  refine ⟨?_, world⟩
  rw [Serving, same.1, same.2.1, same.2.2]
  exact mute

theorem roomy_muted : Roomy (muted : Frame (Session σ Client)) :=
  fun _ _ _ => muted_of_outlook rfl rfl

variable [Peer σ]

theorem ends_emit_shut {message : Json} {outcome : Outcome Unit}
    (shut : s.connection.transportClosed = true)
    (emitted : Ends (Session.emit message) s outcome after) :
    (∃ failure, outcome = .error failure) ∧ after = s := by
  rcases Session.ends_emit.mp emitted with ⟨_, rfl, rfl⟩ | ⟨unshut, _⟩ | ⟨unshut, _⟩
  · exact ⟨⟨_, rfl⟩, rfl⟩
  · exact absurd (shut.symm.trans unshut) nofun
  · exact absurd (shut.symm.trans unshut) nofun

variable [Halves]

theorem ends_notify_shut {method : String} {params : Json} {outcome : Outcome Unit}
    (silent : s.connection.closed = true ∨ s.connection.transportClosed = true)
    (ended : Ends (Session.notify handlers method params) s outcome after) :
    (∃ failure, outcome = .error failure) ∧ after = s := by
  rcases Session.ends_needOpen_bind.mp ended with ⟨rfl, rfl, _⟩ | ⟨opened, posting⟩
  · exact ⟨⟨_, rfl⟩, rfl⟩
  have shut := silent.resolve_left fun closed => absurd (closed.symm.trans opened) nofun
  rcases ends_bind.mp posting with ⟨_, _, emitted, _⟩ | ⟨_, rfl, emitted⟩
  · obtain ⟨⟨_, impossible⟩, _⟩ := ends_emit_shut shut emitted
    cases impossible
  · exact ⟨⟨_, rfl⟩, (ends_emit_shut shut emitted).2⟩

theorem ends_tell_muted {method : String} {params : Json} {outcome : Outcome Unit}
    (mute : ¬Serving s) (ended : Ends (notify method params) s outcome after) :
    (∃ failure, outcome = .error failure) ∧ after = s := by
  rcases ends_tell ended with ⟨_, _, rfl, rfl⟩ | ⟨free, _, sent, _, _⟩ | ⟨free, _, rfl, unsent⟩
  · exact ⟨⟨_, rfl⟩, rfl⟩
  · obtain ⟨⟨_, impossible⟩, _⟩ := ends_notify_shut (closed_or_shut mute free) sent
    cases impossible
  · exact ⟨⟨_, rfl⟩, (ends_notify_shut (closed_or_shut mute free) unsent).2⟩

theorem ends_request_muted {method : String} {params timeout : Json} {outcome : Outcome Json}
    (mute : ¬Serving s) (ended : Ends (request method params timeout) s outcome after) :
    (∃ failure, outcome = .error failure) ∧ muted.holds s after := by
  rcases ends_needSession_bind.mp ended with ⟨_, _, rfl, rfl⟩ | ⟨free, _⟩
  · exact ⟨⟨_, rfl⟩, muted.refl _⟩
  have unsent {number : Int} {mid : Session σ Client} {reached : Outcome Unit}
      (opened : s.connection.closed = false)
      (emitted : Ends (Session.emit (Connection.requestMessage number method params))
        { s with connection := (s.connection.register method).2 } reached mid) :
      (∃ failure, reached = .error failure) ∧
        mid = { s with connection := (s.connection.register method).2 } := by
    refine ends_emit_shut ?_ emitted
    exact (closed_or_shut mute free).resolve_left fun closed => absurd (closed.symm.trans opened) nofun
  cases ends_request ended with
  | obstructed obstructed => cases free.symm.trans obstructed
  | unsent posed =>
      cases posed with
      | closed => exact ⟨⟨_, rfl⟩, muted.refl s⟩
      | unsent opened emitted =>
          obtain ⟨_, rfl⟩ := unsent opened emitted
          exact ⟨⟨_, rfl⟩, muted_of_outlook rfl rfl⟩
  | failed posed _ =>
      cases posed with
      | sent opened emitted _ =>
          obtain ⟨⟨_, impossible⟩, _⟩ := unsent opened emitted
          cases impossible
  | answered posed _ =>
      cases posed with
      | sent opened emitted _ =>
          obtain ⟨⟨_, impossible⟩, _⟩ := unsent opened emitted
          cases impossible

theorem within_change_muted (uri : String) (changes : List ContentChange) :
    Within muted (change uri changes : Action σ Client OpenDocument) := by
  intro s after outcome ended mute
  rcases ends_needSession_bind.mp ended with ⟨_, _, _, rfl⟩ | ⟨free, _⟩
  · exact ⟨mute, rfl⟩
  have silent := closed_or_shut mute free
  have mute' (documents : Tracker) : ¬Serving (withDocuments s documents) := mute
  cases ends_changeDocument ended with
  | refused _ => exact ⟨mute, rfl⟩
  | @sent _ _ documents _ _ _ _ sent =>
      obtain ⟨⟨_, impossible⟩, _⟩ := ends_notify_shut (s := withDocuments s documents) silent sent
      cases impossible
  | @undone _ _ documents _ _ _ _ _ unsent =>
      obtain ⟨_, rfl⟩ := ends_notify_shut (s := withDocuments s documents) silent unsent
      exact ⟨mute, rfl⟩
  | @unsent _ _ documents _ _ _ _ _ unsent =>
      obtain ⟨_, rfl⟩ := ends_notify_shut (s := withDocuments s documents) silent unsent
      exact ⟨mute, rfl⟩

theorem conduct_muted : Conduct (muted : Frame (Session σ Client)) where
  tell _ _ _ _ _ ended mute := by
    obtain ⟨_, rfl⟩ := ends_tell_muted mute ended
    exact ⟨mute, rfl⟩
  ask _ _ _ _ _ _ ended mute := (ends_request_muted mute ended).2 mute
  change := within_change_muted
  publish _ _ := within_modify fun _ => muted_of_outlook rfl rfl
  roomy := roomy_muted

theorem within_errand_muted (errand : Errand) :
    Within muted (doErrand errand : Action σ Client Unit) :=
  conduct_muted.manners.within_errand (fun _ => within_modify fun _ => muted_of_outlook rfl rfl) errand

/-! ### Opening documents again -/

def opening (document : OpenDocument) : Json :=
  Connection.notificationMessage "textDocument/didOpen" (openParams document)

def openings (documents : List OpenDocument) : List Json :=
  (documents.map opening).reverse

omit [Halves] in
theorem openings_cons (document : OpenDocument) (rest : List OpenDocument) :
    openings (document :: rest) = openings rest ++ [opening document] := by
  unfold openings
  rw [List.map_cons, List.reverse_cons]

/-- What became of documents that were to be opened again: all of them were, or those before one of
which the server was not told. -/
inductive Reopened (documents : List OpenDocument) (s : Session σ Client) :
    Outcome Unit → Session σ Client → Prop
  | all {after : Session σ Client} : Posted (openings documents) s after →
    Reopened documents s (.ok ()) after
  | before {done rest document failure mid after} : documents = done ++ document :: rest →
    Posted (openings done) s mid →
    Notified "textDocument/didOpen" (openParams document) mid (.error failure) after →
    Reopened documents s (.error failure) after

theorem ends_reopen {documents : List OpenDocument} {outcome : Outcome Unit}
    (busy : s.owner.Busy)
    (ended : Ends (doEach documents fun document =>
      Session.notify handlers "textDocument/didOpen" (openParams document) :
      Action σ Client PUnit) s outcome after) : Reopened documents s outcome after := by
  induction documents generalizing s with
  | nil =>
      obtain ⟨rfl, rfl⟩ := ends_doEach_nil.mp ended
      exact .all ⟨.refl _ _, rfl⟩
  | cons document rest ih =>
      rcases ends_doEach_cons.mp ended with ⟨mid, told, remaining⟩ | ⟨failure, rfl, untold⟩
      · cases ends_notify busy told with
        | taken posted =>
            cases ih (posted.busy busy) remaining with
            | all others =>
                refine .all ?_
                rw [openings_cons]
                exact posted.trans others
            | @before done others unopened _ _ _ parted opened failed =>
                have split : document :: rest = (document :: done) ++ unopened :: others := by
                  rw [parted]
                  rfl
                refine .before split ?_ failed
                rw [openings_cons]
                exact posted.trans opened
      · have first : document :: rest = [] ++ document :: rest := rfl
        exact .before first ⟨.refl _ _, rfl⟩ (ends_notify busy untold)

theorem ends_replay {outcome : Outcome Unit} (busy : s.owner.Busy)
    (attached : s.owner.attached = true) (ended : Ends replay s outcome after) :
    Reopened s.owner.documents.resetVersions.documents
      (withDocuments s s.owner.documents.resetVersions) outcome after := by
  rcases ends_ite.mp (ends_replay_reopen ended) with ⟨_, looping⟩ | ⟨detached, _⟩
  · refine ends_reopen busy ?_
    rcases ends_bind.mp looping with ⟨_, _, looped, done⟩ | ⟨_, rfl, failed⟩
    · obtain ⟨rfl, rfl⟩ := ends_pure.mp done
      exact looped
    · exact failed
  · exact absurd attached detached

/-! ### What is left -/

/-- After a restart the server that was launched has been told of every document, at version 1 and in
order, right after the handshake. -/
structure Replayed (s after : Session σ Client) : Prop where
  documents : after.owner.documents = s.owner.documents.resetVersions
  posts : after.world.posts =
    (openings after.owner.documents.documents ++ greetings s).map (s.owner.language, ·) ++
      s.world.posts
  launches : after.owner.launches = s.owner.launches + 1
  restartCount : after.owner.restartCount = s.owner.restartCount + 1

/-- A restart is whole: there is nothing to tell the server, it was told of everything, or the client
sends it no requests. -/
def Whole (s after : Session σ Client) : Prop :=
  s.owner.documents.documents = [] ∨ Replayed s after ∨ ¬Serving after

/-- A restart is torn: the client sends requests to a server that was not told of a document. Either
the server refused to hear of it, or it was launched by other means before. -/
inductive Torn (s after : Session σ Client) : Prop
  | refused {done rest : List OpenDocument} {document : OpenDocument} :
    s.owner.state = .restarting →
    s.owner.documents.resetVersions.documents = done ++ document :: rest →
    after.world.posts =
      (opening document :: openings done ++ greetings s).map (s.owner.language, ·) ++
        s.world.posts →
    after.owner.restartCount = s.owner.restartCount → after.owner.restartNeeded = true →
    Serving after → Torn s after
  | overtaken : s.owner.state ≠ .restarting → s.owner.documents.documents ≠ [] →
    after.world.posts = s.world.posts → Serving after → Torn s after

/-! ### The second half of a restart -/

omit [Peer σ] in
theorem posts_of_begun {launched : Launched} {server : σ} {capabilities : Json.Fields}
    {documents : List OpenDocument} {tracker : Tracker}
    (posted : Posted (greetings s) (boarded launched server s) mid)
    (told : Posted (openings documents)
      (withDocuments (touchedNow (opened capabilities mid)) tracker) after) :
    after.connection.language = s.owner.language ∧ after.world.posts =
      (openings documents ++ greetings s).map (s.owner.language, ·) ++ s.world.posts := by
  have language : mid.connection.language = s.owner.language := posted.language
  have first : mid.world.posts = (greetings s).map (s.owner.language, ·) ++ s.world.posts :=
    posted.posts
  have second : after.world.posts =
      (openings documents).map (mid.connection.language, ·) ++ mid.world.posts := told.posts
  refine ⟨told.language.trans language, ?_⟩
  rw [second, first, language, List.map_append, List.append_assoc]

omit [Halves] [Peer σ] in
/-- A client that comes back from a live session without having told it of everything serves it. -/
theorem serving_relapsed (ready : s.owner.state = .ready) (attached : s.owner.attached = true)
    (opened : s.connection.closed = false) (unshut : s.connection.transportClosed = false) :
    (relapsed s).owner.restartNeeded = true ∧ Serving (relapsed s) := by
  have alive : s.owner.state ≠ .shutDown := by
    rw [ready]
    exact nofun
  unfold relapsed
  rw [if_neg alive]
  refine ⟨rfl, ?_, opened, unshut⟩
  unfold Client.obstacle?
  dsimp only
  rw [attached]
  rfl

theorem reopened_of_begun {capabilities : Json} {start : Session σ Client} {outcome : Outcome Unit}
    (busy : s.owner.restarting = true) (began : Began s (.ok capabilities) start)
    (replayed : Ends replay start outcome after) :
    ∃ launched server fields mid, start = touchedNow (opened fields mid) ∧
      Posted (greetings s) (boarded launched server s) mid ∧
      Reopened s.owner.documents.resetVersions.documents
        (withDocuments start s.owner.documents.resetVersions) outcome after := by
  cases began with
  | @begun launched server mid fields _ posted _ =>
      have still : (touchedNow (opened fields mid)).owner.Busy :=
        ⟨nofun, .inl (posted.restarting.trans busy)⟩
      have same : (touchedNow (opened fields mid)).owner.documents = s.owner.documents :=
        posted.documents
      have found := ends_replay still rfl replayed
      rw [same] at found
      exact ⟨launched, server, fields, mid, rfl, posted, found⟩

omit [Peer σ] in
theorem replayed_of_all {clock : Clock Task} {launched : Launched} {server : σ}
    {fields : Json.Fields} {last : Session σ Client}
    (posted : Posted (greetings s) (boarded launched server (unbooked (moved clock s))) mid)
    (told : Posted (openings s.owner.documents.resetVersions.documents)
      (withDocuments (touchedNow (opened fields mid)) s.owner.documents.resetVersions) last)
    (count : last.owner.restartCount = s.owner.restartCount) : Replayed s (revived last) := by
  have documents : last.owner.documents = s.owner.documents.resetVersions := told.documents
  refine ⟨documents, ?_, told.launches.trans posted.launches, congrArg (· + 1) count⟩
  refine (posts_of_begun (s := unbooked (moved clock s)) posted told).2.trans ?_
  change _ = (openings last.owner.documents.documents ++ greetings s).map _ ++ _
  rw [documents]
  rfl

/-- A client that comes back although its server, while alive, refused to hear of a document serves it
without having told it of everything. -/
theorem torn_of_refused {clock : Clock Task} {launched : Launched} {server : σ}
    {fields : Json.Fields} {done rest : List OpenDocument} {document : OpenDocument}
    {reached : Session σ Client} (paused : s.owner.state = .restarting)
    (parted : s.owner.documents.resetVersions.documents = done ++ document :: rest)
    (posted : Posted (greetings s) (boarded launched server (unbooked (moved clock s))) mid)
    (told : Posted (openings done)
      (withDocuments (touchedNow (opened fields mid)) s.owner.documents.resetVersions) reached)
    (count : reached.owner.restartCount = s.owner.restartCount)
    (unclosed : reached.connection.closed = false)
    (unshut : reached.connection.transportClosed = false) :
    Torn s (relapsed { reached with
      world := reached.world.told reached.connection.language (opening document) }) := by
  obtain ⟨language, posts⟩ := posts_of_begun (s := unbooked (moved clock s)) posted told
  obtain ⟨needed, serving⟩ := serving_relapsed (s := { reached with
    world := reached.world.told reached.connection.language (opening document) })
    told.state told.attached unclosed unshut
  refine .refused paused parted ?_ ((relapsed_same _).2.2.2.trans count) needed serving
  refine (World.posts_told rfl).trans ?_
  rw [language, posts]
  rfl

omit [Peer σ] in
theorem Torn.serving (torn : Torn s after) : Serving after := by
  cases torn with
  | refused _ _ _ _ _ serving => exact serving
  | overtaken _ _ _ serving => exact serving

omit [Peer σ] in
theorem not_whole_of_refused {done rest : List OpenDocument} {document : OpenDocument}
    (parted : s.owner.documents.resetVersions.documents = done ++ document :: rest)
    (count : after.owner.restartCount = s.owner.restartCount) (serving : Serving after) :
    ¬Whole s after := by
  rintro (none | replayed | silent)
  · unfold Tracker.resetVersions at parted
    rw [none] at parted
    cases done <;> cases parted
  · have more := replayed.restartCount
    omega
  · exact silent serving

/-- Where the second half of a restart is not overtaken, it is whole unless the new server, while alive,
refused to hear of a document. -/
theorem whole_iff_of_completeRestart {clock : Clock Task} {outcome : Outcome Unit}
    (poised : Poised s) (paused : s.owner.state = .restarting)
    (ended : Ends completeRestart (moved clock s) outcome after) :
    Whole s after ↔ ¬Torn s after := by
  obtain ⟨busy, _, detached⟩ := poised.pausing paused
  have mute {last : Session σ Client} (silent : ¬Serving last) : Whole s last ↔ ¬Torn s last :=
    ⟨fun _ torn => silent torn.serving, fun _ => .inr (.inr silent)⟩
  cases ends_completeRestart ended with
  | overtaken elsewhere => exact absurd paused elsewhere
  | @revived last _ coming =>
      have count : last.owner.restartCount = s.owner.restartCount :=
        (within_comeBack_booked coming).restartCount
      cases ends_comeBack (s := unbooked (moved clock s)) paused coming with
      | replayed began replayed =>
          obtain ⟨_, _, _, _, rfl, posted, found⟩ :=
            reopened_of_begun (s := unbooked (moved clock s)) busy began replayed
          cases found with
          | all told =>
              have whole : Replayed s (revived last) := replayed_of_all posted told count
              refine ⟨fun _ torn => ?_, fun _ => .inr (.inl whole)⟩
              cases torn with
              | refused _ _ _ same _ _ =>
                  have more := whole.restartCount
                  omega
              | overtaken elsewhere _ _ _ => exact elsewhere paused
  | @relapsed _ last _ coming =>
      have count : last.owner.restartCount = s.owner.restartCount :=
        (within_comeBack_booked coming).restartCount
      cases ends_comeBack (s := unbooked (moved clock s)) paused coming with
      | failed began =>
          refine mute (not_serving_of_detached ((relapsed_same last).2.2.1.trans ?_))
          cases began with
          | unlaunched => exact detached
          | refused frozen => exact frozen.attached.trans detached
          | stuck frozen => exact frozen.attached.trans detached
          | begun _ sound => exact absurd rfl (sound _)
      | replayed began replayed =>
          obtain ⟨_, _, _, _, rfl, posted, found⟩ :=
            reopened_of_begun (s := unbooked (moved clock s)) busy began replayed
          cases found with
          | before parted told failed =>
              cases failed with
              | mute silent =>
                  refine mute fun serving => ?_
                  rcases silent with closed | shut
                  · exact absurd (serving.2.1.symm.trans closed) nofun
                  · exact absurd (serving.2.2.symm.trans shut) nofun
              | refused unclosed unshut _ =>
                  have torn : Torn s _ :=
                    torn_of_refused paused parted posted told count unclosed unshut
                  have same := (relapsed_same _).2.2.2.trans count
                  exact ⟨fun whole => absurd whole (not_whole_of_refused parted same torn.serving),
                    fun kept => absurd torn kept⟩
  | broken _ _ coming =>
      exact mute (not_serving_of_restarting (((within_comeBack_booked coming).kept busy).1))

/-- A restart that was overtaken tells the server nothing. It is whole unless the client serves and has
documents. -/
theorem whole_iff_of_overtaken {clock : Clock Task} {outcome : Outcome Unit}
    (elsewhere : s.owner.state ≠ .restarting)
    (ended : Ends completeRestart (moved clock s) outcome after) :
    (Whole s after ↔ ¬Torn s after) ∧ after.world.sent = s.world.sent ∧
      after.connection = s.connection ∧ after.owner.documents = s.owner.documents := by
  obtain ⟨_, rfl⟩ := ends_completeRestart_of_ne (s := moved clock s) elsewhere ended
  refine ⟨⟨fun whole torn => ?_, fun kept => ?_⟩, rfl, rfl, rfl⟩
  · cases torn with
    | refused same _ _ _ _ _ => exact elsewhere same
    | overtaken _ some posts serving =>
        rcases whole with none | replayed | silent
        · exact some none
        · have more : s.owner.launches = s.owner.launches + 1 := replayed.launches
          omega
        · exact silent serving
  · by_contra torn
    unfold Whole at torn
    rw [not_or, not_or, not_not] at torn
    exact kept (.overtaken elsewhere torn.1 rfl torn.2.2)

/-- In every run, when the second half of a restart has ended, it is whole unless it is torn: the new
server, while alive, refused to hear of a document, or the client had been brought to life before by
other means, has documents and serves. A restart that was overtaken like that tells the server nothing.
A client that does not serve fails every request, and whatever it is asked to do, it sends nothing and
still does not serve. -/
theorem replay_whole_iff_not_torn {grants : Nat} {first last : Session σ Client}
    {outcome : Outcome Unit} (born : Born first) (run : Course grants first last)
    (step : Happens (.due .restart) last outcome after) :
    (Whole last after ↔ ¬Torn last after) ∧
      (last.owner.state ≠ .restarting → after.world.sent = last.world.sent ∧
        after.connection = last.connection ∧ after.owner.documents = last.owner.documents) ∧
      ∀ {mute later : Session σ Client}, ¬Serving mute →
        (∀ {method : String} {params timeout : Json} {reached : Outcome Json},
          Ends (request method params timeout) mute reached later →
            ∃ failure, reached = .error failure) ∧
        ∀ {errand : Errand} {reached : Outcome Unit}, Ends (doErrand errand) mute reached later →
          ¬Serving later ∧ later.world = mute.world := by
  cases step with
  | due _ performed =>
      refine ⟨?_, fun elsewhere => (whole_iff_of_overtaken elsewhere performed).2, fun mute =>
        ⟨fun asked => (ends_request_muted mute asked).1, fun done =>
          within_errand_muted _ done mute⟩⟩
      by_cases paused : last.owner.state = .restarting
      · exact whole_iff_of_completeRestart (run.attentive born).1 paused performed
      · exact (whole_iff_of_overtaken paused performed).1

end Scalpel.Client

/-! ### A server that refuses to hear of a document -/

namespace Scalpel.Client

local instance replayHalves : Halves :=
  Halves.trial

/-- A client that nothing has happened to, with a server that refuses to hear of a document for the
second time. -/
def refusedBirth : Session Script.Servers Client :=
  { world := { server := { shared := { entries :=
      [("textDocument/didOpen", [{}, { refusal := some "no" }])] } } }
    owner := make { language := "py", command := .str "py-server" } "/w" {} 0.0 }

/-- A restart of the client has begun after a document was opened. -/
def refusedPause : Session Script.Servers Client :=
  followAll refusedBirth [.stimulus .start,
    .stimulus (.errand (.openDocument "a.py" "x" (.str "python"))), .stimulus .requestRestart]

def refusedEnd : Session Script.Servers Client :=
  follow refusedPause (.wait 1010.0)

private theorem born_refusedBirth : Born refusedBirth :=
  .make ⟨nofun, List.nodup_nil⟩ nofun

private theorem run_refusedPause : Course 1 refusedBirth refusedPause :=
  course_followAll_of (by decide +kernel)

private theorem serving_refusedEnd : Serving refusedEnd :=
  ⟨Option.isNone_iff_eq_none.mp (by decide +kernel), by decide +kernel, by decide +kernel⟩

private theorem not_whole_refused : ¬Whole refusedPause refusedEnd := by
  rintro (none | replayed | silent)
  · have some : refusedPause.owner.documents.documents.isEmpty = false := by decide +kernel
    rw [none] at some
    cases some
  · have idle : refusedPause.owner.restartCount = 0 ∧ refusedEnd.owner.restartCount = 0 := by
      decide +kernel
    have more := replayed.restartCount
    omega
  · exact silent serving_refusedEnd

theorem replay_whole_iff_not_torn_of_refused :
    Born refusedBirth ∧ Course 1 refusedBirth refusedPause ∧
      (∃ outcome, Happens (.due .restart) refusedPause outcome refusedEnd) ∧
      Torn refusedPause refusedEnd ∧ Serving refusedEnd := by
  obtain ⟨outcome, step⟩ : ∃ outcome, Happens (.due .restart) refusedPause outcome refusedEnd :=
    happens_due_follow (by decide +kernel)
  refine ⟨born_refusedBirth, run_refusedPause, ⟨outcome, step⟩, ?_, serving_refusedEnd⟩
  by_contra kept
  exact not_whole_refused
    ((replay_whole_iff_not_torn born_refusedBirth run_refusedPause step).1.mpr kept)

end Scalpel.Client
