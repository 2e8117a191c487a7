import Scalpel.Proofs.Distinct
import Scalpel.Proofs.Lifeline

/-!
The trails that documents leave in the course of a session. A session begins when a client is brought
to life or comes back from a restart, and it lasts until the next server is launched. On the trail of
each document the document is opened at version 1, changed to higher and higher versions, saved and
closed, and then perhaps opened again. There is one exception: a document is still open to the client
while the server is told of its end, so an edit that the server asks for in that very call is told
after the end.
-/

set_option autoImplicit false

namespace Scalpel.Client

variable [Halves] {σ : Type} [Peer σ] {s mid after : Session σ Client} {mode : Mode} {uri : String}
  {late : Prop}

/-! ### Launches -/

omit [Peer σ] in
/-- A client that was to be brought to life has a new server, or its trails go on as they were. -/
theorem Began.leads_or_launched {outcome : Outcome Json} (began : Began s outcome after) :
    Leads mode uri s after ∨ after.owner.launches = s.owner.launches + 1 := by
  cases began with
  | unlaunched => exact .inl (leads_of_quiet rfl rfl id (.inr rfl))
  | refused frozen => exact .inr frozen.launches
  | stuck frozen => exact .inr frozen.launches
  | begun posted _ => exact .inr posted.launches

theorem leads_of_start {outcome : Outcome Json} (ended : Ends start s outcome after)
    (same : after.owner.launches = s.owner.launches) : Leads mode uri s after := by
  by_cases fresh : s.owner.state = .uninitialized ∨ s.owner.state = .restarting
  · rcases (ends_start_began fresh ended).leads_or_launched with leads | launched
    · exact leads
    · omega
  · rw [not_or] at fresh
    rw [eq_of_start fresh.1 fresh.2 ended]
    exact (lifeline mode uri).refl s

theorem CameBack.leads_or_launched {outcome : Outcome Unit} (came : CameBack s outcome after)
    (busy : s.owner.restarting = true) :
    Leads mode uri s after ∨ after.owner.launches = s.owner.launches + 1 := by
  cases came with
  | failed began => exact began.leads_or_launched
  | @replayed _ _ mid _ began replayed =>
      cases began with
      | @begun _ _ met fields _ posted _ =>
          have still : (touchedNow (opened fields met)).owner.Busy :=
            ⟨nofun, .inl (posted.restarting.trans busy)⟩
          exact .inr ((frozen_of_replay still replayed).launches.trans posted.launches)

theorem leads_of_completeRestart {outcome : Outcome Unit} (poised : Poised s)
    (ended : Ends completeRestart s outcome after)
    (same : after.owner.launches = s.owner.launches) : Leads mode uri s after := by
  have began : Leads mode uri s (unbooked s) := leads_of_quiet rfl rfl id (.inr rfl)
  have came {reached : Outcome Unit} {last : Session σ Client}
      (paused : s.owner.state = .restarting) (coming : Ends comeBack (unbooked s) reached last)
      (still : last.owner.launches = s.owner.launches) : Leads mode uri s last := by
    have busy : (unbooked s).owner.restarting = true := (poised.pausing paused).1
    have found : CameBack (unbooked s) reached last := ends_comeBack paused coming
    have gone : Leads mode uri (unbooked s) last ∨
        last.owner.launches = (unbooked s).owner.launches + 1 := found.leads_or_launched busy
    rcases gone with leads | launched
    · exact (lifeline mode uri).trans began leads
    · have more : last.owner.launches = s.owner.launches + 1 := launched
      omega
  cases ends_completeRestart ended with
  | overtaken _ => exact leads_of_quiet rfl rfl id (.inr rfl)
  | @revived last paused coming =>
      have known : Leads mode uri last (revived last) := leads_of_quiet rfl rfl id (.inr rfl)
      exact (lifeline mode uri).trans (came paused coming same) known
  | @relapsed _ last paused coming =>
      have still : last.owner.launches = s.owner.launches := by
        rw [← same]
        unfold relapsed
        split <;> rfl
      have known : Leads mode uri last (relapsed last) := by
        unfold relapsed
        split
        · exact leads_of_quiet rfl rfl id (.inr rfl)
        · exact leads_of_quiet rfl rfl id (.inr rfl)
      exact (lifeline mode uri).trans (came paused coming still) known
  | broken paused _ coming => exact came paused coming same

/-! ### Events -/

theorem within_requestRestart_lifeline (accepting : Peer.Accepting σ) :
    Within (lifeline mode uri) (requestRestart : Action σ Client Bool) :=
  fun _ _ _ ended => (ends_beginRestart ended).leads (within_leave_lifeline accepting)

omit [Halves] [Peer σ] in
theorem within_mark_lifeline :
    Within (lifeline mode uri) (update (·.markedDegraded) : Action σ Client Unit) := by
  apply within_update_lifeline
  · intro c
    unfold markedDegraded
    split <;> rfl
  · intro c detached
    unfold markedDegraded
    split
    · exact detached
    · exact detached

theorem within_checkHealth_lifeline (accepting : Peer.Accepting σ) :
    Within (lifeline mode uri) (checkHealth : Action σ Client Unit) := by
  intro s after outcome ended
  cases ends_checkHealth ended with
  | idle _ => exact (lifeline mode uri).refl s
  | restarted _ _ _ _ requested _ => exact within_requestRestart_lifeline accepting requested
  | marked _ _ => exact within_mark_lifeline (ends_update.mpr ⟨rfl, rfl⟩)

theorem within_shutDown_lifeline (accepting : Peer.Accepting σ) :
    Within (lifeline mode uri) (shutDown : Action σ Client Unit) := by
  intro s after outcome ended
  rcases ends_shutDown ended with ⟨_, _, rfl⟩ | ⟨_, settling⟩
  · exact (lifeline mode uri).refl _
  have gone : Leads mode uri s (dismissed s) :=
    leads_of_quiet rfl rfl (fun _ => .inr (.inr rfl)) (.inr rfl)
  have cleared {mid last : Session σ Client} {reached : Outcome Unit} (silent : Mum mid)
      (clearing : Ends (update fun c => { c with documents := {}, diagnostics := [] }) mid reached
        last) : Leads mode uri mid last := by
    obtain ⟨_, rfl⟩ := ends_update.mp clearing
    exact leads_of_quiet rfl rfl id (.inl silent)
  rcases ends_ite.mp settling with ⟨_, leaving⟩ | ⟨_, clearing⟩
  · have left {last : Session σ Client} {reached : Outcome Unit}
        (leaves : Ends leave (dismissed s) reached last) :
        Leads mode uri s last ∧ last.owner.attached = false := by
      have busy : (dismissed s).owner.Busy := ⟨nofun, .inr (.inr (.inl rfl))⟩
      exact ⟨(lifeline mode uri).trans gone (within_leave_lifeline accepting leaves),
        (within_leave_frozen leaves busy).attached⟩
    rcases ends_bind.mp leaving with ⟨_, last, leaves, clearing⟩ | ⟨_, _, leaves⟩
    · obtain ⟨leads, detached⟩ := left leaves
      exact (lifeline mode uri).trans leads (cleared (.inr (.inr detached)) clearing)
    · exact (left leaves).1
  · exact (lifeline mode uri).trans gone (cleared (.inr (.inr rfl)) clearing)

/-- An event happens within a session: no server is launched, the notices are left to the client, and
its server is told none elsewhere. -/
structure Amid (event : Event) (s after : Session σ Client) : Prop where
  launches : after.owner.launches = s.owner.launches
  discreet : ∀ method params, event = .stimulus (.errand (.notify method params)) →
    method ∉ Notice.methods
  apart : event = .elsewhere → ∀ uri,
    after.world.notices s.connection.language uri = s.world.notices s.connection.language uri

/-- Whatever happens within a session, the trail of a document goes on, unless the document is
closed. -/
theorem Happens.leads (accepting : Peer.Accepting σ) {event : Event} {outcome : Outcome Unit}
    (step : Happens event s outcome after) (poised : Poised s) (amid : Amid event s after)
    (other : event ≠ .stimulus (.errand (.closeDocument uri))) :
    Leads (.caring late) uri s after := by
  cases step with
  | @stimulus stimulus _ _ _ ended =>
      cases stimulus with
      | errand errand =>
          refine (duties_lifeline accepting).within_errand errand (fun name same => ?_)
            (fun method params same => ?_) ended
          · subst same
            refine within_closeDocument_other accepting fun named => other ?_
            rw [named]
          · subst same
            exact within_tell_lifeline accepting
              (notice?_other (amid.discreet method params rfl) uri params)
      | start =>
          obtain ⟨_, started, _⟩ := ends_ignoring ended
          exact leads_of_start started amid.launches
      | shutDown => exact within_shutDown_lifeline accepting ended
      | requestRestart =>
          obtain ⟨_, requested, _⟩ := ends_ignoring ended
          exact within_requestRestart_lifeline accepting requested
      | checkHealth => exact within_checkHealth_lifeline accepting ended
      | markDegraded => exact within_mark_lifeline ended
      | startMonitor =>
          cases ends_startMonitor ended with
          | running _ => exact (lifeline _ uri).refl s
          | untimed _ => exact leads_of_quiet rfl rfl id (.inr rfl)
          | started _ => exact leads_of_quiet rfl rfl id (.inr rfl)
      | stopMonitor =>
          rcases (ends_stopMonitor ended).2 with ⟨_, rfl⟩ | ⟨_, _, rfl⟩
          · exact (lifeline _ uri).refl _
          · exact leads_of_quiet rfl rfl id (.inr rfl)
      | listen =>
          obtain ⟨_, rfl⟩ := ends_update.mp ended
          exact leads_of_quiet rfl rfl id (.inr rfl)
      | arrive arrivals =>
          have inside : Within (lifeline (.caring late) uri)
              (Session.arrive handlers arrivals : Action σ Client Unit) := by
            refine within_bind (within_connection_lifeline (fun _ => rfl) (fun _ => id) ?_) fun _ =>
              within_drain_lifeline accepting
            intro c shut
            change (c.transportClosed || _) = true
            rw [shut, Bool.true_or]
          exact inside ended
      | serverEnds closure =>
          have inside : Within (lifeline (.caring late) uri)
              (Session.arriveEnd handlers closure : Action σ Client Unit) := by
            refine within_bind (within_connection_lifeline ?_ ?_ ?_) fun _ =>
              within_drain_lifeline accepting
            · exact fun c => c.language_endTransport closure
            · exact fun c closed =>
                (congrArg (·.1) (c.stage_endTransport closure)).trans closed
            · exact fun c _ => c.transportClosed_endTransport closure
          exact inside ended
      | formerEnds closure => exact within_ended_lifeline closure ended
  | @due job _ _ _ clock _ _ performed =>
      have ticked : Leads (.caring late) uri s (moved clock s) :=
        leads_of_quiet rfl rfl id (.inr rfl)
      refine (lifeline _ uri).trans ticked ?_
      cases job with
      | healthCheck => exact within_checkHealth_lifeline accepting performed
      | restart =>
          have poised' : Poised (moved clock s) := ⟨poised.firm, poised.fresh, poised.pausing⟩
          exact leads_of_completeRestart poised' performed amid.launches
  | elsewhere _ => exact leads_of_quiet rfl (amid.apart rfl uri) id (.inr rfl)

/-! ### The beginning of a session -/

omit [Halves] [Peer σ] in
theorem notices_eq_of_posts (world : World σ) (language uri : String) :
    world.notices language uri = world.posts.filterMap fun entry =>
      if entry.1 = language then entry.2.notice? uri else none := by
  unfold World.notices World.posts
  rw [List.filterMap_filter]
  refine List.filterMap_congr fun entry _ => ?_
  cases named : entry.2.field? "method" with
  | some method => rfl
  | none =>
      have unnoticed : entry.2.notice? uri = none := by
        unfold Json.notice?
        rw [named]
        split <;> first | rfl | contradiction
      rw [unnoticed, ite_self]
      rfl

omit [Halves] [Peer σ] in
theorem notices_of_posts {before later : World σ} {language : String} {messages : List Json}
    (posts : later.posts = messages.map (language, ·) ++ before.posts) :
    later.notices language uri =
      messages.filterMap (·.notice? uri) ++ before.notices language uri := by
  rw [notices_eq_of_posts, posts, List.filterMap_append, ← notices_eq_of_posts,
    List.filterMap_map]
  congr 1
  refine List.filterMap_congr fun message _ => ?_
  exact if_pos rfl

omit [Peer σ] in
theorem notices_greetings (s : Session σ Client) :
    (greetings s).filterMap (·.notice? uri) = [] := rfl

omit [Halves] in
theorem notices_openings {documents : List OpenDocument} (distinct : (documents.map (·.uri)).Nodup) :
    (openings documents).filterMap (·.notice? uri) =
      ((documents.find? fun document => document.uri = uri).map fun document =>
        Notice.opened (.int document.version)).toList := by
  have each : (openings documents).filterMap (·.notice? uri) =
      (documents.filterMap fun document =>
        if document.uri = uri then some (Notice.opened (.int document.version)) else none).reverse := by
    unfold openings
    rw [List.filterMap_reverse, List.filterMap_map]
    rfl
  have found : ∀ {documents : List OpenDocument}, (documents.map (·.uri)).Nodup →
      (documents.filterMap fun document =>
        if document.uri = uri then some (Notice.opened (.int document.version)) else none) =
      ((documents.find? fun document => document.uri = uri).map fun document =>
        Notice.opened (.int document.version)).toList := by
    intro documents distinct
    induction documents with
    | nil => rfl
    | cons document rest ih =>
        rw [List.map_cons, List.nodup_cons] at distinct
        obtain ⟨new, others⟩ := distinct
        by_cases same : document.uri = uri
        · subst same
          have none_ : ∀ other ∈ rest, (if other.uri = document.uri then
              some (Notice.opened (.int other.version)) else none) = none := by
            intro other member
            have apart : other.uri ≠ document.uri := by
              intro same
              rw [← same] at new
              exact new (List.mem_map_of_mem member)
            exact if_neg apart
          rw [List.filterMap_cons, if_pos rfl, List.filterMap_eq_nil_iff.mpr none_,
            List.find?_cons_of_pos (by simp)]
          rfl
        · rw [List.filterMap_cons, if_neg same, List.find?_cons_of_neg (by simpa using same)]
          exact ih others
  rw [each, found distinct]
  cases documents.find? _ <;> rfl

theorem replayed_of_restarted {clock : Clock Task} {outcome : Outcome Unit} (poised : Poised s)
    (ended : Ends completeRestart (moved clock s) outcome after)
    (count : after.owner.restartCount = s.owner.restartCount + 1) :
    Replayed s after ∧ after.connection.language = s.owner.language := by
  cases ends_completeRestart ended with
  | overtaken _ =>
      have same : s.owner.restartCount = s.owner.restartCount + 1 := count
      omega
  | @revived last paused coming =>
      have busy : s.owner.restarting = true := (poised.pausing paused).1
      have kept : last.owner.restartCount = s.owner.restartCount :=
        (within_comeBack_booked coming).restartCount
      cases ends_comeBack (s := unbooked (moved clock s)) paused coming with
      | replayed began replayed =>
          obtain ⟨_, _, _, _, rfl, posted, found⟩ :=
            reopened_of_begun (s := unbooked (moved clock s)) busy began replayed
          cases found with
          | all told =>
              have language := (posts_of_begun (s := unbooked (moved clock s)) posted told).1
              exact ⟨replayed_of_all posted told kept, language⟩
  | @relapsed _ last _ coming =>
      have kept : last.owner.restartCount = s.owner.restartCount :=
        (within_comeBack_booked coming).restartCount
      have same := (relapsed_same last).2.2.2
      omega
  | broken _ _ coming =>
      have kept : after.owner.restartCount = s.owner.restartCount :=
        (within_comeBack_booked coming).restartCount
      omega

/-- A session begins: the client is brought to life and has the document of a uri not open, or it has
come back from a restart. -/
inductive Begins (uri : String) : Event → Session σ Client → Session σ Client → Prop
  | start {s after : Session σ Client} :
    s.owner.state = .uninitialized ∨ s.owner.state = .restarting →
    s.owner.documents.isOpen uri = false → after.owner.state = .ready →
    Begins uri (.stimulus .start) s after
  | restart {s after : Session σ Client} :
    after.owner.restartCount = s.owner.restartCount + 1 → Begins uri (.due .restart) s after

theorem standing_of_start {outcome : Outcome Json}
    (fresh : s.owner.state = .uninitialized ∨ s.owner.state = .restarting)
    (unopened : s.owner.documents.isOpen uri = false) (ready : after.owner.state = .ready)
    (ended : Ends start s outcome after) :
    after.connection.language = s.owner.language ∧
      after.world.notices s.owner.language uri = s.world.notices s.owner.language uri ∧
      Standing (.caring False) uri [] after := by
  cases ends_start_began fresh ended with
  | @unlaunched failure _ =>
      have state : stateUnlaunched failure s.owner.state .initializing = .ready := ready
      unfold stateUnlaunched at state
      split at state
      · rw [state] at fresh
        rcases fresh with same | same <;> cases same
      · cases state
  | refused _ =>
      have state : s.owner.state = .ready := ready
      rw [state] at fresh
      rcases fresh with same | same <;> cases same
  | stuck frozen => cases frozen.state.symm.trans ready
  | @begun _ _ met fields _ posted _ =>
      have posts : met.world.posts = (greetings s).map (s.owner.language, ·) ++ s.world.posts :=
        posted.posts
      have same : (touchedNow (opened fields met)).owner.documents = s.owner.documents :=
        ((mild_touched _).documents _).trans posted.documents
      have absent : (touchedNow (opened fields met)).owner.documents.get? uri = none := by
        rw [same]
        exact Option.not_isSome_iff_eq_none.mp (Bool.eq_false_iff.mp unopened)
      refine ⟨posted.language, ?_, ⟨_, .start⟩, .inr ((tied_iff_of_unopened absent).mpr .start)⟩
      exact notices_of_posts posts

theorem standing_of_restart {clock : Clock Task} {outcome : Outcome Unit} (poised : Poised s)
    (distinct : s.owner.documents.Distinct)
    (ended : Ends completeRestart (moved clock s) outcome after)
    (count : after.owner.restartCount = s.owner.restartCount + 1) :
    after.connection.language = s.owner.language ∧ ∃ trail,
      after.world.notices s.owner.language uri =
        trail ++ s.world.notices s.owner.language uri ∧
      Standing (.caring False) uri trail after := by
  obtain ⟨replayed, language⟩ := replayed_of_restarted poised ended count
  have single : (after.owner.documents.documents.map (·.uri)).Nodup := by
    rw [replayed.documents]
    change s.owner.documents.resetVersions.uris.Nodup
    rw [Tracker.uris_resetVersions]
    exact distinct
  have notices : after.world.notices s.owner.language uri = _ := notices_of_posts replayed.posts
  rw [List.filterMap_append, notices_greetings, List.append_nil, notices_openings single] at notices
  refine ⟨language, _, notices, ?_⟩
  change Standing _ _ ((after.owner.documents.get? uri).map _).toList _
  cases found : after.owner.documents.get? uri with
  | none => exact ⟨⟨_, .start⟩, .inr ((tied_iff_of_unopened found).mpr .start)⟩
  | some document =>
      have first : document.version = 1 := by
        rw [replayed.documents, Tracker.get?_resetVersions] at found
        obtain ⟨_, _, rfl⟩ := Option.map_eq_some_iff.mp found
        rfl
      have begun : Trail False [.opened (.int 1)] (.live 1) := .opened .start
      change Standing _ _ [.opened (.int document.version)] _
      rw [first]
      refine ⟨⟨_, begun⟩, .inr ((tied_iff_of_open found).mpr ⟨1, ?_, begun⟩)⟩
      exact Int.le_of_eq first.symm

theorem Begins.standing {event : Event} {outcome : Outcome Unit} (begins : Begins uri event s after)
    (poised : Poised s) (distinct : s.owner.documents.Distinct)
    (step : Happens event s outcome after) :
    after.connection.language = s.owner.language ∧ ∃ trail,
      after.world.notices s.owner.language uri =
        trail ++ s.world.notices s.owner.language uri ∧
      Standing (.caring False) uri trail after := by
  cases begins with
  | start fresh unopened ready =>
      cases step with
      | stimulus ended =>
          obtain ⟨_, started, _⟩ := ends_ignoring ended
          obtain ⟨language, notices, standing⟩ := standing_of_start fresh unopened ready started
          exact ⟨language, [], notices, standing⟩
  | restart count =>
      cases step with
      | due _ performed => exact standing_of_restart poised distinct performed count

/-! ### The course of a session -/

inductive Sits : Session σ Client → Session σ Client → Prop
  | refl (first : Session σ Client) : Sits first first
  | step {first mid last : Session σ Client} {event : Event} {outcome : Outcome Unit} :
    Sits first mid → Happens event mid outcome last → Amid event mid last → Sits first last

def EditedInClosing (uri : String) (event : Event) (s after : Session σ Client) : Prop :=
  event = .stimulus (.errand (.closeDocument uri)) ∧ ∃ news : List Notice,
    after.world.notices s.connection.language uri =
      news ++ s.world.notices s.connection.language uri ∧
    ∃ notice ∈ news, notice.IsChange

/-- In the course of a session a document was edited while it was closed. -/
def EditedAtEnd (uri : String) (first last : Session σ Client) : Prop :=
  ∃ mid next event outcome, Sits first mid ∧ Happens event mid outcome next ∧
    Amid event mid next ∧ EditedInClosing uri event mid next ∧ Sits next last

theorem EditedAtEnd.onward {first last : Session σ Client} {event : Event} {outcome : Outcome Unit}
    (edited : EditedAtEnd uri first mid) (step : Happens event mid outcome last)
    (amid : Amid event mid last) : EditedAtEnd uri first last := by
  obtain ⟨_, _, _, _, early, made, within_, closing, late⟩ := edited
  exact ⟨_, _, _, _, early, made, within_, closing, late.step step amid⟩

/-- Whatever happens within a session, the trail of a document goes on, and it goes on as one on which
no changes follow the end exactly if the document was not edited while it was closed. -/
theorem Happens.goes (accepting : Peer.Accepting σ) {event : Event} {outcome : Outcome Unit}
    (step : Happens event s outcome after) (poised : Poised s) (amid : Amid event s after) :
    after.connection.language = s.connection.language ∧ ∃ news : List Notice,
      after.world.notices s.connection.language uri =
        news ++ s.world.notices s.connection.language uri ∧
      (∀ {late : Prop} {trail : List Notice}, (EditedInClosing uri event s after → late) →
        Standing (.caring late) uri trail s → Standing (.caring late) uri (news ++ trail) after) ∧
      (EditedInClosing uri event s after → ∀ {trail later : List Notice} {phase : Phase},
        ¬Trail False (later ++ (news ++ trail)) phase) := by
  by_cases closes : event = .stimulus (.errand (.closeDocument uri))
  · subst closes
    cases step with
    | stimulus closed =>
        obtain ⟨language, changes, news, farewell, notices, goes⟩ :=
          leads_closeDocument accepting closed
        cases farewell with
        | untold =>
            refine ⟨language, [], notices, fun _ => goes (absurd rfl), ?_⟩
            rintro ⟨_, news, same, notice, member, _⟩
            rw [List.append_cancel_right (same.symm.trans notices)] at member
            cases member
        | told each =>
            refine ⟨language, _, notices, fun may => goes fun some => may ?_, ?_⟩
            · obtain ⟨change, member⟩ := List.exists_mem_of_ne_nil changes some
              exact ⟨rfl, _, notices, change, List.mem_append_left _ member, each change member⟩
            · rintro ⟨_, news, same, notice, member, changed⟩ trail later phase
              rw [List.append_cancel_right (same.symm.trans notices)] at member
              rw [List.append_assoc]
              refine Trail.not_of_late ?_ each
              rintro rfl
              rw [List.nil_append, List.mem_singleton] at member
              rw [member] at changed
              exact changed
  · obtain ⟨language, news, _, notices, _⟩ : Leads (.caring True) uri s after :=
      step.leads accepting poised amid closes
    refine ⟨language, news, notices, fun {late trail} _ standing => ?_,
      fun edited => absurd edited.1 closes⟩
    obtain ⟨_, others, _, found, goes⟩ : Leads (.caring late) uri s after :=
      step.leads accepting poised amid closes
    rw [List.append_cancel_right (notices.symm.trans found)]
    exact goes trail standing

theorem Sits.goes (accepting : Peer.Accepting σ) {first last : Session σ Client}
    (sits : Sits first last) (poised : Poised first) :
    Poised last ∧ last.connection.language = first.connection.language ∧ ∃ news : List Notice,
      last.world.notices first.connection.language uri =
        news ++ first.world.notices first.connection.language uri ∧
      ∀ {late : Prop} {trail : List Notice}, (EditedAtEnd uri first last → late) →
        Standing (.caring late) uri trail first →
          Standing (.caring late) uri (news ++ trail) last := by
  induction sits with
  | refl => exact ⟨poised, rfl, [], rfl, fun _ => id⟩
  | @step mid last event outcome sits step amid ih =>
      obtain ⟨midway, same, news, notices, goes⟩ := ih
      obtain ⟨language, more, further, goesOn, _⟩ := step.goes accepting midway amid
      refine ⟨(step.attentive_iff midway).1, language.trans same, more ++ news, ?_, ?_⟩
      · rw [same] at further
        rw [further, notices, List.append_assoc]
      · intro late trail may standing
        rw [List.append_assoc]
        refine goesOn (fun closing => may ?_) (goes (fun edited => may ?_) standing)
        · exact ⟨_, _, _, _, sits, step, amid, closing, .refl _⟩
        · exact edited.onward step amid

theorem EditedAtEnd.not_strict (accepting : Peer.Accepting σ) {first last : Session σ Client}
    {news trail : List Notice} {phase : Phase} (edited : EditedAtEnd uri first last)
    (poised : Poised first)
    (notices : last.world.notices first.connection.language uri =
      news ++ first.world.notices first.connection.language uri) :
    ¬Trail False (news ++ trail) phase := by
  obtain ⟨mid, next, event, outcome, early, step, amid, closing, late⟩ := edited
  obtain ⟨midway, sameA, newsA, noticesA, _⟩ := early.goes accepting poised
  obtain ⟨sameB, newsB, noticesB, _, broken⟩ := step.goes accepting midway amid
  obtain ⟨_, _, newsC, noticesC, _⟩ := late.goes accepting (step.attentive_iff midway).1
  rw [sameB, sameA] at noticesC
  rw [sameA] at noticesB
  have whole : news = newsC ++ (newsB ++ newsA) := by
    have same : news ++ first.world.notices first.connection.language uri =
        newsC ++ (newsB ++ newsA) ++ first.world.notices first.connection.language uri := by
      rw [← notices, noticesC, noticesB, noticesA]
      simp only [List.append_assoc]
    exact List.append_cancel_right same
  rw [whole, List.append_assoc, List.append_assoc]
  exact broken closing

/-- On one session, with a server that takes every message, the notices about each document are an
opening at version 1, changes to higher and higher versions and savings, an end, and so on from the
start, except that changes may follow an end. They do exactly if the server was told of changes in the
very call that told it of the end. -/
theorem session_trail_iff (accepting : Peer.Accepting σ) {grants : Nat}
    {first before opened last : Session σ Client} {event : Event} {outcome : Outcome Unit}
    (born : Born first) (run : Course grants first before)
    (step : Happens event before outcome opened) (begins : Begins uri event before opened)
    (sits : Sits opened last) :
    ∃ trail : List Notice,
      last.world.notices before.owner.language uri =
        trail ++ before.world.notices before.owner.language uri ∧
      (∃ phase, Trail True trail phase) ∧
      ((∃ phase, Trail False trail phase) ↔ ¬EditedAtEnd uri opened last) := by
  have poised : Poised before := (run.attentive born).1
  have ready : Poised opened := (step.attentive_iff poised).1
  obtain ⟨language, trail, begun, standing⟩ :=
    begins.standing poised (run.distinct born) step
  obtain ⟨_, _, news, notices, goes⟩ := sits.goes accepting ready
  rw [language] at notices
  refine ⟨news ++ trail, ?_, ?_, ?_⟩
  · rw [notices, begun, List.append_assoc]
  · exact (goes (fun _ => trivial) (standing.widened fun _ => trivial)).kept
  · constructor
    · rintro ⟨phase, strict⟩ edited
      rw [← language] at notices
      exact edited.not_strict accepting ready notices strict
    · intro unedited
      exact (goes unedited standing).kept

end Scalpel.Client

/-! ### A server that edits what is closed -/

namespace Scalpel.Client

structure Obliging (σ : Type) where
  server : σ

instance {σ : Type} [Peer σ] : Peer (Obliging σ) where
  launch config root settings files servers :=
    let (outcome, server) := Peer.launch config root settings files servers.server
    (outcome, { server })
  react language message files servers :=
    let (reaction, server) := Peer.react language message files servers.server
    ({ reaction with refusal := none }, { server })

theorem accepting_obliging {σ : Type} [Peer σ] : Peer.Accepting (Obliging σ) :=
  fun _ _ _ _ => rfl

local instance sittingHalves : Halves :=
  Halves.trial

def belatedEdit : Json :=
  Connection.requestMessage 7 "workspace/applyEdit" (.obj [("edit", .obj [("changes",
    .obj [("a.py", .arr [.obj [
      ("range", .obj [("start", .obj [("line", .int 0), ("character", .int 0)]),
        ("end", .obj [("line", .int 0), ("character", .int 0)])]),
      ("newText", .str "y")]])])])])

/-- A client that nothing has happened to, with a server that edits what is closed. -/
def belatedBirth : Session (Obliging Script.Servers) Client :=
  { world := { server := { server := { shared := { entries :=
      [("textDocument/didClose", [{ after := [belatedEdit] }])] } } } }
    owner := make { language := "py", command := .str "py-server" } "/w" {} 0.0 }

def belatedStart : Session (Obliging Script.Servers) Client :=
  follow belatedBirth (.stimulus .start)

def belatedOpen : Session (Obliging Script.Servers) Client :=
  follow belatedStart (.stimulus (.errand (.openDocument "a.py" "x" (.str "python"))))

def belatedEnd : Session (Obliging Script.Servers) Client :=
  follow belatedOpen (.stimulus (.errand (.closeDocument "a.py")))

private theorem launches_belated : belatedStart.owner.launches = 1 ∧
    belatedOpen.owner.launches = 1 ∧ belatedEnd.owner.launches = 1 := by
  decide +kernel

private theorem sits_belatedOpen : Sits belatedStart belatedOpen := by
  obtain ⟨_, step⟩ := happens_follow_stimulus belatedStart
    (.errand (.openDocument "a.py" "x" (.str "python")))
  exact .step (.refl _) step ⟨launches_belated.2.1.trans launches_belated.1.symm, nofun, nofun⟩

private theorem language_belated : belatedStart.connection.language = "py" ∧
    belatedOpen.connection.language = "py" := by
  decide +kernel

private theorem changes_belated :
    (belatedOpen.world.notices "py" "a.py").countP (·.IsChange) = 0 ∧
      (belatedEnd.world.notices "py" "a.py").countP (·.IsChange) = 1 := by
  decide +kernel

private theorem born_belatedBirth : Born belatedBirth :=
  .make ⟨nofun, List.nodup_nil⟩ nofun

private theorem run_belatedOpen : Course 0 belatedBirth belatedOpen := by
  have run : Course 0 belatedBirth (followAll belatedBirth [.stimulus .start,
      .stimulus (.errand (.openDocument "a.py" "x" (.str "python")))]) :=
    course_followAll_of (by decide +kernel)
  exact run

private theorem happens_belatedStart :
    ∃ outcome, Happens (.stimulus .start) belatedBirth outcome belatedStart :=
  happens_follow_stimulus belatedBirth .start

private theorem happens_belatedEnd : ∃ outcome,
    Happens (.stimulus (.errand (.closeDocument "a.py"))) belatedOpen outcome belatedEnd :=
  happens_follow_stimulus belatedOpen (.errand (.closeDocument "a.py"))

private theorem begins_belatedStart :
    Begins "a.py" (.stimulus .start) belatedBirth belatedStart := by
  refine .start (.inl rfl) rfl ?_
  decide +kernel

private theorem editedAtEnd_belated : EditedAtEnd "a.py" belatedStart belatedEnd := by
  obtain ⟨_, step⟩ := happens_belatedEnd
  have amid : Amid (.stimulus (.errand (.closeDocument "a.py"))) belatedOpen belatedEnd :=
    ⟨launches_belated.2.2.trans launches_belated.2.1.symm, nofun, nofun⟩
  have poised : Poised belatedOpen := (run_belatedOpen.attentive born_belatedBirth).1
  obtain ⟨_, news, notices, _⟩ :
      _ ∧ ∃ news : List Notice, belatedEnd.world.notices belatedOpen.connection.language "a.py" =
        news ++ belatedOpen.world.notices belatedOpen.connection.language "a.py" ∧ _ :=
    step.goes accepting_obliging poised amid
  have counted : news.countP (·.IsChange) + 0 = 1 := by
    rw [← changes_belated.1, ← List.countP_append, ← changes_belated.2]
    rw [language_belated.2] at notices
    rw [notices]
  have told : 0 < news.countP (·.IsChange) := by
    omega
  obtain ⟨notice, member, changed⟩ := List.countP_pos_iff.mp told
  exact ⟨_, _, _, _, sits_belatedOpen, step, amid,
    ⟨rfl, news, notices, notice, member, of_decide_eq_true changed⟩, .refl _⟩

theorem session_trail_iff_of_belated :
    Born belatedBirth ∧ Course 0 belatedBirth belatedBirth ∧
      Begins "a.py" (.stimulus .start) belatedBirth belatedStart ∧ Sits belatedStart belatedEnd ∧
      EditedAtEnd "a.py" belatedStart belatedEnd ∧
      (∃ phase, Trail True (belatedEnd.world.notices "py" "a.py") phase) ∧
      ¬∃ phase, Trail False (belatedEnd.world.notices "py" "a.py") phase := by
  obtain ⟨_, started⟩ := happens_belatedStart
  obtain ⟨_, closed⟩ := happens_belatedEnd
  have amid : Amid (.stimulus (.errand (.closeDocument "a.py"))) belatedOpen belatedEnd :=
    ⟨launches_belated.2.2.trans launches_belated.2.1.symm, nofun, nofun⟩
  have sits : Sits belatedStart belatedEnd := .step sits_belatedOpen closed amid
  refine ⟨born_belatedBirth, .refl _, begins_belatedStart, sits, editedAtEnd_belated, ?_⟩
  obtain ⟨trail, told, late, strict⟩ := session_trail_iff accepting_obliging born_belatedBirth
    (.refl _) started begins_belatedStart sits
  have whole : belatedEnd.world.notices "py" "a.py" = trail := told.trans (List.append_nil trail)
  rw [whole]
  exact ⟨late, fun whole => strict.mp whole editedAtEnd_belated⟩

end Scalpel.Client
