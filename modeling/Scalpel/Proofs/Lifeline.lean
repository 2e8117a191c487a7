import Scalpel.Proofs.Attention
import Scalpel.Proofs.Trail

/-!
What a client does to the trail of a document. Whatever it does about arrivals adds changes to the
trail, as long as the document is open to it; opening, changing and saving add what they are for. The
end of a document is told first and the document is dropped last, and what the server asks for between
is told after the end.
-/

set_option autoImplicit false

namespace Scalpel

/-! ### Connections -/

namespace Connection

variable {c d : Connection}

variable [Halves]

theorem closed_receive {arrival : Arrival} (arrived : c.receive? = some (arrival, d))
    (closed : c.closed = true) : d.closed = true := by
  rcases stage_receive arrived with same | ⟨_, done, _⟩
  · exact (congrArg (·.1) same).trans closed
  · exact done

end Connection

namespace Client

variable {σ : Type} {s mid after : Session σ Client} {mode : Mode} {uri : String}

/-! ### Messages that are passed on -/

/-- What became of a notification: there is no connection for it, or the server has taken it and the
rest has happened within a frame. -/
inductive Passed [Peer σ] (F : Frame (Session σ Client)) (message : Json) (s : Session σ Client) :
    Outcome Unit → Session σ Client → Prop
  | unsent {problem : Problem} : problem.kind = .connectionClosed →
    s.connection.closed = true ∨ s.connection.transportClosed = true →
    Passed F message s (.error (.problem problem)) s
  | sent {after : Session σ Client} : s.connection.closed = false →
    s.connection.transportClosed = false → F.holds (delivered message s) after →
    Passed F message s (.ok ()) after

section

variable [Peer σ] {F : Frame (Session σ Client)} {method : String} {params : Json}
  {outcome : Outcome Unit}

theorem passed_notifyWithin (accepting : Peer.Accepting σ)
    (ended : Ends (Session.notifyWithin method params) s outcome after) :
    Passed F (Connection.notificationMessage method params) s outcome after := by
  rcases Session.ends_needOpen_bind.mp ended with ⟨rfl, rfl, closed⟩ | ⟨opened, emitting⟩
  · exact .unsent rfl (.inl closed)
  rcases ends_emit_of_accepting accepting emitting with ⟨⟨_, kind, rfl⟩, shut, rfl⟩ |
    ⟨rfl, unshut, rfl⟩
  · exact .unsent kind (.inr shut)
  · exact .sent opened unshut (F.refl _)

theorem passed_notify [Halves] (accepting : Peer.Accepting σ)
    (drained : Within F (Session.drain (handlers (σ := σ))))
    (ended : Ends (Session.notify handlers method params) s outcome after) :
    Passed F (Connection.notificationMessage method params) s outcome after := by
  rcases Session.ends_needOpen_bind.mp ended with ⟨rfl, rfl, closed⟩ | ⟨opened, posting⟩
  · exact .unsent rfl (.inl closed)
  rcases ends_bind.mp posting with ⟨_, _, emitting, draining⟩ | ⟨failure, rfl, emitting⟩
  · rcases ends_emit_of_accepting accepting emitting with ⟨⟨_, _, impossible⟩, _⟩ |
      ⟨_, unshut, rfl⟩
    · cases impossible
    · cases Session.drain_ok draining
      exact .sent opened unshut (drained draining)
  · rcases ends_emit_of_accepting accepting emitting with ⟨⟨_, kind, same⟩, shut, rfl⟩ |
      ⟨impossible, _⟩
    · cases same
      exact .unsent kind (.inr shut)
    · cases impossible

end

/-! ### Changes -/

section

variable [Peer σ]

theorem leads_changed {name : String} {old document : OpenDocument} {documents : Tracker}
    {changes : List ContentChange} (free : s.owner.obstacle? = none)
    (opened : s.connection.closed = false) (unshut : s.connection.transportClosed = false)
    (found : s.owner.documents.get? name = some old)
    (updated : s.owner.documents.update name changes = .ok (documents, document)) :
    Leads mode uri s (delivered (Connection.notificationMessage "textDocument/didChange"
      (Desk.changeParams name document.version changes)) (withDocuments s documents)) := by
  obtain ⟨was, foundWas, madeOf, madeBy⟩ := Tracker.update_eq_ok updated
  have same : was = old := Option.some.inj (foundWas.symm.trans found)
  have oldNamed : old.uri = name := Tracker.uri_of_get? found
  rw [same] at madeOf
  have named : document.uri = name := by
    rw [madeOf]
    exact oldNamed
  have newer : document.version = old.version + 1 := by
    rw [madeOf]
  have known : documents.get? uri = if name = uri then some document else
      s.owner.documents.get? uri := by
    rw [madeBy, Tracker.get?_put, named]
  by_cases here : name = uri
  · subst here
    rw [if_pos rfl] at known
    refine ⟨rfl, [.changed (.int document.version)], ?_, ?_, fun trail standing => ?_⟩
    · intro notice member
      rw [List.mem_singleton.mp member]
      exact mode.change _
    · refine (World.notices_told _ _ _ _).trans ?_
      rw [notice?_change, if_pos rfl]
      rfl
    · have tied := standing.tied_of_loud free opened unshut
      obtain ⟨version, bounded, left⟩ := (tied_iff_of_open found).mp tied
      have higher : version < document.version := by
        omega
      have further := mode.further left higher
      exact ⟨⟨_, further⟩, .inr ((tied_iff_of_open known).mpr ⟨_, Int.le_refl _, further⟩)⟩
  · rw [if_neg here] at known
    have entered : Leads mode uri s (withDocuments s documents) :=
      leads_of_quiet rfl rfl id (.inr known)
    refine (lifeline mode uri).trans entered (leads_delivered ?_)
    rw [notice?_change, if_neg here]

theorem within_changeDocument_lifeline {send : String → Json → Action σ Client Unit}
    (passes : ∀ {s after : Session σ Client} {params : Json} {outcome : Outcome Unit},
      Ends (send "textDocument/didChange" params) s outcome after →
      Passed (lifeline mode uri)
        (Connection.notificationMessage "textDocument/didChange" params) s outcome after)
    (name : String) (changes : List ContentChange) :
    Within (lifeline mode uri) (changeDocument send name changes) := by
  intro s after outcome ended
  rcases ends_needSession_bind.mp ended with ⟨_, _, _, rfl⟩ | ⟨free, _⟩
  · exact (lifeline mode uri).refl _
  cases ends_changeDocument ended with
  | refused _ => exact (lifeline mode uri).refl _
  | @sent _ document documents mid _ found updated sent =>
      have touched : (lifeline mode uri).holds mid (touchedNow mid) :=
        within_touch_lifeline (ends_touch.mpr ⟨rfl, rfl⟩)
      cases passes sent with
      | sent opened unshut rest =>
          have told : (lifeline mode uri).holds s
              (delivered (Connection.notificationMessage "textDocument/didChange"
                (Desk.changeParams name document.version changes)) (withDocuments s documents)) :=
            leads_changed free opened unshut found updated
          exact (lifeline mode uri).trans told ((lifeline mode uri).trans rest touched)
  | undone found updated _ unsent =>
      cases passes unsent with
      | unsent _ _ =>
          exact leads_of_quiet rfl rfl id (.inr (Tracker.get?_revert_update found updated uri))
  | unsent _ _ otherwise unsent =>
      cases passes unsent with
      | unsent kind _ => exact absurd kind (otherwise _ rfl)

/-! ### Arrivals -/

omit [Peer σ] in
theorem leads_received [Halves] {arrival : Arrival} {connection : Connection}
    (arrived : s.connection.receive? = some (arrival, connection)) :
    Leads mode uri s { s with connection } := by
  refine leads_of_quiet (Connection.tended_receive arrived).language rfl ?_ (.inr rfl)
  rintro (closed | shut | detached)
  · exact .inl (Connection.closed_receive arrived closed)
  · exact .inr (.inl ((Connection.transportClosed_receive arrived).trans shut))
  · exact .inr (.inr detached)

omit [Peer σ] in
theorem RestartBegun.leads {leave : Action σ Client Unit} {outcome : Outcome Bool}
    (begun : RestartBegun leave s outcome after) (leaves : Within (lifeline mode uri) leave) :
    Leads mode uri s after := by
  have given : Leads mode uri s (givenUp s) :=
    leads_of_quiet rfl rfl (fun _ => .inr (.inr rfl)) (.inr rfl)
  have gone {mid : Session σ Client} (left : Left leave s mid) : Leads mode uri s mid := by
    cases left with
    | left _ gone => exact (lifeline mode uri).trans given (leaves gone)
    | nothing _ => exact given
  cases begun with
  | declined _ => exact (lifeline mode uri).refl s
  | unfinished _ _ failed => exact (lifeline mode uri).trans given (leaves failed)
  | untimed _ left _ => exact gone left
  | @begun delay mid _ left _ =>
      have asked : Leads mode uri mid (scheduled s.owner.language delay mid) :=
        leads_of_quiet rfl rfl id (.inr rfl)
      exact (lifeline mode uri).trans (gone left) asked

omit [Peer σ] in
theorem within_closeWithin_lifeline :
    Within (lifeline mode uri) (Session.closeWithin : Action σ Client Unit) := by
  refine within_modify fun s => ?_
  have tended := (Connection.tended_hangUp s.connection).trans (Connection.tended_finish _)
  exact leads_of_quiet tended.language rfl (fun _ => .inl rfl) (.inr rfl)

omit [Peer σ] in
theorem within_hear_lifeline (listener : Listener) :
    Within (lifeline mode uri) (hear listener : Action σ Client Unit) := by
  intro s after outcome ended
  cases ends_hear ended with
  | observed => exact leads_of_quiet rfl rfl id (.inr rfl)
  | unwatched _ => exact (lifeline mode uri).refl s
  | watched _ begun _ => exact begun.leads within_closeWithin_lifeline

omit [Peer σ] in
theorem within_ended_lifeline (closure : Closure) :
    Within (lifeline mode uri) (Client.ended closure : Action σ Client Unit) := by
  intro s after outcome ended
  cases ends_ended ended with
  | unheeded _ => exact leads_of_quiet rfl rfl id (.inr rfl)
  | restarting _ _ => exact leads_of_quiet rfl rfl id (.inr rfl)
  | noticed _ _ told =>
      have noted : Leads mode uri s (alarmed closure s) :=
        leads_of_quiet rfl rfl id (.inr rfl)
      have heard : Leads mode uri (alarmed closure s) after :=
        within_doEach (fun listener _ => within_hear_lifeline listener) told
      exact (lifeline mode uri).trans noted heard

variable [Halves]

theorem dealings_lifeline (accepting : Peer.Accepting σ) :
    Dealings (lifeline (σ := σ) mode uri) fun message => message.notice? uri = none where
  reply number outcome := within_emit_lifeline accepting (notice?_reply uri number outcome)
  touch := within_touch_lifeline
  publish _ _ := within_update_lifeline (fun _ => rfl) fun _ => id
  receive arrived _ := leads_received arrived
  edit arrived applied := by
    have carried (name : String) (changes : List ContentChange) : Within (lifeline mode uri)
        (changeDocument (Session.notifyWithin (σ := σ)) name changes) :=
      within_changeDocument_lifeline (passed_notifyWithin accepting) name changes
    exact (lifeline mode uri).trans (leads_received arrived)
      (within_applyServerEdit carried _ applied)
  lose arrived lost :=
    (lifeline mode uri).trans (leads_received arrived) (within_ended_lifeline _ lost)
  emit other := within_emit_lifeline accepting other
  file {s _} filed := by
    have language := (Connection.tended_filed filed).language
    cases filed with
    | registered _ => exact leads_of_quiet language rfl id (.inr rfl)
    | forgotten _ => exact leads_of_quiet language rfl id (.inr rfl)
    | fetched _ => exact leads_of_quiet language rfl id (.inr rfl)

theorem within_drain_lifeline (accepting : Peer.Accepting σ) :
    Within (lifeline mode uri) (Session.drain (handlers (σ := σ))) :=
  (dealings_lifeline accepting).within_drain

theorem within_change_lifeline (accepting : Peer.Accepting σ) (name : String)
    (changes : List ContentChange) :
    Within (lifeline mode uri) (change name changes : Action σ Client OpenDocument) :=
  within_changeDocument_lifeline (passed_notify accepting (within_drain_lifeline accepting)) name
    changes

theorem within_close_lifeline (accepting : Peer.Accepting σ) :
    Within (lifeline mode uri) (Session.close (handlers (σ := σ))) := by
  refine within_bind (within_modify fun s => ?_) fun _ => ?_
  · exact leads_of_quiet (Connection.tended_hangUp _).language rfl
      (fun _ => .inr (.inl (Connection.transportClosed_hangUp _))) (.inr rfl)
  refine within_bind (within_drain_lifeline accepting) fun _ => within_modify fun s => ?_
  exact leads_of_quiet (Connection.tended_finish _).language rfl (fun _ => .inl rfl) (.inr rfl)

theorem within_leave_lifeline (accepting : Peer.Accepting σ) :
    Within (lifeline mode uri) (leave : Action σ Client Unit) := by
  have request (method : String) : FitRequest (fun message => message.notice? uri = none) method :=
    fun number params => notice?_request uri number method params
  have exit : FitNotice (fun message => message.notice? uri = none) "exit" :=
    fun params => notice?_other (by decide) uri params
  exact (dealings_lifeline accepting).within_leave ⟨request _, exit⟩
    (within_close_lifeline accepting)

theorem ends_tell_passed (mode : Mode) (uri : String) (accepting : Peer.Accepting σ)
    {method : String} {params : Json} {outcome : Outcome Unit}
    (ended : Ends (notify method params) s outcome after) :
    after = s ∧ (s.owner.obstacle? ≠ none ∨ s.connection.closed = true ∨
        s.connection.transportClosed = true) ∧ (∃ failure, outcome = .error failure) ∨
      s.owner.obstacle? = none ∧ s.connection.closed = false ∧
        s.connection.transportClosed = false ∧ outcome = .ok () ∧
        Leads mode uri
          (delivered (Connection.notificationMessage method params) s) after := by
  rcases ends_tell ended with ⟨_, obstructed, rfl, rfl⟩ | ⟨free, mid, sending, rfl, rfl⟩ |
    ⟨_, _, rfl, sending⟩
  · refine .inl ⟨rfl, .inl ?_, _, rfl⟩
    rw [obstructed]
    exact nofun
  · cases passed_notify (F := lifeline mode uri) accepting (within_drain_lifeline accepting)
      sending with
    | sent opened unshut rest =>
        have touched : Leads mode uri mid (touchedNow mid) :=
          within_touch_lifeline (ends_touch.mpr ⟨rfl, rfl⟩)
        exact .inr ⟨free, opened, unshut, rfl, (lifeline mode uri).trans rest touched⟩
  · cases passed_notify (F := lifeline mode uri) accepting (within_drain_lifeline accepting)
      sending with
    | unsent _ silent => exact .inl ⟨rfl, .inr silent, _, rfl⟩

theorem within_tell_lifeline (accepting : Peer.Accepting σ) {method : String} {params : Json}
    (other : (Connection.notificationMessage method params).notice? uri = none) :
    Within (lifeline mode uri) (notify method params : Action σ Client Unit) := by
  intro s after outcome ended
  rcases ends_tell_passed mode uri accepting ended with ⟨rfl, _⟩ | ⟨_, _, _, _, rest⟩
  · exact (lifeline mode uri).refl _
  · exact (lifeline mode uri).trans (leads_delivered other) rest

/-! ### Errands -/

omit [Peer σ] [Halves] in
/-- A document that the client has changed without telling the server is at a higher version than was
told. -/
theorem leads_raised {old document : OpenDocument}
    (found : s.owner.documents.get? document.uri = some old)
    (higher : old.version ≤ document.version) :
    Leads mode uri s (withDocuments s (s.owner.documents.put document)) := by
  have known : (s.owner.documents.put document).get? uri =
      if document.uri = uri then some document else s.owner.documents.get? uri :=
    Tracker.get?_put _ _ _
  by_cases here : document.uri = uri
  · refine ⟨rfl, [], fun _ none => absurd none List.not_mem_nil, rfl, fun trail standing => ?_⟩
    refine ⟨standing.kept, ?_⟩
    rcases standing.tied with silent | tied
    · exact .inl silent
    · rw [if_pos here] at known
      rw [here] at found
      obtain ⟨version, bounded, left⟩ := (tied_iff_of_open found).mp tied
      have raised : version ≤ document.version := Int.le_trans bounded higher
      exact .inr ((tied_iff_of_open known).mpr ⟨version, raised, left⟩)
  · rw [if_neg here] at known
    exact leads_of_quiet rfl rfl id (.inr known)

omit [Halves] [Peer σ] in
theorem within_applyHere_lifeline (name : String) (edits : List (TextEdit Json)) :
    Within (lifeline mode uri) (applyHere name edits : Action σ Client Unit) := by
  intro s after outcome ended
  cases ends_applyHere ended with
  | unopened _ => exact (lifeline mode uri).refl s
  | unfit _ _ => exact (lifeline mode uri).refl s
  | @applied document text found _ =>
      have named : document.uri = name := Tracker.uri_of_get? found
      rw [← named] at found
      have higher : document.version ≤ document.version + 1 := by
        omega
      exact leads_raised found higher

theorem tasks_lifeline (accepting : Peer.Accepting σ) : Tasks (lifeline (σ := σ) mode uri) where
  ask method _ _ := (dealings_lifeline accepting).within_request
    (fun number params => notice?_request uri number method params) _ _
  change := within_change_lifeline accepting
  publish _ _ := within_update_lifeline (fun _ => rfl) fun _ => id
  here := within_applyHere_lifeline

variable {late : Prop}

omit [Halves] in
theorem leads_opened {document : OpenDocument} (free : s.owner.obstacle? = none)
    (opened : s.connection.closed = false) (unshut : s.connection.transportClosed = false)
    (unknown : s.owner.documents.get? document.uri = none) (first : document.version = 1) :
    Leads (.caring late) uri s
      (delivered (opening document) (withDocuments s (s.owner.documents.put document))) := by
  have known : (s.owner.documents.put document).get? uri =
      if document.uri = uri then some document else s.owner.documents.get? uri :=
    Tracker.get?_put _ _ _
  by_cases here : document.uri = uri
  · rw [if_pos here] at known
    rw [here] at unknown
    refine ⟨rfl, [.opened (.int 1)], fun _ _ => trivial, ?_, fun trail standing => ?_⟩
    · refine (World.notices_told _ _ _ _).trans ?_
      rw [notice?_opening, if_pos here, first]
      rfl
    · have tied := standing.tied_of_loud free opened unshut
      have begun : Trail late (.opened (.int 1) :: trail) (.live 1) :=
        .opened ((tied_iff_of_unopened unknown).mp tied)
      have bounded : 1 ≤ document.version := Int.le_of_eq first.symm
      exact ⟨⟨_, begun⟩, .inr ((tied_iff_of_open known).mpr ⟨1, bounded, begun⟩)⟩
  · rw [if_neg here] at known
    have entered : Leads (.caring late) uri s
        (withDocuments s (s.owner.documents.put document)) :=
      leads_of_quiet rfl rfl id (.inr known)
    refine (lifeline (.caring late) uri).trans entered (leads_delivered ?_)
    rw [notice?_opening, if_neg here]

theorem within_openDocument_lifeline (accepting : Peer.Accepting σ) (name content : String)
    (languageId : Json) :
    Within (lifeline (.caring late) uri)
      (openDocument name content languageId : Action σ Client OpenDocument) := by
  intro s after outcome ended
  rcases ends_needSession_bind.mp ended with ⟨_, _, _, rfl⟩ | ⟨free, starting⟩
  · exact (lifeline (.caring late) uri).refl _
  rcases ends_ite.mp (ends_current_bind.mp starting) with ⟨_, changed⟩ | ⟨unknown, fresh⟩
  · exact within_change_lifeline accepting name _ changed
  have unopened : s.owner.documents.get? name = none :=
    Option.not_isSome_iff_eq_none.mp unknown
  -- the client enters the document before it tells the server
  have told {last : Session σ Client} {reached : Outcome Unit}
      (telling : Ends (notify "textDocument/didOpen"
        (openParams (entered s.owner name content languageId)))
        (withDocuments s (s.owner.documents.put (entered s.owner name content languageId)))
        reached last) :
      Leads (.caring late) uri s last := by
    rcases ends_tell_passed (.caring late) uri accepting telling with
      ⟨rfl, silent, _⟩ | ⟨_, opened, unshut, _, rest⟩
    · rcases silent with obstructed | closed | shut
      · exact absurd free obstructed
      · exact leads_of_quiet rfl rfl (fun _ => .inl closed) (.inl (.inl closed))
      · exact leads_of_quiet rfl rfl (fun _ => .inr (.inl shut)) (.inl (.inr (.inl shut)))
    · exact (lifeline (.caring late) uri).trans (leads_opened free opened unshut unopened rfl) rest
  rcases ends_bind.mp (ends_update_bind.mp fresh) with ⟨_, mid, telling, last⟩ | ⟨_, _, telling⟩
  · have fetched := ends_current_bind.mp last
    obtain ⟨_, rfl⟩ := ends_pure.mp fetched
    exact told telling
  · exact told telling

omit [Halves] in
theorem leads_saved {name text : String} (known : s.owner.documents.isOpen name = true)
    (free : s.owner.obstacle? = none) (opened : s.connection.closed = false)
    (unshut : s.connection.transportClosed = false) :
    Leads (.caring late) uri s
      (delivered (Connection.notificationMessage "textDocument/didSave"
        (.obj [("textDocument", .obj [("uri", .str name)]), ("text", .str text)])) s) := by
  by_cases here : name = uri
  · subst here
    refine ⟨rfl, [.saved], fun _ _ => trivial, ?_, fun trail standing => ?_⟩
    · refine (World.notices_told _ _ _ _).trans ?_
      rw [notice?_save, if_pos rfl]
      rfl
    · have tied := standing.tied_of_loud free opened unshut
      obtain ⟨document, found⟩ := Option.isSome_iff_exists.mp known
      obtain ⟨version, bounded, left⟩ := (tied_iff_of_open found).mp tied
      have further : Trail late (.saved :: trail) (.live version) := .saved left
      exact ⟨⟨_, further⟩, .inr ((tied_iff_of_open found).mpr ⟨version, bounded, further⟩)⟩
  · refine leads_delivered ?_
    rw [notice?_save, if_neg here]

theorem within_save_lifeline (accepting : Peer.Accepting σ) (name : String)
    (content : Option String) :
    Within (lifeline (.caring late) uri)
      (save name content : Action σ Client OpenDocument) := by
  intro s after outcome ended
  rcases ends_needSession_bind.mp ended with ⟨_, _, _, rfl⟩ | ⟨_, saving⟩
  · exact (lifeline (.caring late) uri).refl _
  rcases ends_settle_bind.mp (ends_current_bind.mp saving) with ⟨_, _, _, rfl⟩ |
    ⟨document, known, rest⟩
  · exact (lifeline (.caring late) uri).refl _
  have isOpen : s.owner.documents.isOpen name = true := by
    unfold Tracker.isOpen
    rw [Tracker.require_eq_ok known]
    rfl
  have telling {s last : Session σ Client} {document : OpenDocument} {reached : Outcome OpenDocument}
      (isOpen : s.owner.documents.isOpen name = true)
      (told : Ends (do
        notify "textDocument/didSave" (.obj [("textDocument", .obj [("uri", .str name)]),
          ("text", .str document.content)])
        return ((← current).documents.get? name).getD document : Action σ Client OpenDocument)
        s reached last) : Leads (.caring late) uri s last := by
    have said {last : Session σ Client} {reached : Outcome Unit}
        (told : Ends (notify "textDocument/didSave"
          (.obj [("textDocument", .obj [("uri", .str name)]), ("text", .str document.content)]))
          s reached last) : Leads (.caring late) uri s last := by
      rcases ends_tell_passed (.caring late) uri accepting told with
        ⟨rfl, _, _⟩ | ⟨free, opened, unshut, _, rest⟩
      · exact (lifeline (.caring late) uri).refl _
      · exact (lifeline (.caring late) uri).trans (leads_saved isOpen free opened unshut) rest
    rcases ends_bind.mp told with ⟨_, mid, saying, finishing⟩ | ⟨_, _, saying⟩
    · have fetched := ends_current_bind.mp finishing
      obtain ⟨_, rfl⟩ := ends_pure.mp fetched
      exact said saying
    · exact said saying
  cases content with
  | none => exact telling isOpen ((ends_pure.mpr ⟨rfl, rfl⟩).bind.mp rest)
  | some text =>
      rcases ends_ite.mp rest with ⟨_, same⟩ | ⟨_, changing⟩
      · exact telling isOpen ((ends_pure.mpr ⟨rfl, rfl⟩).bind.mp same)
      · rcases ends_bind.mp changing with ⟨_, mid, changed, saying⟩ | ⟨_, _, changed⟩
        · have stays : mid.owner.documents.isOpen name = true :=
            recording_opensStay.keeping.conduct.change name _ changed name isOpen
          exact (lifeline (.caring late) uri).trans
            (within_change_lifeline accepting name _ changed) (telling stays saying)
        · exact within_change_lifeline accepting name _ changed

theorem duties_lifeline (accepting : Peer.Accepting σ) :
    Duties (lifeline (σ := σ) (.caring late) uri) where
  toTasks := tasks_lifeline accepting
  opening := within_openDocument_lifeline accepting
  save := within_save_lifeline accepting

/-! ### The end of a document -/

theorem within_closeDocument_other (accepting : Peer.Accepting σ) {name : String}
    (other : name ≠ uri) :
    Within (lifeline mode uri) (closeDocument name : Action σ Client Unit) := by
  refine within_bind within_current fun c => within_ite ?_ (within_pure ())
  have unnoticed : (Connection.notificationMessage "textDocument/didClose"
      (.obj [("textDocument", .obj [("uri", .str name)])])).notice? uri = none := by
    rw [notice?_close, if_neg other]
  refine within_bind (within_tell_lifeline accepting unnoticed) fun _ => within_modify fun s => ?_
  refine leads_of_quiet rfl rfl id (.inr ?_)
  change (s.owner.documents.remove name).get? uri = _
  rw [Tracker.get?_remove, if_neg other.symm]

/-- What the closing of a document adds to its trail: nothing, or the end of the document and after it
the changes that the server has asked for meanwhile. -/
inductive Farewell : List Notice → List Notice → Prop
  | untold : Farewell [] []
  | told {changes : List Notice} : (∀ change ∈ changes, change.IsChange) →
    Farewell changes (changes ++ [.closed])

omit [Halves] in
theorem standing_of_closed {message : Json} {changes trail : List Notice}
    (known : ∃ document, s.owner.documents.get? uri = some document)
    (tied : Tied (.caring late) uri trail s) (may : changes ≠ [] → late)
    (goes : Standing .leaving uri (.closed :: trail) (delivered message s) →
      Standing .leaving uri (changes ++ .closed :: trail) mid) :
    Standing (.caring late) uri ((changes ++ [.closed]) ++ trail) { mid with
      owner := { mid.owner with
        documents := mid.owner.documents.remove uri }.withoutDiagnostics uri } := by
  obtain ⟨document, found⟩ := known
  obtain ⟨version, bounded, left⟩ := (tied_iff_of_open found).mp tied
  have ended : Trail late (.closed :: trail) (.left version) := .closed left
  have gone : (mid.owner.documents.remove uri).get? uri = none := by
    rw [Tracker.get?_remove, if_pos rfl]
  have shut {whole : List Notice} (left : Trail late whole .shut) :
      Tied (.caring late) uri whole { mid with
        owner := { mid.owner with
          documents := mid.owner.documents.remove uri }.withoutDiagnostics uri } :=
    (tied_iff_of_unopened gone).mpr left
  rw [List.append_assoc]
  by_cases empty : changes = []
  · subst empty
    exact ⟨⟨_, ended⟩, .inr (shut (.dropped ended))⟩
  · have allowed (_ : True) : late := may empty
    have begun : Standing .leaving uri (.closed :: trail) (delivered message s) := by
      have widened : Trail True (.closed :: trail) (.left version) :=
        ended.mono fun _ => trivial
      exact ⟨⟨_, widened⟩, .inr ((tied_iff_of_open found).mpr ⟨version, bounded, widened⟩)⟩
    obtain ⟨⟨phase, whole⟩, last⟩ := goes begun
    refine ⟨⟨phase, whole.mono allowed⟩, ?_⟩
    rcases last with silent | fits
    · exact .inl silent
    · refine .inr (shut ?_)
      unfold Tied at fits
      split at fits
      · obtain ⟨_, _, left⟩ := fits
        exact .dropped (left.mono allowed)
      · exact fits.mono allowed

/-- The closing of a document adds its end to the trail, and where no changes follow the end, the trail
is one on which none may. -/
theorem leads_closeDocument (accepting : Peer.Accepting σ) {outcome : Outcome Unit}
    (ended : Ends (closeDocument uri) s outcome after) :
    after.connection.language = s.connection.language ∧ ∃ changes news, Farewell changes news ∧
      after.world.notices s.connection.language uri =
        news ++ s.world.notices s.connection.language uri ∧
      ∀ {late : Prop} {trail : List Notice}, (changes ≠ [] → late) →
        Standing (.caring late) uri trail s → Standing (.caring late) uri (news ++ trail) after := by
  have idle {last : Session σ Client} (same : last = s) :
      last.connection.language = s.connection.language ∧ ∃ changes news, Farewell changes news ∧
        last.world.notices s.connection.language uri =
          news ++ s.world.notices s.connection.language uri ∧
        ∀ {late : Prop} {trail : List Notice}, (changes ≠ [] → late) →
          Standing (.caring late) uri trail s →
            Standing (.caring late) uri (news ++ trail) last := by
    subst same
    exact ⟨rfl, [], [], .untold, rfl, fun _ => id⟩
  rcases ends_ite.mp (ends_current_bind.mp ended) with ⟨isOpen, closing⟩ | ⟨_, done⟩
  · rcases ends_bind.mp closing with ⟨_, mid, telling, dropping⟩ | ⟨_, _, telling⟩
    · rcases ends_tell_passed .leaving uri accepting telling with
        ⟨_, _, _, impossible⟩ | ⟨free, opened, unshut, _, ⟨language, changes, each, notices, goes⟩⟩
      · cases impossible
      obtain ⟨_, rfl⟩ := ends_update.mp dropping
      have told : (delivered (Connection.notificationMessage "textDocument/didClose"
          (.obj [("textDocument", .obj [("uri", .str uri)])])) s).world.notices
            s.connection.language uri = .closed :: s.world.notices s.connection.language uri := by
        refine (World.notices_told _ _ _ _).trans ?_
        rw [notice?_close, if_pos rfl]
        rfl
      refine ⟨language, changes, changes ++ [.closed], .told each, ?_, fun may standing => ?_⟩
      · rw [List.append_assoc]
        exact notices.trans (congrArg (changes ++ ·) told)
      · exact standing_of_closed (Option.isSome_iff_exists.mp isOpen)
          (standing.tied_of_loud free opened unshut) may (goes _)
    · rcases ends_tell_passed .leaving uri accepting telling with
        ⟨same, _⟩ | ⟨_, _, _, impossible, _⟩
      · exact idle same
      · cases impossible
  · exact idle (ends_pure.mp done).2

end

end Client

end Scalpel
