import Scalpel.Proofs.EditedFiles
import Scalpel.Proofs.Spoiling
import Scalpel.Proofs.Undoing

/-!
What is left of an edit when a file cannot be opened. The documents of an edit are written one after the
other, and the first file that cannot be opened ends the writing: the client then gets the text of that
file again. The documents before it have been written. Those after it have not, and nobody looks at
them: the client goes on with their new texts while their files hold the old ones.
-/

set_option autoImplicit false

namespace Scalpel

/-! ### Clients that serve -/

namespace Client

variable [Halves] {σ : Type} [Peer σ] {quiet : σ → Prop} {s after : Session σ Client}

theorem ok_of_tell (server : Peer.Receptive quiet) (quietly : quiet s.world.server)
    (serving : Serving s) {method : String} {params : Json} {outcome : Outcome Unit}
    (ended : Ends (notify method params) s outcome after) : outcome = .ok () := by
  obtain ⟨free, opened, unshut⟩ := serving
  cases outcome with
  | ok value => rfl
  | error failure =>
      exfalso
      rcases (untaken_of_tell_error ended).2 free with closed | shut | refused
      · exact absurd (opened.symm.trans closed) nofun
      · exact absurd (unshut.symm.trans shut) nofun
      · have taken : (s.world.reaction s.connection.language
            (Connection.notificationMessage method params)).refusal = none :=
          server.takes _ _ _ quietly
        rw [taken] at refused
        cases refused

theorem ok_of_change (server : Peer.Receptive quiet) (quietly : quiet s.world.server)
    (serving : Serving s) {uri : String} {changes : List ContentChange}
    (isOpen : s.owner.documents.isOpen uri = true) {outcome : Outcome OpenDocument}
    (ended : Ends (change uri changes) s outcome after) : ∃ value, outcome = .ok value := by
  obtain ⟨document, found⟩ := Option.isSome_iff_exists.mp isOpen
  rcases ends_needSession_bind.mp ended with ⟨_, obstructed, _⟩ | ⟨_, requiring⟩
  · cases serving.1.symm.trans obstructed
  rcases ends_settle_bind.mp (ends_current_bind.mp requiring) with ⟨_, unknown, _⟩ | ⟨_, _, updating⟩
  · cases found.symm.trans (Tracker.require_eq_error unknown)
  rcases ends_settle_bind.mp (ends_current_bind.mp updating) with
    ⟨_, impossible, _⟩ | ⟨⟨documents, _⟩, _, setting⟩
  · cases (Tracker.update_of_get? found changes).symm.trans impossible
  rcases ends_bind.mp (ends_update_bind.mp setting) with ⟨tried, mid, telling, last⟩ | ⟨_, _, failed⟩
  · obtain ⟨reached, same, told⟩ := Session.ends_attempt.mp telling
    cases same
    have serving' : Serving (withDocuments s documents) := serving
    have done : tried = .ok () :=
      ok_of_tell (s := withDocuments s documents) server quietly serving' told
    subst done
    have fetched := ends_current_bind.mp last
    obtain ⟨rfl, rfl⟩ := ends_pure.mp fetched
    exact ⟨_, rfl⟩
  · obtain ⟨_, impossible, _⟩ := Session.ends_attempt.mp failed
    cases impossible

theorem ok_of_adopt (server : Peer.Receptive quiet) (quietly : quiet s.world.server)
    (serving : Serving s) {uri content : String} (isOpen : s.owner.documents.isOpen uri = true)
    {outcome : Outcome Unit} (ended : Ends (adopt uri content) s outcome after) :
    outcome = .ok () := by
  obtain ⟨document, found⟩ := Option.isSome_iff_exists.mp isOpen
  have looked := ends_current_bind.mp ended
  rw [show s.owner.documents.get? uri = some document from found] at looked
  rcases ends_ite.mp looked with ⟨_, changing⟩ | ⟨_, idle⟩
  · rcases ends_bind.mp changing with ⟨_, _, _, done⟩ | ⟨_, _, failed⟩
    · exact (ends_pure.mp done).1
    · obtain ⟨_, impossible⟩ := ok_of_change server quietly serving isOpen failed
      cases impossible
  · exact (ends_pure.mp idle).1

end Client

namespace Workspace

variable [Halves] {σ : Type} {w after : Workspace σ} {language uri path : String}

def Serves (w : Workspace σ) (language : String) : Prop :=
  ∃ member, w.member? language = some member ∧ Client.Serving (w.sessionOf member)

/-- The client of a language has the text that the file of a document holds. -/
def Level (w : Workspace σ) (language : String) (encoding : Json) (target : String × String) :
    Prop :=
  ∃ text, Holds w.world.files encoding target.2 text ∧ w.textFor language target.1 = some text

/-! ### Single documents -/

theorem readText_of_read {settings : Settings} {text : String} {outcome : Outcome String}
    (known : w.settings = some settings) (read : Read w settings.encoding uri path text)
    (ended : Ends (readText uri : Operation σ String) w outcome after) :
    outcome = .ok text ∧ after = w.noted path := by
  obtain ⟨⟨named, found⟩, checked, holds⟩ := read
  rcases ends_bind.mp ended with ⟨_, _, needed, locating⟩ | ⟨_, _, needed⟩
  · obtain ⟨same, rfl⟩ := ends_needSettings_known known needed
    cases same
    rcases ends_bind.mp locating with ⟨_, _, located, opening⟩ | ⟨_, _, located⟩
    · obtain ⟨here, rfl⟩ := ends_locate located
      cases here.trans found
      obtain ⟨result, rfl⟩ := ends_settle.mp (ends_get_bind.mp (ends_note_bind.mp opening))
      exact ⟨result.trans (textOf_eq_ok.mpr ⟨checked, holds⟩), rfl⟩
    · obtain ⟨here, _⟩ := ends_locate located
      cases here.trans found
  · cases (ends_needSettings_known known needed).1

variable [Peer σ] {quiet : σ → Prop} {encoding : Json}

/-- A document that is open, whose file can be read and whose client serves, is synchronized. -/
theorem ok_of_synchronize (server : Peer.Receptive quiet) (calm : w.Calm quiet)
    {settings : Settings} {text : String} (known : w.settings = some settings)
    (serves : w.Serves language) (isOpen : w.IsOpen language uri)
    (read : Read w settings.encoding uri path text) {outcome : Outcome Unit}
    (ended : Ends (synchronize language uri) w outcome after) : outcome = .ok () := by
  obtain ⟨member, found, serving⟩ := serves
  obtain ⟨_, same, opened⟩ := isOpen
  cases found.symm.trans same
  rcases ends_bind.mp ended with ⟨_, _, reading, adopting⟩ | ⟨_, _, failed⟩
  · obtain ⟨_, rfl⟩ := readText_of_read known read reading
    rcases ends_onClient.mp adopting with ⟨absent, _, _⟩ | ⟨_, _, here, adopted, _⟩
    · cases found.symm.trans absent
    · cases found.symm.trans here
      exact Client.ok_of_adopt server calm.server serving opened adopted
  · cases (readText_of_read known read failed).1

omit [Halves] [Peer σ] in
theorem same_of_document {outcome : Outcome OpenDocument}
    (ended : Ends (onClient language do
      Session.settle ((← Client.current).documents.require uri)) w outcome after) : after = w := by
  rcases ends_onClient.mp ended with ⟨_, _, rfl⟩ | ⟨member, session, found, required, rfl⟩
  · rfl
  · have settled := Client.ends_current_bind.mp required
    obtain ⟨_, rfl⟩ := Session.ends_settle.mp settled
    exact withSession_sessionOf found

def withLeft (w : Workspace σ) (left : FileTree × List String) : Workspace σ :=
  { w with world := { w.world with files := left.1 }, opened := left.2 }

theorem left_of_writeMirror (ended : Ends (writeMirror language encoding uri path) w (.ok ()) after) :
    ∃ left, after = w.withLeft left := by
  obtain ⟨document, _, looked, putting⟩ := ends_bind_ok.mp ended
  have same := same_of_document looked
  subst same
  obtain ⟨error, mid, put, finishing⟩ := ends_bind_ok.mp putting
  cases ends_putText put with
  | unopened fault =>
      obtain ⟨tried, _, _, raising⟩ := ends_attempt_bind.mp finishing
      have impossible {problem : Problem} {last : Workspace σ}
          (raised : Ends (raise problem : Operation σ Unit) last (.ok ()) after) : False := by
        cases (ends_raise.mp raised).1
      cases tried with
      | ok value => exact (impossible raising).elim
      | error failure =>
          cases failure with
          | problem problem => exact (impossible raising).elim
          | _ => cases (ends_throw.mp raising).1
  | written opened fit =>
      obtain ⟨_, rfl⟩ := ends_pure.mp finishing
      exact ⟨(_, _), rfl⟩

theorem left_of_writeEach {targets : List (String × String)}
    (ended : Ends (doEach targets fun target =>
      writeMirror language encoding target.1 target.2 : Operation σ PUnit) w (.ok PUnit.unit) after) :
    ∃ left, after = w.withLeft left := by
  induction targets generalizing w with
  | nil =>
      obtain ⟨_, rfl⟩ := ends_doEach_nil.mp ended
      exact ⟨(after.world.files, after.opened), rfl⟩
  | cons target rest ih =>
      rcases ends_doEach_cons.mp ended with ⟨mid, ran, remaining⟩ | ⟨_, impossible, _⟩
      · obtain ⟨first, rfl⟩ := left_of_writeMirror ran
        obtain ⟨second, last⟩ := ih remaining
        exact ⟨second, last⟩
      · cases impossible

/-- A document whose file cannot be opened is synchronized with its file, and once it is, the
desynchronisation is reported. -/
theorem ends_writeMirror_unopened {fault : FileTree.Fault} (isOpen : w.IsOpen language uri)
    (checked : checkEncoding encoding = .ok ())
    (unopened : w.world.files.openForWriting path = .error fault) {outcome : Outcome Unit}
    (ended : Ends (writeMirror language encoding uri path) w outcome after) :
    ∃ tried, Ends (synchronize language uri) (w.noted path) tried after ∧ (tried = .ok () →
      outcome = .error (.problem (.mirrorDesync path uri (fault.about path)))) := by
  rcases ends_bind.mp ended with ⟨document, _, looked, putting⟩ | ⟨_, _, failed⟩
  · have same := same_of_document looked
    subst same
    rcases ends_bind.mp putting with ⟨error, mid, put, finishing⟩ | ⟨_, _, put⟩
    · cases ends_putText put with
      | unopened found =>
          cases unopened.symm.trans found
          obtain ⟨tried, last, synchronized, raising⟩ := ends_attempt_bind.mp finishing
          cases tried with
          | ok value =>
              obtain ⟨rfl, rfl⟩ := ends_raise.mp raising
              exact ⟨_, synchronized, fun _ => rfl⟩
          | error failure =>
              refine ⟨.error failure, ?_, nofun⟩
              have same : after = last := by
                cases failure with
                | problem problem => exact (ends_raise.mp raising).2
                | _ => exact (ends_throw.mp raising).2
              rw [same]
              exact synchronized
      | written opened _ => cases unopened.symm.trans opened
    · cases ends_putText put with
      | misnamed unnamed => cases checked.symm.trans unnamed
      | emptied opened _ => cases unopened.symm.trans opened
  · obtain ⟨_, _, ⟨_, impossible, _⟩ | ⟨_, closed⟩⟩ := ends_document failed
    · cases impossible
    · exact absurd isOpen closed

/-! ### The documents of an edit -/

variable {op : EditOperation} {g : Stages σ} {before later : List (String × String)}
  {target other : String × String} {last : Workspace σ}

theorem written_of_writable (spares : Peer.SparesFiles σ)
    (leads : ∀ target ∈ before, ∃ place, w.world.files.Leads target.2 place)
    (checked : checkEncoding encoding = .ok ())
    (writable : ∀ target ∈ before, Writable language encoding w target) {outcome : Outcome PUnit}
    (ended : Ends (doEach before fun target =>
      writeMirror language encoding target.1 target.2 : Operation σ PUnit) w outcome last) :
    outcome = .ok PUnit.unit ∧ Written language encoding w before last ∧
      ∃ left, last = w.withLeft left := by
  cases outcome with
  | ok value =>
      have whole : Ends (writeMirrors language encoding before : Operation σ Unit) w (.ok ()) last :=
        ended.bind.mpr (ends_pure.mpr ⟨rfl, rfl⟩)
      refine ⟨rfl, ?_, left_of_writeEach ended⟩
      rcases ends_writeMirrors spares leads whole with ⟨_, written⟩ | ⟨_, _, _, _, _, _, impossible, _⟩
      · exact written
      · cases impossible
  | error failure =>
      exfalso
      have whole : Ends (writeMirrors language encoding before : Operation σ Unit) w
          (.error failure) last :=
        ends_bind.mpr (.inr ⟨failure, rfl, ended⟩)
      rcases ends_writeMirrors spares leads whole with ⟨impossible, _⟩ |
        ⟨done, stopped, rest, _, _, parted, same, written, wrote⟩
      · cases impossible
      · cases same
        have member : stopped ∈ before := by
          rw [parted]
          exact List.mem_append_right _ List.mem_cons_self
        obtain ⟨⟨⟨_, _, _⟩, opened⟩, text, bytes, had, fit⟩ := writable stopped member
        have unfit := (written.stopped checked opened had wrote).1
        cases fit.symm.trans unfit

theorem Submitted.unwritten (spares : Peer.SparesFiles σ) (submitted : Submitted op w g)
    (apart : w.Apart g.edit) {rest : List (String × String)} (parted : g.targets = before ++ rest)
    (written : Written g.language g.settings.encoding g.ready before last) (member : other ∈ rest)
    {text : String} (holds : Holds w.world.files g.settings.encoding other.2 text) :
    Holds last.world.files g.settings.encoding other.2 text := by
  obtain ⟨first, second⟩ := submitted.grounded spares
  have files : g.ready.world.files = w.world.files := (first.trans second).files
  have listed : other ∈ g.targets := by
    rw [parted]
    exact List.mem_append_right _ member
  have distinct : (g.targets.map fun target => DocumentName.uri target.1).Nodup := by
    rw [← (submitted.toStaged.read spares).1]
    exact submitted.once spares apart
  obtain ⟨named, place, here, leads⟩ := submitted.isAt spares other listed
  have elsewhere : ∀ earlier ∈ before, ¬g.ready.world.files.Leads earlier.2 place := by
    intro earlier found lead
    have earlierListed : earlier ∈ g.targets := by
      rw [parted]
      exact List.mem_append_left _ found
    obtain ⟨earlierNamed, _, there, earlierLeads⟩ := submitted.isAt spares earlier earlierListed
    rw [files] at lead
    cases lead.unique earlierLeads
    have same : DocumentName.uri earlier.1 = DocumentName.uri other.1 :=
      apart.same earlierNamed named there here
    rw [parted, List.map_append, List.nodup_append] at distinct
    exact distinct.2.2 _ (List.mem_map_of_mem found) _ (List.mem_map_of_mem member) same
  have kept : last.world.files.get? place = w.world.files.get? place := by
    rcases written.kept place with ⟨earlier, found, _, _, _, lead, _⟩ | kept
    · exact absurd lead (elsewhere earlier found)
    · rw [kept, files]
  have alike : w.world.files.Alike last.world.files := by
    rw [← files]
    exact written.alike
  obtain ⟨charset, bytes, known, readable, decoded⟩ := holds
  exact ⟨charset, bytes, known, alike.readFile_kept readable leads kept, decoded⟩

/-! ### Operations that report a desynchronisation -/

/-- An edit has been submitted, and among its documents there is a first whose file cannot be opened. -/
structure Stuck (op : EditOperation) (w : Workspace σ) (g : Stages σ)
    (before : List (String × String)) (target : String × String)
    (later : List (String × String)) : Prop extends Due op w g where
  parted : g.targets = before ++ target :: later
  writable : ∀ earlier ∈ before, Writable g.language g.settings.encoding g.ready earlier
  unopened : ∃ fault, g.ready.world.files.openForWriting target.2 = .error fault

theorem Submitted.calm {quiet : σ → Prop} (server : Peer.Quiet quiet fun _ => True)
    (spares : Peer.SparesFiles σ) (calm : w.Calm quiet) (submitted : Submitted op w g) :
    g.ready.Calm quiet := by
  have recording := Client.recording_calmStays server
  have fresh : g.fresh.Calm quiet := (submitted.toStaged.texts server spares calm).1
  exact houses_calmStays.within_onClient (recording.keeping.conduct.tasks.within_applyEdit _ _)
    submitted.ready fresh

/-- What such an operation has come to: the documents before the one that stopped it have been written,
then the client has got the text of that one's file, and the desynchronisation is reported. -/
theorem Stuck.reports (server : Peer.Receptive quiet) (spares : Peer.SparesFiles σ)
    (calm : w.Calm quiet) (stuck : Stuck op w g before target later)
    (serves : g.ready.Serves g.language)
    (readable : ∃ text, Read after g.settings.encoding target.1 target.2 text)
    {outcome : Outcome EditResult} (ended : Ends (perform op) w outcome after) :
    (∃ error, outcome = .ok (failed op (.problem (.mirrorDesync target.2 target.1 error)))) ∧
      ∃ last left, last = g.ready.withLeft left ∧
        Written g.language g.settings.encoding g.ready before last ∧
        Ends (synchronize g.language target.1) last (.ok ()) after := by
  have submitted : Submitted op w g := stuck.toSubmitted
  have leads := submitted.leads spares
  have isOpen := submitted.isOpen spares
  have settings := submitted.loaded spares
  rw [stuck.parted] at leads isOpen
  have checked : checkEncoding g.settings.encoding = .ok () := by
    obtain ⟨_, read⟩ := readable
    exact read.checked
  obtain ⟨result, writing, reports⟩ := stuck.toDue.writes ended
  rw [stuck.parted] at writing
  have looped : ∃ reached, Ends (doEach (before ++ target :: later) fun target =>
      writeMirror g.language g.settings.encoding target.1 target.2 : Operation σ PUnit) g.ready
      reached after ∧ ∀ failure, reached = .error failure → result = .error failure := by
    rcases ends_bind.mp writing with ⟨_, _, each, done⟩ | ⟨failure, same, each⟩
    · obtain ⟨_, rfl⟩ := ends_pure.mp done
      exact ⟨_, each, fun _ impossible => nomatch impossible⟩
    · refine ⟨_, each, fun other same' => ?_⟩
      cases same'
      exact same
  obtain ⟨reached, each, fails⟩ := looped
  have first {reached : Outcome PUnit} {last : Workspace σ}
      (ran : Ends (doEach before fun target =>
        writeMirror g.language g.settings.encoding target.1 target.2 : Operation σ PUnit) g.ready
        reached last) :=
    written_of_writable spares (fun earlier member => leads earlier (List.mem_append_left _ member))
      checked stuck.writable ran
  rcases ends_doEach_append.mp each with ⟨last, ran, rest⟩ | ⟨_, _, ran⟩
  case inr => cases (first ran).1
  obtain ⟨_, written, left, rfl⟩ := first ran
  have alike := written.alike
  obtain ⟨_, unopened⟩ := stuck.unopened
  obtain ⟨fault, unopenedNow⟩ := alike.openForWriting_error unopened
  have openNow : (g.ready.withLeft left).IsOpen g.language target.1 :=
    isOpen target (List.mem_append_right _ List.mem_cons_self)
  rcases ends_doEach_cons.mp rest with ⟨mid, wrote, _⟩ | ⟨failure, same, wrote⟩
  · cases ends_writeMirror spares wrote with
    | written _ opened _ _ _ => cases unopenedNow.symm.trans opened
  · obtain ⟨tried, synchronized, reported⟩ :=
      ends_writeMirror_unopened openNow checked unopenedNow wrote
    have grounded := grounded_synchronize spares synchronized
    obtain ⟨text, readNow⟩ := readable
    have ready := submitted.calm server.toQuiet spares calm
    have calmNow : ((g.ready.withLeft left).noted target.2).Calm quiet :=
      ⟨ready.server, ready.members⟩
    have servesNow : ((g.ready.withLeft left).noted target.2).Serves g.language := serves
    have done : tried = .ok () :=
      ok_of_synchronize server calmNow settings servesNow openNow (grounded.readBefore readNow)
        synchronized
    subst done
    have failed := reported rfl
    cases failed
    have told := reports _ (fails _ same)
    refine ⟨⟨_, told⟩, (g.ready.withLeft left).noted target.2, (left.1, target.2 :: left.2), rfl, ?_,
      synchronized⟩
    exact ⟨written.alike, written.texts, written.kept, written.full, written.fits⟩

/-! ### Files and texts afterwards -/

omit [Peer σ] in
theorem Holds.unique {files : FileTree} {text found : String} (one : Holds files encoding path text)
    (two : Holds files encoding path found) : text = found := by
  obtain ⟨_, _, charset, bytes, decoded⟩ := one
  obtain ⟨_, _, charset', bytes', decoded'⟩ := two
  cases charset.symm.trans charset'
  cases bytes.symm.trans bytes'
  exact Except.ok.inj (decoded.symm.trans decoded')

/-- The client has, for every document of the edit, what its edits make of the text of its file. -/
theorem Submitted.makesOf {quiet : σ → Prop} (server : Peer.Quiet quiet fun _ => True)
    (spares : Peer.SparesFiles σ) (calm : w.Calm quiet) (submitted : Submitted op w g)
    (once : g.edit.names.Nodup) (member : other ∈ g.targets) :
    ∃ change ∈ g.edit.changes, ∃ new,
      Makes w g.settings.encoding change other.1 other.2 new ∧
        g.ready.textFor g.language other.1 = some new := by
  obtain ⟨names, reads⟩ := submitted.toStaged.read spares
  have listed : DocumentName.uri other.1 ∈ g.edit.names := by
    rw [names]
    exact List.mem_map_of_mem member
  obtain ⟨change, given, named⟩ := List.mem_map.mp listed
  obtain ⟨uri, path, new, makes, target, had⟩ :=
    submitted.makes server spares calm once change given
  have sameUri : uri = other.1 := DocumentName.uri.inj (makes.1.symm.trans named)
  subst sameUri
  obtain ⟨text, read⟩ := reads other member
  obtain ⟨name, before, readBefore, fit⟩ := makes
  have samePath : path = other.2 := (readBefore.unique read).1
  subst samePath
  exact ⟨change, given, new, ⟨name, before, readBefore, fit⟩, had⟩

omit [Peer σ] in
theorem Makes.unique {edit : WorkspaceEdit} (once : edit.names.Nodup)
    {change change' : DocumentName × List (TextEdit Json)} (listed : change ∈ edit.changes)
    (listed' : change' ∈ edit.changes) {new new' : String}
    (one : Makes w encoding change uri path new) (two : Makes w encoding change' uri path new') :
    new = new' := by
  obtain ⟨named, before, read, fit⟩ := one
  obtain ⟨named', before', read', fit'⟩ := two
  have same : change = change' :=
    List.inj_on_of_nodup_map once listed listed' (named.trans named'.symm)
  have texts : before = before' := (read.unique read').2
  subst same texts
  exact Except.ok.inj (fit.symm.trans fit')

/-- A document has been left behind: its file holds the text that it had before, and the client has the
one that its edits make of that. -/
def Behind (w after : Workspace σ) (g : Stages σ) (other : String × String) : Prop :=
  ∃ change ∈ g.edit.changes, ∃ old new, Read w g.settings.encoding other.1 other.2 old ∧
    Makes w g.settings.encoding change other.1 other.2 new ∧
    Holds after.world.files g.settings.encoding other.2 old ∧
    after.textFor g.language other.1 = some new

def Unchanging (w : Workspace σ) (g : Stages σ) (other : String × String) : Prop :=
  ∀ change ∈ g.edit.changes, ∀ new, Makes w g.settings.encoding change other.1 other.2 new →
    Read w g.settings.encoding other.1 other.2 new

omit [Peer σ] in
theorem Behind.level_iff (once : g.edit.names.Nodup) (behind : Behind w after g other) :
    after.Level g.language g.settings.encoding other ↔ Unchanging w g other := by
  obtain ⟨change, listed, old, new, read, makes, holds, had⟩ := behind
  constructor
  · rintro ⟨text, there, here⟩
    have same : text = new := Option.some.inj (here.symm.trans had)
    have kept : old = text := holds.unique there
    intro again given made makesAgain
    have made_eq : made = old :=
      (Makes.unique once given listed makesAgain makes).trans (same.symm.trans kept.symm)
    rw [made_eq]
    exact read
  · intro unchanging
    have same : old = new := (read.unique (unchanging change listed new makes)).2
    subst same
    exact ⟨old, holds, had⟩

/-- An edit has been submitted, and the file of one of its documents is the first that cannot be opened.
Then the operation reports the desynchronisation, and if the client still serves and the files can
still be read, then the documents up to that one are level, while those after it have been left behind.
So all documents of the edit are level exactly if the edits of those after it change nothing. The
servers ask for no edits of their own, take every message and leave the files alone, the documents are
in different places, and their new texts can be read back. -/
theorem desync_level_iff (server : Peer.Receptive quiet) (spares : Peer.SparesFiles σ)
    (calm : w.Calm quiet) (stuck : Stuck op w g before target later) (apart : w.Apart g.edit)
    (faithful : ∀ change ∈ g.edit.changes, ∀ uri path text,
      Makes w g.settings.encoding change uri path text → Reversible g.settings.encoding text)
    (serves : g.ready.Serves g.language)
    (readable : ∀ other ∈ g.targets, ∃ text, Read after g.settings.encoding other.1 other.2 text)
    {outcome : Outcome EditResult} (ended : Ends (perform op) w outcome after) :
    (∃ error, outcome = .ok (failed op (.problem (.mirrorDesync target.2 target.1 error)))) ∧
      (∀ other ∈ before ++ [target], after.Level g.language g.settings.encoding other) ∧
      (∀ other ∈ later, Behind w after g other) ∧
      ((∀ other ∈ g.targets, after.Level g.language g.settings.encoding other) ↔
        ∀ other ∈ later, Unchanging w g other) := by
  have submitted : Submitted op w g := stuck.toSubmitted
  have once : g.edit.names.Nodup := submitted.once spares apart
  have parted : g.targets = before ++ target :: later := stuck.parted
  have listed : target ∈ g.targets := by
    rw [parted]
    exact List.mem_append_right _ List.mem_cons_self
  obtain ⟨report, last, files, moved, written, synchronized⟩ :=
    stuck.reports server spares calm serves (readable target listed) ended
  have settingsNow : last.settings = some g.settings := by
    rw [moved]
    exact submitted.loaded spares
  have calmNow : last.Calm quiet := by
    have ready := submitted.calm server.toQuiet spares calm
    rw [moved]
    exact ⟨ready.server, ready.members⟩
  have grounded : Grounded last after := grounded_synchronize spares synchronized
  obtain ⟨way, text, read, taken⟩ := takes_synchronize server.toQuiet calmNow settingsNow synchronized
  have apartNames : ∀ other ∈ before ++ later, other.1 ≠ target.1 := by
    have names := (submitted.toStaged.read spares).1
    rw [names, parted, List.map_append, List.map_cons] at once
    have moved_ := List.nodup_middle.mp once
    rw [List.nodup_cons, ← List.map_append] at moved_
    intro other member same
    exact moved_.1 (List.mem_map.mpr ⟨other, member, congrArg DocumentName.uri same⟩)
  have textNow : ∀ other ∈ before ++ later,
      after.textFor g.language other.1 = g.ready.textFor g.language other.1 := by
    intro other member
    rw [taken other.1, if_neg (apartNames other member), moved]
    rfl
  have behind : ∀ other ∈ later, Behind w after g other := by
    intro other member
    have rest : other ∈ target :: later := List.mem_cons_of_mem _ member
    have known : other ∈ g.targets := by
      rw [parted]
      exact List.mem_append_right _ rest
    obtain ⟨old, readOld⟩ := (submitted.toStaged.read spares).2 other known
    obtain ⟨change, given, new, makes, had⟩ :=
      submitted.makesOf server.toQuiet spares calm once known
    have kept := submitted.unwritten spares apart parted written rest readOld.holds
    rw [← grounded.files] at kept
    have hasNew := textNow other (List.mem_append_right _ member)
    exact ⟨change, given, old, new, readOld, makes, kept, hasNew.trans had⟩
  have level : ∀ other ∈ before ++ [target], after.Level g.language g.settings.encoding other := by
    intro other member
    rcases List.mem_append.mp member with early | here
    · have known : other ∈ g.targets := by
        rw [parted]
        exact List.mem_append_left _ early
      obtain ⟨change, given, new, makes, had⟩ :=
        submitted.makesOf server.toQuiet spares calm once known
      have holds := submitted.holds spares apart (fun earlier found => by
        rw [parted]
        exact List.mem_append_left _ found) written early had (faithful _ given _ _ _ makes)
      rw [← grounded.files] at holds
      have hasNew := textNow other (List.mem_append_left _ early)
      exact ⟨new, holds, hasNew.trans had⟩
    · rw [List.mem_singleton.mp here]
      obtain ⟨found, readNow⟩ := readable target listed
      have same := (grounded.readBefore readNow).unique read
      refine ⟨found, readNow.holds, ?_⟩
      rw [taken target.1, if_pos rfl, same.2]
  refine ⟨report, level, behind, ?_⟩
  rw [parted]
  constructor
  · intro all other member
    have rest : other ∈ before ++ target :: later :=
      List.mem_append_right _ (List.mem_cons_of_mem _ member)
    exact ((behind other member).level_iff once).mp (all other rest)
  · intro unchanging other member
    have split : before ++ target :: later = (before ++ [target]) ++ later := by simp
    rw [split] at member
    rcases List.mem_append.mp member with early | late
    · exact level other early
    · exact ((behind other late).level_iff once).mpr (unchanging other late)

end Workspace

end Scalpel

/-! ### A rename that stops at the second of three files -/

namespace Scalpel.Workspace

local instance desyncHalves : Halves :=
  Halves.trial

def threefoldClerk : Clerk :=
  let renamed : Json := .arr [.obj [("range", (Range.mk ⟨0, 0⟩ ⟨0, 1⟩).toJson), ("newText", .str "g")]]
  { answers := ("textDocument/rename", .obj [("changes", .obj [("file:///w/a.py", renamed),
      ("file:///w/b.py", renamed), ("file:///w/c.py", renamed)])]) :: Clerk.editing.answers }

/-- A workspace with three files, of which the second must not be written. -/
def threefoldWorkspace : Workspace Clerk :=
  { world :=
      { server := threefoldClerk
        files :=
          { entries := [
              ([['w']], .directory),
              ([['w'], ['a', '.', 'p', 'y']], .file [102, 10] 0o644),
              ([['w'], ['b', '.', 'p', 'y']], .file [102, 10] 0o444),
              ([['w'], ['c', '.', 'p', 'y']], .file [102, 10] 0o644)]
            workingDirectory := "/w" } }
    root := "/w"
    settings := some (Clerk.settings (.str "utf-8")) }

def threefoldRename : EditOperation :=
  { kind := .refactor, uri := .str "a.py", symbol := .str "f", newName := .str "g" }

def threefoldEnd : Workspace Clerk :=
  ((perform threefoldRename).run threefoldWorkspace).2

def threefoldTargets : List (String × String) :=
  [("file:///w/a.py", "/w/a.py"), ("file:///w/b.py", "/w/b.py"), ("file:///w/c.py", "/w/c.py")]

def serves? (w : Workspace Clerk) (language : String) : Bool :=
  match w.member? language with
  | some member =>
    member.client.obstacle?.isNone && !member.connection.closed && !member.connection.transportClosed
  | none => false

def threefoldStages : Operation Clerk Bool := do
  let (language, uri, symbol) ← findTarget threefoldRename
  let edit ← onClient language (workOut threefoldRename uri symbol)
  let _ ← settle (Uri.toRelative uri (← get).root)
  let targets ← bringUpToDate language edit
  onClient language (Client.applyEdit edit (labelOf threefoldRename))
  let w ← get
  return decide (language = "py") && !edit.isEmpty && decide (targets = threefoldTargets) &&
    (w.world.files.openForWriting "/w/a.py").isOk && !(w.world.files.openForWriting "/w/b.py").isOk &&
    ((w.textFor language "file:///w/a.py").any fun text =>
      (bytesIn (.str "utf-8") text).isOk) && serves? w language

def placeOf? (w : Workspace Clerk) (uri : String) : Option Place :=
  match w.whereabouts uri with
  | .ok (_, path) =>
    match w.world.files.locate true path with
    | .ok (place, some (.file _ _)) => some place
    | _ => none
  | .error _ => none

private theorem placeOf?_of_isAt {w : Workspace Clerk} {uri : String} {place : Place}
    (here : w.IsAt (.uri uri) place) : w.placeOf? uri = some place := by
  obtain ⟨name, named, path, same, found, _, _, located⟩ := here
  cases same
  unfold placeOf?
  rw [found]
  dsimp only
  rw [located]

private theorem not_isAt_both {w : Workspace Clerk} {one other : String}
    (different : w.placeOf? one ≠ w.placeOf? other) (place : Place)
    (here : w.IsAt (.uri one) place) : ¬w.IsAt (.uri other) place := by
  intro there
  exact different ((placeOf?_of_isAt here).trans (placeOf?_of_isAt there).symm)

private theorem serves_of_serves? {w : Workspace Clerk} {language : String}
    (checked : serves? w language = true) : w.Serves language := by
  unfold serves? at checked
  split at checked
  · next member found =>
    simp only [Bool.and_eq_true, Bool.not_eq_true', Option.isNone_iff_eq_none] at checked
    exact ⟨member, found, checked.1.1, checked.1.2, checked.2⟩
  · cases checked

private theorem stuck_threefold : ∃ g, Stuck threefoldRename threefoldWorkspace g
      [("file:///w/a.py", "/w/a.py")] ("file:///w/b.py", "/w/b.py")
      [("file:///w/c.py", "/w/c.py")] ∧ g.language = "py" ∧
      g.settings = Clerk.settings (.str "utf-8") ∧ g.ready.Serves "py" := by
  have ran : (threefoldStages.run threefoldWorkspace).1.toOption = some true := by
    decide +kernel
  obtain ⟨value, ended⟩ : ∃ value, Ends threefoldStages threefoldWorkspace (.ok value)
      (threefoldStages.run threefoldWorkspace).2 :=
    ends_of_isOk (by decide +kernel)
  rw [show (threefoldStages.run threefoldWorkspace).1 = .ok value from congrArg Prod.fst ended] at ran
  cases Option.some.inj ran
  obtain ⟨⟨language, uri, symbol⟩, known, found, working⟩ := ends_bind_ok.mp ended
  obtain ⟨edit, worked, worked_, naming⟩ := ends_bind_ok.mp working
  rcases ends_settle_bind.mp (ends_get_bind.mp naming) with ⟨_, _, impossible, _⟩ |
    ⟨file, relative, bringing⟩
  · cases impossible
  obtain ⟨targets, fresh, brought, applying⟩ := ends_bind_ok.mp bringing
  obtain ⟨_, ready, applied, looking⟩ := ends_bind_ok.mp applying
  have looked := ends_get_bind.mp looking
  obtain ⟨checked, _⟩ := ends_pure.mp looked
  have all := (Except.ok.inj checked).symm
  simp only [Bool.and_eq_true, decide_eq_true_eq, Bool.not_eq_true'] at all
  obtain ⟨⟨⟨⟨⟨⟨spoken, nonempty⟩, listed⟩, opens⟩, shut⟩, fits⟩, serves⟩ := all
  subst spoken listed
  have files := Client.recording_filesStay Clerk.sparesFiles
  have first := houses_groundStays.within_findTarget files.preparing threefoldRename found
  have second := houses_groundStays.within_onClient
    (within_workOut files.preparing threefoldRename uri symbol) worked_
  have settings : worked.settings = some (Clerk.settings (.str "utf-8")) :=
    (first.trans second).settings rfl
  have writable : Writable "py" (.str "utf-8") ready ("file:///w/a.py", "/w/a.py") := by
    constructor
    · cases opened : ready.world.files.openForWriting "/w/a.py" with
      | ok result => exact ⟨result, rfl⟩
      | error fault =>
          rw [opened] at opens
          cases opens
    · cases had : ready.textFor "py" "file:///w/a.py" with
      | none =>
          rw [had] at fits
          cases fits
      | some text =>
          rw [had] at fits
          change (bytesIn (.str "utf-8") text).isOk = true at fits
          cases encoded : bytesIn (.str "utf-8") text with
          | ok bytes => exact ⟨text, bytes, rfl, encoded⟩
          | error failure =>
              rw [encoded] at fits
              cases fits
  have unopened : ∃ fault, ready.world.files.openForWriting "/w/b.py" = .error fault := by
    cases opened : ready.world.files.openForWriting "/w/b.py" with
    | error fault => exact ⟨fault, rfl⟩
    | ok result =>
        rw [opened] at shut
        cases shut
  refine ⟨⟨"py", uri, symbol, edit, Clerk.settings (.str "utf-8"), threefoldTargets, known, worked,
    fresh, ready⟩, ?_, rfl, rfl, serves_of_serves? serves⟩
  refine ⟨⟨⟨⟨found, worked_, settings, brought⟩, applied⟩, rfl, nonempty, file, relative⟩, rfl, ?_,
    unopened⟩
  intro earlier member
  rw [List.mem_singleton.mp member]
  exact writable

def readable? (w : Workspace Clerk) (target : String × String) : Bool :=
  match w.whereabouts target.1 with
  | .ok (_, path) =>
    decide (path = target.2) &&
      (textOf w.world.files (.str "utf-8") target.1 path).isOk
  | .error _ => false

private theorem read_of_readable? {w : Workspace Clerk} {target : String × String}
    (checked : readable? w target = true) :
    ∃ text, Read w (.str "utf-8") target.1 target.2 text := by
  unfold readable? at checked
  split at checked
  · next name path found =>
    obtain ⟨same, readable⟩ := Bool.and_eq_true_iff.mp checked
    have here : path = target.2 := of_decide_eq_true same
    subst here
    cases text : textOf w.world.files (.str "utf-8") target.1 target.2 with
    | ok text_ =>
        obtain ⟨named, holds⟩ := textOf_eq_ok.mp text
        exact ⟨text_, ⟨name, found⟩, named, holds⟩
    | error failure =>
        rw [text] at readable
        cases readable
  · cases checked

theorem desync_level_iff_of_threefold :
    ∃ g, Stuck threefoldRename threefoldWorkspace g
        [("file:///w/a.py", "/w/a.py")] ("file:///w/b.py", "/w/b.py")
        [("file:///w/c.py", "/w/c.py")] ∧
      threefoldWorkspace.Apart g.edit ∧
      (∀ other ∈ [("file:///w/a.py", "/w/a.py"), ("file:///w/b.py", "/w/b.py")],
        threefoldEnd.Level "py" (.str "utf-8") other) ∧
      Behind threefoldWorkspace threefoldEnd g ("file:///w/c.py", "/w/c.py") ∧
      (threefoldEnd.world.files.readFile "/w/c.py").toOption = some [102, 10] ∧
      threefoldEnd.textFor "py" "file:///w/c.py" = some "g\n" := by
  obtain ⟨g, stuck, language, settings, serves⟩ := stuck_threefold
  have calm : threefoldWorkspace.Calm fun _ => True := ⟨trivial, fun _ _ found => nomatch found⟩
  have names : g.edit.names =
      [.uri "file:///w/a.py", .uri "file:///w/b.py", .uri "file:///w/c.py"] := by
    rw [(stuck.toStaged.read Clerk.sparesFiles).1, stuck.parted]
    rfl
  have apart : threefoldWorkspace.Apart g.edit := by
    unfold Apart
    rw [names]
    have ab : threefoldWorkspace.placeOf? "file:///w/a.py" ≠
        threefoldWorkspace.placeOf? "file:///w/b.py" := by decide +kernel
    have ac : threefoldWorkspace.placeOf? "file:///w/a.py" ≠
        threefoldWorkspace.placeOf? "file:///w/c.py" := by decide +kernel
    have bc : threefoldWorkspace.placeOf? "file:///w/b.py" ≠
        threefoldWorkspace.placeOf? "file:///w/c.py" := by decide +kernel
    simp only [List.pairwise_cons, List.mem_cons, List.not_mem_nil, or_false, forall_eq_or_imp,
      forall_eq, false_imp_iff, implies_true, List.Pairwise.nil, and_true]
    exact ⟨⟨not_isAt_both ab, not_isAt_both ac⟩, not_isAt_both bc⟩
  have readable : ∀ other ∈ g.targets, ∃ text,
      Read threefoldEnd g.settings.encoding other.1 other.2 text := by
    have every : threefoldTargets.all (readable? threefoldEnd) = true := by
      decide +kernel
    rw [settings, stuck.parted]
    intro other member
    exact read_of_readable? (List.all_eq_true.mp every other member)
  have ended : ∃ outcome, Ends (perform threefoldRename) threefoldWorkspace outcome threefoldEnd :=
    ⟨_, rfl⟩
  obtain ⟨outcome, ended⟩ := ended
  have plain : charsetOf g.settings.encoding = .ok .utf8 := by
    rw [settings]
    have named : (charsetOf (.str "utf-8")).toOption = some .utf8 := by decide +kernel
    change charsetOf (.str "utf-8") = .ok .utf8
    cases found : charsetOf (.str "utf-8") with
    | ok charset =>
        rw [found] at named
        exact congrArg Except.ok (Option.some.inj named)
    | error failure =>
        rw [found] at named
        cases named
  obtain ⟨_, level, behind, _⟩ := desync_level_iff Clerk.receptive Clerk.sparesFiles calm stuck apart
    (fun _ _ _ _ text _ => reversible_utf8 plain text) (language ▸ serves) readable ended
  rw [language, settings] at level
  exact ⟨g, stuck, apart, level, behind _ List.mem_cons_self, by decide +kernel, by decide +kernel⟩

end Scalpel.Workspace
