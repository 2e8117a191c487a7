import Scalpel.Proofs.Freshness
import Scalpel.Proofs.Places

/-!
Documents that are written to their files. A file is emptied when it is opened, and gets the bytes of
its text after that; a text that has no bytes in the encoding leaves the file empty. One document is
written after the other, and the first that fails ends the writing.
-/

set_option autoImplicit false

namespace Scalpel.Workspace

variable [Halves] {σ : Type} {w after : Workspace σ} {encoding : Json}

def withFiles (w : Workspace σ) (files : FileTree) : Workspace σ :=
  { w with world := { w.world with files } }

/-- What became of a text for a file that was opened: the encoding has no proper name, the file cannot
be opened, the text has no bytes and the file is empty, or it has the bytes of the text. -/
inductive Put (encoding : Json) (path text : String) (w : Workspace σ) :
    Outcome (Option OsError) → Workspace σ → Prop
  | misnamed {failure} : checkEncoding encoding = .error failure →
    Put encoding path text w (.error failure) w
  | unopened {fault} : w.world.files.openForWriting path = .error fault →
    Put encoding path text w (.ok (some (fault.about path))) w
  | emptied {files place mode failure} :
    w.world.files.openForWriting path = .ok (files, place, mode) →
    bytesIn encoding text = .error failure →
    Put encoding path text w (.error failure)
      (w.withFiles (w.world.files.put place (.file [] mode)))
  | written {files place mode bytes} :
    w.world.files.openForWriting path = .ok (files, place, mode) →
    bytesIn encoding text = .ok bytes →
    Put encoding path text w (.ok none) (w.withFiles (w.world.files.put place (.file bytes mode)))

theorem ends_putText {path text : String} {outcome : Outcome (Option OsError)}
    (ended : Ends (putText encoding path text) w outcome after) :
    Put encoding path text (w.noted path) outcome after := by
  rcases ends_settle_bind.mp (ends_note_bind.mp ended) with
    ⟨failure, unnamed, rfl, rfl⟩ | ⟨_, _, opening⟩
  · exact .misnamed unnamed
  have looked := ends_get_bind.mp opening
  rcases opened : (w.noted path).world.files.openForWriting path with fault | ⟨files, place, mode⟩
  · rw [opened] at looked
    obtain ⟨rfl, rfl⟩ := ends_pure.mp looked
    exact .unopened opened
  · rw [opened] at looked
    obtain ⟨_, same, _⟩ := FileTree.openForWriting_eq_ok opened
    have encoding_ := ends_modifyWorld_bind.mp looked
    rcases ends_settle_bind.mp encoding_ with ⟨failure, unknown, rfl, rfl⟩ | ⟨charset, known, rest⟩
    · rw [same]
      refine .emptied opened ?_
      unfold bytesIn
      rw [unknown]
      rfl
    · rcases ends_settle_bind.mp rest with ⟨failure, unfit, rfl, rfl⟩ | ⟨bytes, fit, placing⟩
      · rw [same]
        refine .emptied opened ?_
        unfold bytesIn
        rw [known]
        exact unfit
      · have placed := ends_modifyWorld_bind.mp placing
        obtain ⟨rfl, rfl⟩ := ends_pure.mp placed
        have written : Put encoding path text (w.noted path) (.ok none)
            ((w.noted path).withFiles (w.world.files.put place (.file bytes mode))) := by
          refine .written opened ?_
          unfold bytesIn
          rw [known]
          exact fit
        rw [same]
        dsimp only
        rw [FileTree.put_put]
        exact written

/-! ### The document of a client -/

def SameTexts (w after : Workspace σ) : Prop :=
  ∀ language uri, after.textFor language uri = w.textFor language uri

def IsOpen (w : Workspace σ) (language uri : String) : Prop :=
  ∃ member, w.member? language = some member ∧ member.client.documents.isOpen uri = true

omit [Halves] in
theorem isOpen_iff_textFor {language uri : String} :
    w.IsOpen language uri ↔ (w.textFor language uri).isSome = true := by
  unfold IsOpen textFor Tracker.text? Tracker.isOpen
  cases w.member? language with
  | none => simp
  | some member => simp

omit [Halves] in
theorem ends_document {language uri : String} {outcome : Outcome OpenDocument}
    (ended : Ends (onClient language do
      Session.settle ((← Client.current).documents.require uri)) w outcome after) :
    after.world = w.world ∧ SameTexts w after ∧
      ((∃ document, outcome = .ok document ∧ w.textFor language uri = some document.content) ∨
        (∃ failure, outcome = .error failure) ∧ ¬w.IsOpen language uri) := by
  rcases ends_onClient.mp ended with ⟨absent, rfl, rfl⟩ | ⟨member, session, found, required, rfl⟩
  · refine ⟨rfl, fun _ _ => rfl, .inr ⟨⟨_, rfl⟩, ?_⟩⟩
    rintro ⟨_, found, _⟩
    cases absent.symm.trans found
  · have settled := Client.ends_current_bind.mp required
    obtain ⟨same, rfl⟩ := Session.ends_settle.mp settled
    refine ⟨world_withSession _ _ _, fun other name => ?_, ?_⟩
    · unfold textFor
      rw [member?_withSession]
      split
      · next here =>
        rw [here, found]
        rfl
      · rfl
    · rw [same]
      cases known : member.client.documents.require uri with
      | ok document =>
          refine .inl ⟨document, known, ?_⟩
          unfold textFor Tracker.text?
          rw [found]
          change (member.client.documents.get? uri).map _ = _
          rw [Tracker.require_eq_ok known]
          rfl
      | error failure =>
          refine .inr ⟨⟨failure, known⟩, ?_⟩
          rw [isOpen_iff_textFor]
          unfold textFor Tracker.text?
          rw [found]
          change ¬((member.client.documents.get? uri).map _).isSome = true
          rw [Tracker.require_eq_error known]
          exact Bool.false_ne_true

/-! ### Single documents -/

variable [Peer σ] {language uri path : String}

/-- What became of a document that was to be written. A file that cannot be opened is reported once the
client has its text again; where that fails for something else, the failure is passed on. -/
inductive Wrote (language : String) (encoding : Json) (uri path : String) (w : Workspace σ) :
    Outcome Unit → Workspace σ → Prop
  | unheld {failure after} : ¬w.IsOpen language uri → after.world.files = w.world.files →
    Wrote language encoding uri path w (.error failure) after
  | misnamed {failure after} : checkEncoding encoding = .error failure →
    after.world.files = w.world.files → Wrote language encoding uri path w (.error failure) after
  | unopened {fault after} : w.world.files.openForWriting path = .error fault →
    after.world.files = w.world.files →
    Wrote language encoding uri path w
      (.error (.problem (.mirrorDesync path uri (fault.about path)))) after
  | lost {fault failure mid after} : w.world.files.openForWriting path = .error fault →
    mid.world = w.world → Ends (synchronize language uri) mid (.error failure) after →
    (∀ problem, failure ≠ .problem problem) → after.world.files = w.world.files →
    Wrote language encoding uri path w (.error failure) after
  | emptied {text files place mode failure after} : w.textFor language uri = some text →
    w.world.files.openForWriting path = .ok (files, place, mode) →
    bytesIn encoding text = .error failure →
    after.world.files = w.world.files.put place (.file [] mode) →
    Wrote language encoding uri path w (.error failure) after
  | written {text files place mode bytes after} : w.textFor language uri = some text →
    w.world.files.openForWriting path = .ok (files, place, mode) →
    bytesIn encoding text = .ok bytes →
    after.world.files = w.world.files.put place (.file bytes mode) → SameTexts w after →
    Wrote language encoding uri path w (.ok ()) after

theorem ends_writeMirror (spares : Peer.SparesFiles σ) {outcome : Outcome Unit}
    (ended : Ends (writeMirror language encoding uri path) w outcome after) :
    Wrote language encoding uri path w outcome after := by
  rcases ends_bind.mp ended with ⟨document, first, looked, putting⟩ | ⟨_, rfl, looked⟩
  · obtain ⟨world, texts, ⟨_, same, had⟩ | ⟨⟨_, impossible⟩, _⟩⟩ := ends_document looked
    · cases same
      have unmoved : (first.noted path).world = w.world := world
      have files : (first.noted path).world.files = w.world.files := congrArg (·.files) unmoved
      rcases ends_bind.mp putting with ⟨_, second, put, rest⟩ | ⟨_, rfl, put⟩
      · cases ends_putText put with
        | unopened fault =>
            rw [files] at fault
            obtain ⟨tried, third, synced, raising⟩ := ends_attempt_bind.mp rest
            have kept : third.world.files = w.world.files :=
              (grounded_synchronize spares synced).files.trans files
            have desync {problem : Problem} (raised : Ends (raise problem : Operation σ Unit) third
                outcome after) : outcome = .error (.problem problem) ∧ after = third :=
              ends_raise.mp raised
            cases tried with
            | ok value =>
                obtain ⟨rfl, rfl⟩ := desync raising
                exact .unopened fault kept
            | error failure =>
                cases failure with
                | problem problem =>
                    obtain ⟨rfl, rfl⟩ := desync raising
                    exact .unopened fault kept
                | _ =>
                    obtain ⟨rfl, rfl⟩ := ends_throw.mp raising
                    exact .lost fault unmoved synced (fun _ same => nomatch same) kept
        | written opened fit =>
            obtain ⟨rfl, rfl⟩ := ends_pure.mp rest
            rw [files] at opened
            refine .written had opened fit ?_ texts
            change (first.noted path).world.files.put _ _ = _
            rw [files]
      · cases ends_putText put with
        | misnamed unnamed => exact .misnamed unnamed files
        | emptied opened unfit =>
            rw [files] at opened
            refine .emptied had opened unfit ?_
            change (first.noted path).world.files.put _ _ = _
            rw [files]
    · cases impossible
  · obtain ⟨world, _, ⟨_, impossible, _⟩ | ⟨_, closed⟩⟩ := ends_document looked
    · cases impossible
    · exact .unheld closed (congrArg (·.files) world)

/-! ### One document after the other -/

variable {done targets : List (String × String)}

def Filled (language : String) (encoding : Json) (w : Workspace σ) (done : List (String × String))
    (files : FileTree) (place : Place) : Prop :=
  ∃ target ∈ done, ∃ text bytes mode, w.world.files.Leads target.2 place ∧
    w.textFor language target.1 = some text ∧ bytesIn encoding text = .ok bytes ∧
    files.get? place = some (.file bytes mode)

/-- Some documents have been written: their files hold texts, and all other files are as before. -/
structure Written (language : String) (encoding : Json) (w : Workspace σ)
    (done : List (String × String)) (after : Workspace σ) : Prop where
  alike : w.world.files.Alike after.world.files
  texts : SameTexts w after
  kept : ∀ place, Filled language encoding w done after.world.files place ∨
    after.world.files.get? place = w.world.files.get? place
  full : ∀ target ∈ done, ∃ place, w.world.files.Leads target.2 place ∧
    Filled language encoding w done after.world.files place
  fits : ∀ target ∈ done, ∃ text bytes, w.textFor language target.1 = some text ∧
    bytesIn encoding text = .ok bytes

omit [Peer σ] in
theorem written_nil : Written language encoding w [] w :=
  ⟨.refl, fun _ _ => rfl, fun _ => .inr rfl, fun _ member => absurd member List.not_mem_nil,
    fun _ member => absurd member List.not_mem_nil⟩

omit [Peer σ] in
theorem Filled.mono {files : FileTree} {place : Place} {target : String × String}
    (filled : Filled language encoding w done files place) :
    Filled language encoding w (done ++ [target]) files place := by
  obtain ⟨other, member, rest⟩ := filled
  exact ⟨other, List.mem_append_left _ member, rest⟩

omit [Peer σ] in
theorem openForWriting_of_written {mid : Workspace σ} {path : String} {place found : Place}
    {files : FileTree} {mode : Nat} (written : Written language encoding w done mid)
    (leads : w.world.files.Leads path place)
    (opened : mid.world.files.openForWriting path = .ok (files, found, mode)) :
    found = place ∧ place ≠ [] ∧
      ∃ content, mid.world.files.get? place = some (.file content mode) := by
  obtain ⟨content, old, located⟩ := leads
  obtain ⟨there, _, named, entry⟩ := FileTree.openForWriting_eq_ok opened
  rw [written.alike.locate, located] at there
  cases there
  refine ⟨rfl, named, ?_⟩
  rcases entry with absent | ⟨bytes, here⟩
  · have form := written.alike.form place
    rw [absent, ← FileTree.entry_of_locate located] at form
    cases form
  · exact ⟨bytes, here⟩

theorem Written.snoc {mid : Workspace σ} {target : String × String} {place : Place}
    (written : Written language encoding w done mid)
    (leads : w.world.files.Leads target.2 place)
    (wrote : Wrote language encoding target.1 target.2 mid (.ok ()) after) :
    Written language encoding w (done ++ [target]) after := by
  cases wrote with
  | @written text files found mode bytes _ had opened fit placed texts =>
      obtain ⟨rfl, named, content, here⟩ := openForWriting_of_written written leads opened
      rw [written.texts] at had
      have fills : Filled language encoding w (done ++ [target]) after.world.files found := by
        refine ⟨target, List.mem_append_right _ List.mem_cons_self, text, bytes, mode, leads, had, fit,
          ?_⟩
        rw [placed, FileTree.get?_put _ named, if_pos rfl]
      have elsewhere {other : Place} (different : other ≠ found) :
          after.world.files.get? other = mid.world.files.get? other := by
        rw [placed, FileTree.get?_put _ named, if_neg different]
      have stays {other : Place} (filled : Filled language encoding w done mid.world.files other) :
          Filled language encoding w (done ++ [target]) after.world.files other := by
        by_cases same : other = found
        · rw [same]
          exact fills
        · obtain ⟨name, member, text, bytes, mode, lead, rest, fit, entry⟩ := filled.mono
          refine ⟨name, member, text, bytes, mode, lead, rest, fit, ?_⟩
          rw [elsewhere same]
          exact entry
      refine ⟨?_, fun language uri => ?_, fun other => ?_, fun name member => ?_,
        fun name member => ?_⟩
      · rw [placed]
        exact written.alike.trans (.put here)
      · rw [texts, written.texts]
      · rcases written.kept other with filled | kept
        · exact .inl (stays filled)
        · by_cases same : other = found
          · rw [same]
            exact .inl fills
          · rw [elsewhere same]
            exact .inr kept
      · rcases List.mem_append.mp member with old | new
        · obtain ⟨other, lead, filled⟩ := written.full name old
          exact ⟨other, lead, stays filled⟩
        · rw [List.mem_singleton.mp new]
          exact ⟨found, leads, fills⟩
      · rcases List.mem_append.mp member with old | new
        · exact written.fits name old
        · rw [List.mem_singleton.mp new]
          exact ⟨text, bytes, had, fit⟩

private theorem ends_writeEach (spares : Peer.SparesFiles σ) {rest : List (String × String)}
    {mid : Workspace σ} {outcome : Outcome PUnit} (written : Written language encoding w done mid)
    (leads : ∀ target ∈ rest, ∃ place, w.world.files.Leads target.2 place)
    (ended : Ends (doEach rest fun target =>
      writeMirror language encoding target.1 target.2 : Operation σ PUnit) mid outcome after) :
    (outcome = .ok PUnit.unit ∧ Written language encoding w (done ++ rest) after) ∨
      ∃ before target later last failure, done ++ rest = before ++ target :: later ∧
        outcome = .error failure ∧ Written language encoding w before last ∧
        Wrote language encoding target.1 target.2 last (.error failure) after := by
  induction rest generalizing done mid with
  | nil =>
      obtain ⟨rfl, rfl⟩ := ends_doEach_nil.mp ended
      rw [List.append_nil]
      exact .inl ⟨rfl, written⟩
  | cons target rest ih =>
      rcases ends_doEach_cons.mp ended with ⟨next, ran, remaining⟩ | ⟨failure, rfl, failed⟩
      · obtain ⟨place, lead⟩ := leads target List.mem_cons_self
        have further := written.snoc lead (ends_writeMirror spares ran)
        have found := ih further (fun other member => leads other (List.mem_cons_of_mem _ member))
          remaining
        rw [List.append_assoc] at found
        exact found
      · exact .inr ⟨done, target, rest, mid, failure, rfl, rfl, written,
          ends_writeMirror spares failed⟩

/-- Either all documents have been written, or some of the first have and the next one has failed. -/
theorem ends_writeMirrors (spares : Peer.SparesFiles σ) {outcome : Outcome Unit}
    (leads : ∀ target ∈ targets, ∃ place, w.world.files.Leads target.2 place)
    (ended : Ends (writeMirrors language encoding targets) w outcome after) :
    (outcome = .ok () ∧ Written language encoding w targets after) ∨
      ∃ before target later last failure, targets = before ++ target :: later ∧
        outcome = .error failure ∧ Written language encoding w before last ∧
        Wrote language encoding target.1 target.2 last (.error failure) after := by
  rcases ends_bind.mp ended with ⟨_, _, looped, done⟩ | ⟨failure, rfl, looped⟩
  · obtain ⟨rfl, rfl⟩ := ends_pure.mp done
    rcases ends_writeEach spares written_nil leads looped with ⟨_, written⟩ | ⟨_, _, _, _, _, _, same, _⟩
    · exact .inl ⟨rfl, written⟩
    · cases same
  · rcases ends_writeEach spares written_nil leads looped with ⟨same, _⟩ | stopped
    · cases same
    · exact .inr stopped

/-! ### Frames that let files change -/

def Writable (language : String) (encoding : Json) (w : Workspace σ) (target : String × String) :
    Prop :=
  (∃ opened, w.world.files.openForWriting target.2 = .ok opened) ∧
    ∃ text bytes, w.textFor language target.1 = some text ∧ bytesIn encoding text = .ok bytes

/-- A document whose file can be opened stops the writing only if its text has no bytes, and then its
file is empty. -/
theorem Written.stopped {last : Workspace σ} {target : String × String} {text : String}
    {files : FileTree} {place : Place} {mode : Nat} {failure : Failure}
    (written : Written language encoding w done last) (checked : checkEncoding encoding = .ok ())
    (opened : w.world.files.openForWriting target.2 = .ok (files, place, mode))
    (had : w.textFor language target.1 = some text)
    (wrote : Wrote language encoding target.1 target.2 last (.error failure) after) :
    bytesIn encoding text = .error failure ∧
      after.world.files.get? place = some (.file [] mode) := by
  have open_ := written.alike.openForWriting opened
  cases wrote with
  | unheld closed _ =>
      refine absurd ?_ closed
      rw [isOpen_iff_textFor, written.texts, had]
      rfl
  | misnamed unnamed _ => cases checked.symm.trans unnamed
  | unopened fault _ => cases fault.symm.trans open_
  | lost fault _ _ _ _ => cases fault.symm.trans open_
  | emptied found now unfit placed =>
      cases now.symm.trans open_
      rw [written.texts, had] at found
      cases found
      obtain ⟨_, _, named, _⟩ := FileTree.openForWriting_eq_ok now
      refine ⟨unfit, ?_⟩
      rw [placed, FileTree.get?_put _ named, if_pos rfl]

/-- The first document whose text has no bytes ends the writing, and its file is empty then. -/
theorem emptied_of_writeMirrors (spares : Peer.SparesFiles σ) {outcome : Outcome Unit}
    {before later : List (String × String)} {target : String × String} {text : String}
    {files : FileTree} {place : Place} {mode : Nat} {failure : Failure}
    (leads : ∀ other ∈ before ++ target :: later, ∃ place, w.world.files.Leads other.2 place)
    (checked : checkEncoding encoding = .ok ())
    (ended : Ends (writeMirrors language encoding (before ++ target :: later)) w outcome after)
    (writable : ∀ earlier ∈ before, Writable language encoding w earlier)
    (opened : w.world.files.openForWriting target.2 = .ok (files, place, mode))
    (had : w.textFor language target.1 = some text)
    (unfit : bytesIn encoding text = .error failure) :
    outcome = .error failure ∧ after.world.files.get? place = some (.file [] mode) := by
  have unwritten {done : List (String × String)} {mid : Workspace σ}
      (written : Written language encoding w done mid) : target ∉ done := by
    intro member
    obtain ⟨_, _, found, fit⟩ := written.fits target member
    cases had.symm.trans found
    cases fit.symm.trans unfit
  rcases ends_writeMirrors spares leads ended with ⟨_, written⟩ |
    ⟨done, stopped, rest, last, reason, parted, rfl, written, wrote⟩
  · exact absurd (List.mem_append_right _ List.mem_cons_self) (unwritten written)
  have here (same : stopped = target) :
      (.error reason : Outcome Unit) = .error failure ∧
        after.world.files.get? place = some (.file [] mode) := by
    subst same
    obtain ⟨fails, empty⟩ := written.stopped checked opened had wrote
    cases fails.symm.trans unfit
    exact ⟨rfl, empty⟩
  rcases List.append_eq_append_iff.mp parted with ⟨extra, longer, rest_⟩ | ⟨extra, shorter, rest_⟩
  · cases extra with
    | nil =>
        cases rest_
        exact here rfl
    | cons first others =>
        cases rest_
        refine absurd ?_ (unwritten written)
        rw [longer]
        exact List.mem_append_right _ List.mem_cons_self
  · cases extra with
    | nil =>
        cases rest_
        exact here rfl
    | cons first others =>
        cases rest_
        have member : stopped ∈ before := by
          rw [shorter]
          exact List.mem_append_right _ List.mem_cons_self
        obtain ⟨⟨⟨_, _, _⟩, open_⟩, text, bytes, found, fit⟩ := writable stopped member
        cases fit.symm.trans (written.stopped checked open_ found wrote).1

section Frames

variable {F : Frame (Workspace σ)} {G : Frame (Session σ Client)}

omit [Peer σ] in
theorem within_putText {path : String} (notes : ∀ w, F.holds w (w.noted path))
    (writes : ∀ w files, F.holds w (w.withFiles files)) (text : String) :
    Within F (putText encoding path text : Operation σ (Option OsError)) := by
  intro w after outcome ended
  cases ends_putText ended with
  | misnamed _ => exact notes w
  | unopened _ => exact notes w
  | emptied _ _ => exact F.trans (notes w) (writes _ _)
  | written _ _ => exact F.trans (notes w) (writes _ _)

theorem Hosts.within_writeMirrors (hosts : Hosts F G) (preparing : Client.Preparing G)
    {targets : List (String × String)} (puts : ∀ target ∈ targets, ∀ text,
      Within F (putText encoding target.2 text : Operation σ (Option OsError))) :
    Within F (writeMirrors language encoding targets : Operation σ Unit) := by
  refine within_bind (within_doEach fun target member => ?_) fun _ => within_pure _
  refine within_bind (hosts.within_onClient ?_) fun document => ?_
  · exact within_bind Client.within_current fun _ => Session.within_settle _
  refine within_bind (puts target member document.content) fun error => ?_
  cases error with
  | none => exact within_pure _
  | some error =>
      refine within_bind (within_attempt (hosts.within_synchronize preparing _ _)) fun tried => ?_
      split
      · exact within_raise _
      · exact within_raise _
      · exact within_throw _

end Frames

end Scalpel.Workspace
