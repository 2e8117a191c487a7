import Scalpel.Proofs.Clerk
import Scalpel.Proofs.Stages

/-!
What writing may do to files. A file is opened before its new text is encoded, so a text that has no
bytes in the encoding leaves an empty file behind. Apart from that every file has the bytes that it had
or those of a complete new text.
-/

set_option autoImplicit false

namespace Scalpel.Workspace

variable [Halves] {σ : Type} {w after : Workspace σ}

/-! ### Documents of an edit -/

section Edits

variable [Peer σ] {op : EditOperation} {g : Stages σ} {result : EditResult}

theorem Submitted.isOpen (spares : Peer.SparesFiles σ) (submitted : Submitted op w g) :
    ∀ target ∈ g.targets, g.ready.IsOpen g.language target.1 := by
  intro target member
  rcases ends_onClient.mp submitted.ready with ⟨_, impossible, _⟩ |
    ⟨client, session, found, applied, last⟩
  · cases impossible
  obtain ⟨opened, _, targeted, _⟩ := ends_bind_ok.mp applied
  obtain ⟨named, isOpen⟩ := (Client.ends_openTargets targeted).2 opened rfl
  have listed : DocumentName.uri target.1 ∈ g.edit.names := by
    rw [(submitted.toStaged.read spares).1]
    exact List.mem_map_of_mem member
  unfold WorkspaceEdit.names at listed
  rw [named] at listed
  obtain ⟨_, change, same⟩ := List.mem_map.mp listed
  obtain ⟨other, given, rfl⟩ := List.mem_map.mp change
  have equal : other.1 = target.1 := DocumentName.uri.inj same
  have kept := Client.recording_opensStay.keeping.conduct.tasks.within_applyEdit _ _ applied
  refine ⟨memberOf session, ?_, kept _ (equal ▸ isOpen other given)⟩
  rw [last, member?_withSession, if_pos rfl]

def Unwritable (g : Stages σ) (target : String × String) (failure : Failure) : Prop :=
  ∃ text, g.ready.textFor g.language target.1 = some text ∧
    bytesIn g.settings.encoding text = .error failure

/-- What an operation has made of a place: it is as it was, or it has the bytes of the complete new
text of a document, or the new text has no bytes and the file is empty. -/
inductive Left (op : EditOperation) (w : Workspace σ) (result : EditResult) (after : Workspace σ)
    (place : Place) : Prop
  | kept : after.world.files.get? place = w.world.files.get? place → Left op w result after place
  | filled {g target text bytes mode} : Submitted op w g → target ∈ g.targets →
    w.world.files.Leads target.2 place → g.ready.textFor g.language target.1 = some text →
    bytesIn g.settings.encoding text = .ok bytes →
    after.world.files.get? place = some (.file bytes mode) → Left op w result after place
  | emptied {g target failure mode} : Submitted op w g → target ∈ g.targets →
    w.world.files.Leads target.2 place → Unwritable g target failure →
    result = failed op failure → after.world.files.get? place = some (.file [] mode) →
    Left op w result after place

/-- Why an operation that fails may have changed files without telling that client and files differ:
it has emptied one, or a file could not be opened and the client could not get its text back. -/
inductive Spoilt (op : EditOperation) (w : Workspace σ) (result : EditResult)
    (after : Workspace σ) : Prop
  | emptied {g target failure place mode} : Submitted op w g → target ∈ g.targets →
    w.world.files.Leads target.2 place → Unwritable g target failure →
    result = failed op failure → after.world.files.get? place = some (.file [] mode) →
    Spoilt op w result after
  | unrestored {g target failure fault mid} : Submitted op w g → target ∈ g.targets →
    mid.world.files.openForWriting target.2 = .error fault →
    Ends (synchronize g.language target.1) mid (.error failure) after →
    (∀ problem, failure ≠ .problem problem) → result = failed op failure →
    Spoilt op w result after

variable {done : List (String × String)} {mid : Workspace σ}

/-- Where the first documents of an edit have been written, each place is as it was or has the bytes of
one of them. -/
theorem left_of_written (spares : Peer.SparesFiles σ) (submitted : Submitted op w g)
    (some_ : ∀ target ∈ done, target ∈ g.targets)
    (written : Written g.language g.settings.encoding g.ready done mid) {place : Place}
    (same : after.world.files.get? place = mid.world.files.get? place) :
    Left op w result after place := by
  obtain ⟨first, second⟩ := submitted.grounded spares
  have files : g.ready.world.files = w.world.files := (first.trans second).files
  rcases written.kept place with ⟨target, member, _, _, _, leads, had, fit, entry⟩ | kept
  · rw [files] at leads
    exact .filled submitted (some_ target member) leads had fit (same.trans entry)
  · rw [files] at kept
    exact .kept (same.trans kept)

private theorem code_mirrorDesync (op : EditOperation) (path uri : String) (error : OsError) :
    (failed op (.problem (.mirrorDesync path uri error))).error =
      some Problem.Kind.mirrorDesync.code :=
  rfl

/-- An operation whose documents were not all written has left each place as it may be, and it has told
that client and files differ unless it has spoilt something. -/
theorem left_of_unwritten (spares : Peer.SparesFiles σ) (submitted : Submitted op w g)
    {failure : Failure}
    (ended : Ends (writeMirrors g.language g.settings.encoding g.targets) g.ready (.error failure)
      after) :
    (∀ place, Left op w (failed op failure) after place) ∧
      ((failed op failure).error ≠ some Problem.Kind.mirrorDesync.code →
        Spoilt op w (failed op failure) after) := by
  obtain ⟨first, second⟩ := submitted.grounded spares
  have files : g.ready.world.files = w.world.files := (first.trans second).files
  rcases ends_writeMirrors spares (submitted.leads spares) ended with ⟨impossible, _⟩ |
    ⟨before, target, later, last, _, parted, same, written, wrote⟩
  · cases impossible
  cases same
  have member : target ∈ g.targets := by
    rw [parted]
    exact List.mem_append_right _ List.mem_cons_self
  have earlier : ∀ target ∈ before, target ∈ g.targets := by
    intro other found
    rw [parted]
    exact List.mem_append_left _ found
  have unchanged (same : after.world.files = last.world.files) (place : Place) :
      Left op w (failed op failure) after place :=
    left_of_written spares submitted earlier written (by rw [same])
  cases wrote with
  | unheld closed _ =>
      refine absurd ?_ closed
      rw [isOpen_iff_textFor, written.texts, ← isOpen_iff_textFor]
      exact submitted.isOpen spares target member
  | misnamed unnamed _ =>
      obtain ⟨_, read⟩ := (submitted.toStaged.read spares).2 target member
      cases read.checked.symm.trans unnamed
  | unopened _ same =>
      exact ⟨unchanged same, fun other => absurd (code_mirrorDesync op _ _ _) other⟩
  | lost fault world synced other same =>
      exact ⟨unchanged same, fun _ => .unrestored submitted member (world ▸ fault) synced other rfl⟩
  | @emptied text _ found mode _ _ had opened unfit placed =>
      obtain ⟨place, lead⟩ := submitted.leads spares target member
      obtain ⟨rfl, named, _⟩ := openForWriting_of_written written lead opened
      rw [written.texts] at had
      have unwritable : Unwritable g target failure := ⟨text, had, unfit⟩
      rw [files] at lead
      have empty : after.world.files.get? found = some (.file [] mode) := by
        rw [placed, FileTree.get?_put _ named, if_pos rfl]
      refine ⟨fun place => ?_, fun _ => .emptied submitted member lead unwritable rfl empty⟩
      by_cases here : place = found
      · rw [here]
        exact .emptied submitted member lead unwritable rfl empty
      · refine left_of_written spares submitted earlier written ?_
        rw [placed, FileTree.get?_put _ named, if_neg here]

/-- Every place is left as it may be, and an operation that fails without telling that client and files
differ has changed no file unless it has spoilt something. -/
theorem left_of_perform (spares : Peer.SparesFiles σ)
    (ended : Ends (perform op) w (.ok result) after) :
    (∀ place, Left op w result after place) ∧
      (result.success = false → result.error ≠ some Problem.Kind.mirrorDesync.code →
        after.world.files = w.world.files ∨ Spoilt op w result after) := by
  obtain ⟨_, same, tried | ⟨failure, rfl, tried⟩⟩ := ends_perform spares ended
  · cases same
    cases tried with
    | idle grounded _ _ =>
        exact ⟨fun _ => .kept (by rw [grounded.files]), fun _ _ => .inl grounded.files⟩
    | written submitted writing succeeded _ =>
        rcases ends_writeMirrors spares (submitted.leads spares) writing with ⟨_, written⟩ |
          ⟨_, _, _, _, _, _, impossible, _⟩
        · refine ⟨fun _ => left_of_written spares submitted (fun _ => id) written rfl, ?_⟩
          exact fun failed => absurd (succeeded.symm.trans failed) Bool.true_eq_false.mp
        · cases impossible
  · cases same
    cases tried with
    | failed grounded =>
        exact ⟨fun _ => .kept (by rw [grounded.files]), fun _ _ => .inl grounded.files⟩
    | unwritten submitted writing =>
        obtain ⟨left, spoilt⟩ := left_of_unwritten spares submitted writing
        exact ⟨left, fun _ other => .inr (spoilt other)⟩

/-- An operation is to write a document whose new text has no bytes, to a file that can be opened; all
documents before it can be written. -/
structure Doomed (op : EditOperation) (w : Workspace σ) (g : Stages σ) (failure : Failure)
    (place : Place) (mode : Nat) : Prop extends Due op w g where
  first : ∃ before target later, g.targets = before ++ target :: later ∧
    (∀ earlier ∈ before, Writable g.language g.settings.encoding g.ready earlier) ∧
    (∃ files, w.world.files.openForWriting target.2 = .ok (files, place, mode)) ∧
    Unwritable g target failure

theorem emptied_of_perform (spares : Peer.SparesFiles σ) {failure : Failure} {place : Place}
    {mode : Nat} (doomed : Doomed op w g failure place mode)
    (ended : Ends (perform op) w (.ok result) after) :
    result = failed op failure ∧ after.world.files.get? place = some (.file [] mode) := by
  obtain ⟨before, target, later, parted, writable, ⟨files, opened⟩, text, had, unfit⟩ :=
    doomed.first
  have submitted := doomed.toSubmitted
  obtain ⟨first, second⟩ := submitted.grounded spares
  have member : target ∈ g.targets := by
    rw [parted]
    exact List.mem_append_right _ List.mem_cons_self
  obtain ⟨_, read⟩ := (submitted.toStaged.read spares).2 target member
  obtain ⟨written, writing, fails⟩ := doomed.toDue.writes ended
  have leads := submitted.leads spares
  rw [parted] at leads writing
  rw [← (first.trans second).files] at opened
  obtain ⟨rfl, empty⟩ := emptied_of_writeMirrors spares leads read.checked writing writable opened
    had unfit
  cases fails failure rfl
  exact ⟨rfl, empty⟩

end Edits

/-! ### Documents that are written at once -/

def Extended (t made : FileTree) : Prop :=
  ∀ place, made.get? place = t.get? place ∨
    (t.get? place = none ∧ made.get? place = some .directory)

omit [Halves] in
theorem Extended.trans {t mid made : FileTree} (first : Extended t mid)
    (second : Extended mid made) : Extended t made := by
  intro place
  rcases second place with same | ⟨absent, here⟩
  · rw [same]
    exact first place
  · rcases first place with same | ⟨_, there⟩
    · exact .inr ⟨same.symm.trans absent, here⟩
    · cases absent.symm.trans there

theorem extended_makeDirectory {t made : FileTree} {path : String}
    (done : t.makeDirectory path = .ok made) : Extended t made := by
  intro place
  unfold FileTree.makeDirectory at done
  split at done
  · cases done
  · cases done
  · next found located =>
    cases done
    have absent : t.get? found = none := (FileTree.entry_of_locate located).symm
    have named : found ≠ [] := by
      rintro rfl
      cases absent
    rw [FileTree.get?_put t named]
    by_cases here : place = found
    · rw [if_pos here, here]
      exact .inr ⟨absent, rfl⟩
    · rw [if_neg here]
      exact .inl rfl

theorem extended_makeDirectories (t : FileTree) (paths : List String) :
    Extended t (makeDirectories t paths).1 := by
  induction paths generalizing t with
  | nil => exact fun _ => .inl rfl
  | cons path rest ih =>
      unfold makeDirectories
      split
      · exact ih t
      · split
        · next made done => exact (extended_makeDirectory done).trans (ih made)
        · split
          · exact ih t
          · exact fun _ => .inl rfl

/-- The files with the directories of a path, and the error if they could not be made. -/
def withWay (t : FileTree) (path : String) : FileTree × Option OsError :=
  makeDirectories t (waysTo (String.ofList (Path.directory path.toList)))

/-- The file of a document can be opened for writing, at a place and with a mode. -/
def Opens (w : Workspace σ) (uri : String) (place : Place) (mode : Nat) : Prop :=
  ∃ named path made files, w.whereabouts uri = .ok (named, path) ∧
    withWay w.world.files path = (made, none) ∧
    made.openForWriting path = .ok (files, place, mode)

/-- What writing a document has made of a place: it is as it was, or a new directory, or it has the
bytes of the text, or the text has no bytes and the file is empty. -/
inductive Stored (uri text : String) (w : Workspace σ) (outcome : Outcome Unit)
    (after : Workspace σ) (place : Place) : Prop
  | kept : after.world.files.get? place = w.world.files.get? place →
    Stored uri text w outcome after place
  | made : w.world.files.get? place = none → after.world.files.get? place = some .directory →
    Stored uri text w outcome after place
  | filled {settings : Settings} {bytes mode} : after.settings = some settings →
    Opens w uri place mode → bytesIn settings.encoding text = .ok bytes → outcome = .ok () →
    after.world.files.get? place = some (.file bytes mode) → Stored uri text w outcome after place
  | emptied {settings : Settings} {failure mode} : after.settings = some settings →
    Opens w uri place mode → bytesIn settings.encoding text = .error failure →
    outcome = .error failure → after.world.files.get? place = some (.file [] mode) →
    Stored uri text w outcome after place

/-- How the writing of a document goes: there are no settings, or it has no place, or its directories
cannot be made, or its text is put. -/
inductive Storing (uri text : String) (w : Workspace σ) : Outcome Unit → Workspace σ → Prop
  | unsettled {failure last} : last.settings = none → last.world.files = w.world.files →
    last.opened = w.opened → Storing uri text w (.error failure) last
  | lost {failure last} : w.whereabouts uri = .error failure →
    last.world.files = w.world.files → last.opened = w.opened →
    Storing uri text w (.error failure) last
  | blocked {named path made error failure last} : w.whereabouts uri = .ok (named, path) →
    withWay w.world.files path = (made, some error) → last.world.files = made →
    last.opened = w.opened → Storing uri text w (.error failure) last
  | put {settings : Settings} {named path made base result outcome last} :
    w.whereabouts uri = .ok (named, path) → withWay w.world.files path = (made, none) →
    base.world.files = made → base.opened = path :: w.opened → last.settings = some settings →
    Put settings.encoding path text base result last →
    (∀ failure, result = .error failure → outcome = .error failure) →
    (result = .ok none ↔ outcome = .ok ()) → Storing uri text w outcome last

theorem ends_writeText {uri text : String} {outcome : Outcome Unit}
    (ended : Ends (writeText uri text : Operation σ Unit) w outcome after) :
    Storing uri text w outcome after := by
  rcases ends_bind.mp ended with ⟨settings, mid, needed, locating⟩ | ⟨failure, rfl, needed⟩
  · obtain rfl := ends_needSettings needed
    rcases ends_bind.mp locating with ⟨⟨named, path⟩, _, located, writing⟩ | ⟨failure, rfl, located⟩
    · obtain ⟨found, rfl⟩ := ends_locate located
      have way := ends_get_bind.mp writing
      dsimp only at way
      rcases prepared : withWay w.world.files path with ⟨made, error⟩
      unfold withWay at prepared
      rw [prepared] at way
      have going := ends_modifyWorld_bind.mp way
      cases error with
      | some error =>
          obtain ⟨rfl, rfl⟩ := ends_raise.mp going
          exact .blocked found.symm prepared rfl rfl
      | none =>
          have kept {base : Workspace σ} {result last} (known : base.settings = some settings)
              (put : Put settings.encoding path text base result last) :
              last.settings = some settings := by
            cases put <;> exact known
          rcases ends_bind.mp going with ⟨result, last, putting, rest⟩ | ⟨failure, rfl, putting⟩
          · have put := ends_putText putting
            cases result with
            | none =>
                obtain ⟨rfl, rfl⟩ := ends_pure.mp rest
                exact .put found.symm prepared rfl rfl (kept rfl put) put (fun _ same => nomatch same)
                  (by simp)
            | some error =>
                obtain ⟨rfl, rfl⟩ := ends_raise.mp rest
                exact .put found.symm prepared rfl rfl (kept rfl put) put (fun _ same => nomatch same)
                  (by simp)
          · have put := ends_putText putting
            exact .put found.symm prepared rfl rfl (kept rfl put) put (fun _ same => by cases same; rfl)
              (by simp)
    · obtain ⟨found, rfl⟩ := ends_locate located
      exact .lost found.symm rfl rfl
  · have looked := ends_get_bind.mp needed
    split at looked
    · cases (ends_pure.mp looked).1
    · next unset =>
      rcases ends_settle_bind.mp looked with ⟨_, _, _, rfl⟩ | ⟨_, _, loading⟩
      · exact .unsettled unset rfl rfl
      · rcases ends_bind.mp loading with ⟨_, _, _, done⟩ | ⟨_, _, failed⟩
        · cases (ends_pure.mp done).1
        · cases (ends_modify.mp failed).1

private theorem stored_of_extended {uri text path : String} {outcome : Outcome Unit}
    {made : FileTree} {error : Option OsError} {place : Place}
    (prepared : withWay w.world.files path = (made, error))
    (same : after.world.files.get? place = made.get? place) :
    Stored uri text w outcome after place := by
  have grown := extended_makeDirectories w.world.files
    (waysTo (String.ofList (Path.directory path.toList))) place
  unfold withWay at prepared
  rw [prepared] at grown
  rcases grown with kept | ⟨absent, directory⟩
  · exact .kept (same.trans kept)
  · exact .made absent (same.trans directory)

theorem stored_of_writeText {uri text : String} {outcome : Outcome Unit}
    (ended : Ends (writeText uri text : Operation σ Unit) w outcome after) (place : Place) :
    Stored uri text w outcome after place := by
  cases ends_writeText ended with
  | unsettled _ files _ => exact .kept (by rw [files])
  | lost _ files _ => exact .kept (by rw [files])
  | blocked _ prepared files _ => exact stored_of_extended prepared (by rw [files])
  | @put _ _ _ _ base _ _ _ found prepared files _ known put fails succeeds =>
      cases put with
      | misnamed _ => exact stored_of_extended prepared (by rw [files])
      | unopened _ => exact stored_of_extended prepared (by rw [files])
      | @emptied _ there mode failure opened unfit =>
          rw [files] at opened
          obtain ⟨_, _, named, _⟩ := FileTree.openForWriting_eq_ok opened
          have placed (other : Place) := FileTree.get?_put base.world.files named (.file [] mode) other
          by_cases here : place = there
          · subst here
            exact .emptied known ⟨_, _, _, _, found, prepared, opened⟩ unfit (fails _ rfl)
              ((placed place).trans (if_pos rfl))
          · refine stored_of_extended prepared ((placed place).trans ?_)
            rw [if_neg here, files]
      | @written _ there mode bytes opened fit =>
          rw [files] at opened
          obtain ⟨_, _, named, _⟩ := FileTree.openForWriting_eq_ok opened
          have placed (other : Place) := FileTree.get?_put base.world.files named (.file bytes mode) other
          by_cases here : place = there
          · subst here
            exact .filled known ⟨_, _, _, _, found, prepared, opened⟩ fit (succeeds.mp rfl)
              ((placed place).trans (if_pos rfl))
          · refine stored_of_extended prepared ((placed place).trans ?_)
            rw [if_neg here, files]

theorem emptied_of_writeText {uri text : String} {outcome : Outcome Unit} {settings : Settings}
    {place : Place} {mode : Nat} {failure : Failure}
    (ended : Ends (writeText uri text : Operation σ Unit) w outcome after)
    (loaded : after.settings = some settings) (opens : Opens w uri place mode)
    (checked : checkEncoding settings.encoding = .ok ())
    (unfit : bytesIn settings.encoding text = .error failure) :
    outcome = .error failure ∧ after.world.files.get? place = some (.file [] mode) := by
  obtain ⟨_, _, _, _, there, way, opened⟩ := opens
  cases ends_writeText ended with
  | unsettled unset _ _ => cases unset.symm.trans loaded
  | lost nowhere _ _ => cases nowhere.symm.trans there
  | blocked found prepared _ _ =>
      cases found.symm.trans there
      cases prepared.symm.trans way
  | put found prepared files _ known put fails succeeds =>
      cases found.symm.trans there
      cases prepared.symm.trans way
      cases known.symm.trans loaded
      rw [← files] at opened
      cases put with
      | misnamed unnamed => cases checked.symm.trans unnamed
      | unopened fault => cases fault.symm.trans opened
      | emptied opened_ unfit_ =>
          cases opened_.symm.trans opened
          cases unfit_.symm.trans unfit
          obtain ⟨_, _, named, _⟩ := FileTree.openForWriting_eq_ok opened
          exact ⟨fails _ rfl, (FileTree.get?_put _ named _ _).trans (if_pos rfl)⟩
      | written _ fit => cases fit.symm.trans unfit

/-- A place is as it was after an operation or after a document was written, or it has all bytes of a
new text, unless that text has no bytes in the encoding; then its file is emptied. Where an operation
fails without telling that client and files differ, or writing fails, nothing has changed but for that
and for a client that could not get its text back. -/
theorem writing_keeps_fills_or_empties [Peer σ] (spares : Peer.SparesFiles σ)
    (w after : Workspace σ) :
    (∀ op result, Ends (perform op) w (.ok result) after →
      (∀ place, Left op w result after place) ∧
        (result.success = false → result.error ≠ some Problem.Kind.mirrorDesync.code →
          after.world.files = w.world.files ∨ Spoilt op w result after) ∧
        ∀ g failure place mode, Doomed op w g failure place mode →
          result = failed op failure ∧ after.world.files.get? place = some (.file [] mode)) ∧
    ∀ uri text outcome, Ends (writeText uri text) w outcome after →
      (∀ place, Stored uri text w outcome after place) ∧
        ∀ settings place mode failure, after.settings = some settings → Opens w uri place mode →
          checkEncoding settings.encoding = .ok () →
          bytesIn settings.encoding text = .error failure →
          outcome = .error failure ∧ after.world.files.get? place = some (.file [] mode) := by
  refine ⟨fun op result ended => ?_, fun uri text outcome ended => ?_⟩
  · obtain ⟨left, spoilt⟩ := left_of_perform spares ended
    exact ⟨left, spoilt, fun _ _ _ _ doomed => emptied_of_perform spares doomed ended⟩
  · exact ⟨stored_of_writeText ended, fun _ _ _ _ loaded opens checked unfit =>
      emptied_of_writeText ended loaded opens checked unfit⟩

end Scalpel.Workspace

/-! ### A text without bytes -/

namespace Scalpel.Workspace

local instance spoilingHalves : Halves :=
  Halves.trial

/-- A workspace with one file, in an encoding that has no accents. -/
def plainWorkspace : Workspace Clerk :=
  Clerk.workspace (.str "ascii")

def accentedReplace : EditOperation :=
  { kind := .replace, uri := .str "a.py", symbol := .str "f", code := .str "caf\u00e9" }

def spoiltByEdit : Outcome EditResult × Workspace Clerk :=
  (perform accentedReplace).run plainWorkspace

def spoiltByText : Outcome Unit × Workspace Clerk :=
  (writeText "a.py" "caf\u00e9").run plainWorkspace

def hasFailed (code : String) : Outcome EditResult → Bool
  | .ok result => !result.success && decide (result.error = some code)
  | .error _ => false

theorem writing_keeps_fills_or_empties_of_accent :
    (plainWorkspace.world.files.readFile "/w/a.py").toOption = some [102, 32, 61, 32, 49, 10] ∧
      (∃ result, Ends (perform accentedReplace) plainWorkspace (.ok result) spoiltByEdit.2 ∧
        (spoiltByEdit.2.world.files.readFile "/w/a.py").toOption = some [] ∧
        result.success = false ∧ Spoilt accentedReplace plainWorkspace result spoiltByEdit.2) ∧
      (∃ failure, Ends (writeText "a.py" "caf\u00e9") plainWorkspace (.error failure)
        spoiltByText.2 ∧
        (spoiltByText.2.world.files.readFile "/w/a.py").toOption = some [] ∧
        ∀ place, Stored "a.py" "caf\u00e9" plainWorkspace (.error failure) spoiltByText.2 place) := by
  have before : (plainWorkspace.world.files.readFile "/w/a.py").toOption =
      some [102, 32, 61, 32, 49, 10] := by
    decide +kernel
  have edited : (spoiltByEdit.2.world.files.readFile "/w/a.py").toOption = some [] := by
    decide +kernel
  have stored : (spoiltByText.2.world.files.readFile "/w/a.py").toOption = some [] := by
    decide +kernel
  obtain ⟨byEdit, byText⟩ := And.intro
    (writing_keeps_fills_or_empties Clerk.sparesFiles plainWorkspace spoiltByEdit.2).1
    (writing_keeps_fills_or_empties Clerk.sparesFiles plainWorkspace spoiltByText.2).2
  refine ⟨before, ?_, ?_⟩
  · have checked : hasFailed "INTERNAL_ERROR" spoiltByEdit.1 = true := by
      decide +kernel
    rcases ran : spoiltByEdit with ⟨_ | result, after⟩
    · rw [ran] at checked
      cases checked
    · rw [ran] at checked edited byEdit
      obtain ⟨failed, code⟩ := Bool.and_eq_true_iff.mp checked
      have success : result.success = false := Bool.not_eq_eq_eq_not.mp failed
      refine ⟨result, ran, edited, success, ?_⟩
      rcases (byEdit accentedReplace result ran).2.1 success (by
        rw [of_decide_eq_true code]
        decide) with same | spoilt
      · rw [same, before] at edited
        cases edited
      · exact spoilt
  · have checked : spoiltByText.1.isOk = false := by decide +kernel
    rcases ran : spoiltByText with ⟨failure | value, after⟩
    · rw [ran] at stored byText
      exact ⟨failure, ran, stored, (byText "a.py" "caf\u00e9" (.error failure) ran).1⟩
    · rw [ran] at checked
      cases checked

end Scalpel.Workspace
