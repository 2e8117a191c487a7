import Scalpel.Proofs.Clerk
import Scalpel.Proofs.Confinement

/-!
Documents outside the root. Whoever asks for one is refused before anything is opened; where the answer
of a server names one, the edit is given up before the client is told to apply it and before any file is
written.
-/

set_option autoImplicit false

namespace Scalpel

/-! ### Messages -/

def Submits (message : Json) : Prop :=
  message.field? "method" = some (.str "workspace/applyEdit")

def Withheld {σ : Type} (before after : World σ) : Prop :=
  ∃ new, after.sent = new ++ before.sent ∧ ∀ entry ∈ new, ¬Submits entry.2

section Withheld

variable {σ : Type} {a b c : World σ}

theorem withheld_of_same (same : b.sent = a.sent) : Withheld a b :=
  ⟨[], same, fun _ member => absurd member List.not_mem_nil⟩

theorem Withheld.trans (first : Withheld a b) (second : Withheld b c) : Withheld a c := by
  obtain ⟨one, before, none⟩ := first
  obtain ⟨two, after, neither⟩ := second
  refine ⟨two ++ one, ?_, fun entry member => ?_⟩
  · rw [after, before, List.append_assoc]
  · exact (List.mem_append.mp member).elim (neither entry) (none entry)

end Withheld

namespace Client

variable {σ : Type} {method : String}

private theorem withheld_of_method {message : Json}
    (named : message.field? "method" = some (.str method)) (other : method ≠ "workspace/applyEdit") :
    ¬Submits message := by
  intro submits
  exact other (Json.str.inj (Option.some.inj (named.symm.trans submits)))

theorem withheld_notice (other : method ≠ "workspace/applyEdit") :
    FitNotice (fun message => ¬Submits message) method :=
  fun _ => withheld_of_method rfl other

theorem withheld_request (other : method ≠ "workspace/applyEdit") :
    FitRequest (fun message => ¬Submits message) method :=
  fun _ _ => withheld_of_method rfl other

def withholding : Frame (Session σ Client) where
  holds s after := Withheld s.world after.world
  refl _ := withheld_of_same rfl
  trans := Withheld.trans

variable [Halves] [Peer σ]

/-- Whatever is asked of a client before an edit is applied, the client does not submit one. -/
theorem preparing_withholding : Preparing (withholding : Frame (Session σ Client)) := by
  have roomy : Roomy (withholding : Frame (Session σ Client)) := fun _ _ _ => withheld_of_same rfl
  have routine : Routine (withholding : Frame (Session σ Client)) fun message => ¬Submits message := by
    refine .ofFitting (fun _ _ _ => withheld_of_same rfl) (fun _ => withheld_of_same rfl)
      (fun _ _ => withheld_of_same rfl) roomy (fun {message} other => ?_) (fun number outcome => ?_)
      (withheld_notice (by decide))
    · refine Session.within_emit (fun s => ?_) fun _ _ => withheld_of_same rfl
      refine ⟨[(s.connection.language, message)], rfl, fun entry member => ?_⟩
      rw [List.mem_singleton.mp member]
      exact other
    · intro submits
      cases outcome <;> cases submits
  refine routine.preparing ⟨⟨withheld_request (by decide), withheld_notice (by decide)⟩,
    withheld_notice (by decide), withheld_notice (by decide), withheld_request (by decide),
    withheld_request (by decide)⟩ roomy fun before s after outcome ended => ?_
  rcases ends_launch ended with ⟨_, _, _, _, rfl⟩ | ⟨_, _, _, _, rfl⟩
  · exact withheld_of_same rfl
  · exact withheld_of_same rfl

end Client

namespace Workspace

variable {σ : Type} {w after : Workspace σ}

def withholding : Frame (Workspace σ) where
  holds w after := Withheld w.world after.world
  refl _ := withheld_of_same rfl
  trans := Withheld.trans

variable [Halves]

theorem houses_withholding :
    Houses (withholding : Frame (Workspace σ)) Client.withholding :=
  houses_each (fun _ => True) (fun _ _ => True) Withheld (fun _ => withheld_of_same rfl)
    (fun _ _ => trivial) (fun _ => trivial)
    (fun each => (each ⟨trivial, fun _ _ _ => trivial⟩).2)
    fun withheld _ _ => ⟨trivial, trivial, withheld⟩

variable [Peer σ]

/-! ### Documents elsewhere -/

variable {α β : Type} {uri : String} {settings : Settings} {reason : Failure → Prop}

def IsViolation (failure : Failure) : Prop :=
  ∃ problem, failure = .problem problem ∧ problem.kind = .securityViolation

/-- An operation has failed for a certain reason, and nothing has been done. -/
def Refused (reason : Failure → Prop) (w : Workspace σ) (outcome : Outcome α)
    (after : Workspace σ) : Prop :=
  ∃ failure, reason failure ∧ outcome = .error failure ∧ after = w

omit [Halves] [Peer σ] in
theorem refused_bind {operation : Operation σ α} {next : α → Operation σ β} {outcome : Outcome β}
    (refused : ∀ {outcome mid}, Ends operation w outcome mid → Refused reason w outcome mid)
    (ended : Ends (operation >>= next) w outcome after) : Refused reason w outcome after := by
  rcases ends_bind.mp ended with ⟨_, _, done, _⟩ | ⟨_, rfl, failed⟩
  · obtain ⟨_, _, impossible, _⟩ := refused done
    cases impossible
  · obtain ⟨_, why, same, rfl⟩ := refused failed
    cases same
    exact ⟨_, why, rfl, rfl⟩

omit [Peer σ] in
theorem whereabouts_elsewhere (elsewhere : w.world.files.Elsewhere uri w.root) :
    ∃ failure, IsViolation failure ∧ w.whereabouts uri = .error failure := by
  obtain ⟨named, problem, normal, kind, resolved⟩ := elsewhere.refused
  refine ⟨.problem problem, ⟨problem, rfl, kind⟩, ?_⟩
  unfold whereabouts
  rw [normal]
  change (do return (named, ← w.world.files.resolveDocument named w.root)) = _
  rw [resolved]
  rfl

omit [Peer σ] in
theorem refused_locate (elsewhere : w.world.files.Elsewhere uri w.root)
    {outcome : Outcome (String × String)}
    (ended : Ends (locate uri : Operation σ (String × String)) w outcome after) :
    Refused IsViolation w outcome after := by
  obtain ⟨failure, violation, lost⟩ := whereabouts_elsewhere elsewhere
  obtain ⟨rfl, rfl⟩ := ends_locate ended
  exact ⟨failure, violation, lost, rfl⟩

theorem refused_prepare (elsewhere : w.world.files.Elsewhere uri w.root)
    {outcome : Outcome (String × String)}
    (ended : Ends (prepare uri : Operation σ (String × String)) w outcome after) :
    Refused IsViolation w outcome after :=
  refused_bind (refused_locate elsewhere) ended

omit [Peer σ] in
theorem refused_needSettings_bind (known : w.settings = some settings)
    {next : Settings → Operation σ α}
    (refused : ∀ {outcome mid}, Ends (next settings) w outcome mid → Refused reason w outcome mid)
    {outcome : Outcome α} (ended : Ends (needSettings >>= next) w outcome after) :
    Refused reason w outcome after := by
  rcases ends_bind.mp ended with ⟨_, _, needed, going⟩ | ⟨_, _, needed⟩
  · obtain ⟨same, rfl⟩ := ends_needSettings_known known needed
    cases same
    exact refused going
  · cases (ends_needSettings_known known needed).1

theorem refused_doUse (known : w.settings = some settings) {use : Use}
    (named : use.document? = some uri) (elsewhere : w.world.files.Elsewhere uri w.root)
    {outcome : Outcome Unit} (ended : Ends (doUse use : Operation σ Unit) w outcome after) :
    Refused IsViolation w outcome after := by
  have settled {α : Type} {next : Settings → String × String → Operation σ α}
      {outcome : Outcome α} {last : Workspace σ}
      (ended : Ends (do next (← needSettings) (← locate uri) : Operation σ α) w outcome last) :
      Refused IsViolation w outcome last :=
    refused_needSettings_bind known (refused_bind (refused_locate elsewhere)) ended
  have asked {α : Type} {question : String → Action σ Client α} {outcome : Outcome α}
      {last : Workspace σ} (ended : Ends (ask uri question : Operation σ α) w outcome last) :
      Refused IsViolation w outcome last :=
    refused_bind (refused_prepare elsewhere) ended
  cases use with
  | read => cases named; exact refused_bind settled ended
  | write => cases named; exact settled ended
  | edit | edits => cases named
  | _ => cases named; exact refused_bind asked ended

theorem refused_perform {op : EditOperation} {last : Workspace σ} {outcome : Outcome EditResult}
    (refused : ∀ {outcome mid}, Ends (tryPerform op) w outcome mid → Refused reason last outcome mid)
    (ended : Ends (perform op) w outcome after) :
    ∃ failure, reason failure ∧ outcome = .ok (failed op failure) ∧ after = last := by
  obtain ⟨_, trying, _, told⟩ := tries_of_perform ended
  obtain ⟨failure, why, rfl, rfl⟩ := refused trying
  exact ⟨failure, why, told _ rfl, rfl⟩

theorem refused_findTarget {op : EditOperation} (checked : op.check = .ok ())
    (named : op.uri = .str uri) (elsewhere : w.world.files.Elsewhere uri w.root)
    {outcome : Outcome (String × String × Symbol)} (ended : Ends (findTarget op) w outcome after) :
    Refused IsViolation w outcome after := by
  rcases ends_settle_bind.mp ended with ⟨_, unfit, _⟩ | ⟨_, _, naming⟩
  · cases checked.symm.trans unfit
  rw [named] at naming
  rcases ends_settle_bind.mp naming with ⟨_, unfit, _⟩ | ⟨text, same, preparing⟩
  · cases unfit
  cases same
  exact refused_bind (refused_prepare elsewhere) preparing

/-! ### Answers that name documents elsewhere -/

def locateEach (names : List DocumentName) : Operation σ (List (String × String)) :=
  names.mapM fun name => do
    let uri ← settle name.textual
    return (uri, (← locate uri).2)

variable {edit : WorkspaceEdit} {text : String}

omit [Peer σ] in
theorem refused_locateEach {names : List DocumentName} (listed : .uri text ∈ names)
    (elsewhere : w.world.files.Elsewhere text w.root) {outcome : Outcome (List (String × String))}
    (ended : Ends (locateEach names : Operation σ (List (String × String))) w outcome after) :
    Refused (fun _ => True) w outcome after := by
  have still : Within (Frame.same id) (locateEach names : Operation σ (List (String × String))) :=
    within_mapM fun name _ => within_bind (within_settle _) fun uri =>
      within_bind (within_locate uri) fun _ => within_pure _
  cases outcome with
  | error failure => exact ⟨failure, trivial, rfl, still ended⟩
  | ok targets =>
      obtain ⟨_, rfl, found⟩ := ends_locateAll ended
      obtain ⟨target, member, same⟩ := List.mem_map.mp listed
      cases same
      obtain ⟨_, here⟩ := found target member
      obtain ⟨_, _, lost⟩ := whereabouts_elsewhere elsewhere
      cases lost.symm.trans here

omit [Peer σ] in
/-- Where all documents before it are found, one that is elsewhere is what the search ends with. -/
theorem refused_locateEach_first {before later : List DocumentName}
    (located : ∀ name ∈ before, ∃ uri found, name = .uri uri ∧ w.whereabouts uri = .ok found)
    (elsewhere : w.world.files.Elsewhere text w.root) {outcome : Outcome (List (String × String))}
    (ended : Ends (locateEach (before ++ .uri text :: later) :
      Operation σ (List (String × String))) w outcome after) :
    Refused IsViolation w outcome after := by
  unfold locateEach at ended
  induction before generalizing outcome after with
  | nil =>
      rw [List.nil_append, List.mapM_cons] at ended
      refine refused_bind (fun {_ _} first => ?_) ended
      rcases ends_settle_bind.mp first with ⟨_, unfit, _⟩ | ⟨uri, same, locating⟩
      · cases unfit
      · cases same
        exact refused_bind (refused_locate elsewhere) locating
  | cons name rest ih =>
      obtain ⟨uri, found, rfl, here⟩ := located name List.mem_cons_self
      rw [List.cons_append, List.mapM_cons] at ended
      have one {target : Outcome (String × String)} {mid : Workspace σ}
          (first : Ends (do
            let uri ← settle (DocumentName.uri uri).textual
            return (uri, (← locate uri).2) : Operation σ (String × String)) w target mid) :
          mid = w ∧ ∃ value, target = .ok value := by
        rcases ends_settle_bind.mp first with ⟨_, unfit, _⟩ | ⟨uri, same, locating⟩
        · cases unfit
        cases same
        rcases ends_bind.mp locating with ⟨_, _, found, done⟩ | ⟨_, _, lost⟩
        · obtain ⟨_, rfl⟩ := ends_locate found
          obtain ⟨rfl, rfl⟩ := ends_pure.mp done
          exact ⟨rfl, _, rfl⟩
        · obtain ⟨lost, _⟩ := ends_locate lost
          cases lost.trans here
      rcases ends_bind.mp ended with ⟨_, mid, first, others⟩ | ⟨_, _, first⟩
      · obtain ⟨rfl, _⟩ := one first
        exact refused_bind (ih fun name member => located name (List.mem_cons_of_mem _ member)) others
      · obtain ⟨_, _, impossible⟩ := one first
        cases impossible

theorem refused_applyEdit {language label : String} (known : w.settings = some settings)
    (locating : ∀ {outcome mid}, Ends (locateEach edit.names) w outcome mid →
      Refused reason w outcome mid)
    {outcome : Outcome Unit} (ended : Ends (applyEdit language edit label) w outcome after) :
    Refused reason w outcome after :=
  refused_needSettings_bind known
    (refused_bind (refused_bind (refused_bind locating))) ended

/-- The edit of an operation has been worked out, with the answer of its server where that takes one. -/
def WorksOut (op : EditOperation) (edit : WorkspaceEdit) (w worked : Workspace σ) : Prop :=
  ∃ language uri symbol known, Ends (findTarget op) w (.ok (language, uri, symbol)) known ∧
    Ends (onClient language (workOut op uri symbol)) known (.ok edit) worked

variable {op : EditOperation} {worked : Workspace σ}

theorem WorksOut.grounded (spares : Peer.SparesFiles σ) (worksOut : WorksOut op edit w worked) :
    Grounded w worked ∧ ∃ settings, worked.settings = some settings := by
  obtain ⟨_, _, _, known, found, done⟩ := worksOut
  obtain ⟨_, _, sought⟩ := ends_findTarget found
  obtain ⟨first, settings, loaded, _⟩ := sought.settings spares
  have second : Grounded known worked := houses_groundStays.within_onClient
    (within_workOut (Client.recording_filesStay spares).preparing _ _ _) done
  exact ⟨first.trans second, settings, second.settings loaded⟩

theorem ends_tryPerform_worked (spares : Peer.SparesFiles σ) (worksOut : WorksOut op edit w worked)
    (locating : ∀ {outcome mid}, Ends (locateEach edit.names) worked outcome mid →
      Refused reason worked outcome mid)
    {outcome : Outcome EditResult} (ended : Ends (tryPerform op) w outcome after) :
    after = worked ∧
      (op.dryRun = false → edit.isEmpty = false → Refused reason worked outcome after) := by
  obtain ⟨_, settings, current⟩ := worksOut.grounded spares
  obtain ⟨language, uri, symbol, known, found, done⟩ := worksOut
  have relative : ∃ file, Uri.toRelative uri worked.root = .ok file := by
    obtain ⟨_, _, sought⟩ := ends_findTarget found
    obtain ⟨_, _, _, whereabouts⟩ := sought.named
    obtain ⟨normal, resolved⟩ := whereabouts_eq_ok whereabouts
    obtain ⟨document, path, _⟩ :=
      (FileTree.placed_of_resolveDocument (Uri.isFile_of_normalize normal) resolved).real
    unfold Uri.toRelative
    rw [path]
    dsimp only [bind, Except.bind]
    split
    · exact ⟨_, rfl⟩
    · exact ⟨_, rfl⟩
  obtain ⟨file, relative⟩ := relative
  have going := done.bind.mp (found.bind.mp ended)
  rcases ends_settle_bind.mp (ends_get_bind.mp going) with ⟨_, unnamed, _⟩ | ⟨_, _, further⟩
  · cases unnamed.symm.trans relative
  rcases ends_ite.mp further with ⟨dry, returned⟩ | ⟨_, meant⟩
  · refine ⟨(ends_pure.mp returned).2, fun not => ?_⟩
    cases not.symm.trans dry
  rcases ends_ite.mp meant with ⟨empty, returned⟩ | ⟨_, applying⟩
  · refine ⟨(ends_pure.mp returned).2, fun _ not => ?_⟩
    cases not.symm.trans empty
  obtain ⟨failure, why, rfl, rfl⟩ := refused_bind (refused_applyEdit current locating) applying
  exact ⟨rfl, fun _ _ => ⟨failure, why, rfl, rfl⟩⟩

theorem WorksOut.withheld (worksOut : WorksOut op edit w worked) : Withheld w.world worked.world := by
  obtain ⟨_, _, _, _, found, done⟩ := worksOut
  have preparing : Client.Preparing (Client.withholding : Frame (Session σ Client)) :=
    Client.preparing_withholding
  exact (houses_withholding.within_findTarget preparing op found).trans
    (houses_withholding.within_onClient (within_workOut preparing _ _ _) done)

/-! ### Confined workspaces -/

def ReportsViolation (outcome : Outcome EditResult) : Prop :=
  ∃ result, outcome = .ok result ∧ result.success = false ∧
    result.error = some Problem.Kind.securityViolation.code

theorem reportsViolation_failed {failure : Failure} (violation : IsViolation failure) :
    ReportsViolation (.ok (failed op failure)) := by
  obtain ⟨problem, rfl, kind⟩ := violation
  exact ⟨_, rfl, rfl, congrArg (fun kind => some (Problem.Kind.code kind)) kind⟩

/-- What documents outside the root come to: they are refused to whoever asks for them, and an edit that
names one is neither submitted nor written. It ends as a violation of security unless it is not to be
made, or it has no changes, or a document before that one is not found either. -/
structure Shut (w : Workspace σ) (uri : String) : Prop where
  asked : ∀ use outcome after, use.document? = some uri → Ends (doUse use) w outcome after →
    Refused IsViolation w outcome after
  edited : ∀ op outcome after, op.check = .ok () → op.uri = .str uri →
    Ends (perform op) w outcome after → ReportsViolation outcome ∧ after = w
  withheld : ∀ op edit worked outcome after, WorksOut op edit w worked → .uri uri ∈ edit.names →
    Ends (perform op) w outcome after →
    after = worked ∧ after.world.files = w.world.files ∧ Withheld w.world after.world
  answered : ∀ op edit worked before later outcome after, WorksOut op edit w worked →
    edit.names = before ++ .uri uri :: later →
    (∀ name ∈ before, ∃ other found, name = .uri other ∧ w.whereabouts other = .ok found) →
    op.dryRun = false → edit.isEmpty = false → Ends (perform op) w outcome after →
    ReportsViolation outcome

omit [Peer σ] in
theorem Grounded.elsewhere (grounded : Grounded w worked)
    (elsewhere : w.world.files.Elsewhere uri w.root) :
    worked.world.files.Elsewhere uri worked.root := by
  rw [grounded.files, grounded.root]
  exact elsewhere

theorem shut_of_elsewhere (spares : Peer.SparesFiles σ) (known : w.settings = some settings)
    (elsewhere : w.world.files.Elsewhere uri w.root) : w.Shut uri where
  asked _ _ _ named ended := refused_doUse known named elsewhere ended
  edited _ _ _ checked named ended := by
    obtain ⟨_, violation, rfl, rfl⟩ := refused_perform
      (fun trying => refused_bind (refused_findTarget checked named elsewhere) trying) ended
    exact ⟨reportsViolation_failed violation, rfl⟩
  withheld op edit worked outcome after worksOut listed ended := by
    obtain ⟨grounded, _⟩ := worksOut.grounded spares
    have there := grounded.elsewhere elsewhere
    obtain ⟨_, trying, _⟩ := tries_of_perform ended
    obtain ⟨rfl, _⟩ := ends_tryPerform_worked spares worksOut
      (fun locating => refused_locateEach listed there locating) trying
    exact ⟨rfl, grounded.files, worksOut.withheld⟩
  answered op edit worked before later outcome after worksOut parted located meant nonempty ended := by
    obtain ⟨grounded, _⟩ := worksOut.grounded spares
    have there := grounded.elsewhere elsewhere
    have still : ∀ name ∈ before, ∃ other found, name = .uri other ∧
        worked.whereabouts other = .ok found := by
      unfold whereabouts
      rw [grounded.files, grounded.root]
      exact located
    obtain ⟨_, violation, rfl, _⟩ := refused_perform (fun trying =>
      (ends_tryPerform_worked spares worksOut (fun locating =>
        refused_locateEach_first still there (parted ▸ locating)) trying).2 meant nonempty) ended
    exact reportsViolation_failed violation

/-- Where servers spare the files and real paths are canonical, whatever a workspace is asked for opens
files inside its root only, and documents elsewhere are shut. -/
theorem confined (spares : Peer.SparesFiles σ) (canonical : w.world.files.Canonical)
    (known : w.settings = some settings) :
    (∀ use outcome after, Ends (doUse use : Operation σ Unit) w outcome after →
      Opened w.world.files w.root w after) ∧
    ∀ uri, w.world.files.Elsewhere uri w.root → w.Shut uri :=
  ⟨fun _ _ _ ended => opened_of_doUse spares canonical ended,
    fun _ elsewhere => shut_of_elsewhere spares known elsewhere⟩

end Workspace

end Scalpel

/-! ### A link that leads outside -/

namespace Scalpel.Workspace

local instance outwardHalves : Halves :=
  Halves.trial

def outwardClerk : Clerk :=
  let renamed : Json := .arr [.obj [("range", (Range.mk ⟨0, 0⟩ ⟨0, 1⟩).toJson), ("newText", .str "g")]]
  { answers := ("textDocument/rename", .obj [("changes", .obj [("file:///w/a.py", renamed),
      ("file:///w/out.py", renamed)])]) :: Clerk.editing.answers }

/-- A workspace with a file and a link that leads to a file outside the root. -/
def outwardWorkspace : Workspace Clerk :=
  { world :=
      { server := outwardClerk
        files :=
          { entries := [
              ([['w']], .directory),
              ([['w'], ['a', '.', 'p', 'y']], .file [102, 10] 0o644),
              ([['w'], ['o', 'u', 't', '.', 'p', 'y']], .link ['/', 'x', '.', 'p', 'y']),
              ([['x', '.', 'p', 'y']], .file [102, 10] 0o644)]
            workingDirectory := "/w" } }
    root := "/w"
    settings := some (Clerk.settings (.str "utf-8")) }

def outwardRename (dryRun : Bool) : EditOperation :=
  { kind := .refactor, uri := .str "a.py", symbol := .str "f", newName := .str "g", dryRun }

def outwardDelete (symbol : String) : EditOperation :=
  { kind := .delete, uri := .str "out.py", symbol := .str symbol }

def isOutward (edit : WorkspaceEdit) : Bool :=
  match edit.names with
  | [.uri first, .uri second] =>
    decide (first = "file:///w/a.py") && decide (second = "file:///w/out.py") && !edit.isEmpty
  | _ => false

def outwardStages (dryRun : Bool) : Operation Clerk Bool := do
  let (language, uri, symbol) ← findTarget (outwardRename dryRun)
  let edit ← onClient language (workOut (outwardRename dryRun) uri symbol)
  return isOutward edit

private theorem ends_run {S α : Type} (op : Effect S α) (s : S) :
    Ends op s (op.run s).1 (op.run s).2 :=
  rfl

private theorem names_of_isOutward {edit : WorkspaceEdit} (outward : isOutward edit = true) :
    edit.names = [.uri "file:///w/a.py", .uri "file:///w/out.py"] ∧ edit.isEmpty = false := by
  unfold isOutward at outward
  split at outward
  · next first second names =>
    simp only [Bool.and_eq_true, decide_eq_true_eq, Bool.not_eq_true'] at outward
    obtain ⟨⟨rfl, rfl⟩, nonempty⟩ := outward
    exact ⟨names, nonempty⟩
  · cases outward

private theorem direct_outwardWorkspace : outwardWorkspace.world.files.Direct := by
  intro place target linked
  have same : target = ['/', 'x', '.', 'p', 'y'] := by
    unfold FileTree.get? at linked
    split at linked
    · cases linked
    obtain ⟨before, rest, parted, _⟩ := List.lookup_eq_some_iff.mp linked
    have member : (place, Entry.link target) ∈ outwardWorkspace.world.files.entries := by
      rw [parted]
      exact List.mem_append_right _ List.mem_cons_self
    simp only [outwardWorkspace, List.mem_cons, Prod.mk.injEq, reduceCtorEq, and_false, false_or,
      Entry.link.injEq, List.not_mem_nil, or_false] at member
    exact member.2
  have plain : (outwardWorkspace.world.files.linkAt? ['/', 'x', '.', 'p', 'y']).toOption = some none := by
    decide +kernel
  refine ⟨[['x', '.', 'p', 'y']], ⟨fun name member => ?_, fun before name begins => ?_⟩, same⟩
  · rw [List.mem_singleton.mp member]
    exact ⟨by decide, by decide, by decide, by decide⟩
  · have short := begins.length_le
    rw [List.length_append, List.length_singleton, List.length_singleton] at short
    obtain rfl : before = [] := List.eq_nil_of_length_eq_zero (by omega)
    obtain rfl : name = ['x', '.', 'p', 'y'] := by simpa using begins
    exact ok_of_toOption plain

private theorem elsewhere_outwardWorkspace (uri : String)
    (lies : (outwardWorkspace.world.files.liesElsewhere uri "/w").toOption = some true) :
    outwardWorkspace.world.files.Elsewhere uri outwardWorkspace.root :=
  FileTree.elsewhere_of_liesElsewhere (ok_of_toOption lies)

private theorem worksOut_outwardRename (dryRun : Bool) : ∃ edit worked,
    WorksOut (outwardRename dryRun) edit outwardWorkspace worked ∧
      edit.names = [.uri "file:///w/a.py", .uri "file:///w/out.py"] ∧ edit.isEmpty = false := by
  have ran : ((outwardStages dryRun).run outwardWorkspace).1.toOption = some true := by
    cases dryRun
    · decide +kernel
    · decide +kernel
  have ended := ends_of_toOption ran
  obtain ⟨⟨language, uri, symbol⟩, known, found, working⟩ := ends_bind_ok.mp ended
  obtain ⟨edit, worked, done, looking⟩ := ends_bind_ok.mp working
  obtain ⟨outward, _⟩ := ends_pure.mp looking
  obtain ⟨names, nonempty⟩ := names_of_isOutward (Except.ok.inj outward).symm
  exact ⟨edit, worked, ⟨language, uri, symbol, known, found, done⟩, names, nonempty⟩

theorem confined_of_outward :
    (∃ outcome after, Ends (doUse (.read "a.py")) outwardWorkspace outcome after ∧
      after.opened = ["/w/a.py"] ∧
      Opened outwardWorkspace.world.files outwardWorkspace.root outwardWorkspace after) ∧
    (∃ outcome after, Ends (doUse (.read "out.py")) outwardWorkspace outcome after ∧
      Refused IsViolation outwardWorkspace outcome after) ∧
    (∃ outcome after, Ends (perform (outwardDelete "f")) outwardWorkspace outcome after ∧
      ReportsViolation outcome ∧ after = outwardWorkspace) ∧
    ∃ edit worked outcome after, WorksOut (outwardRename false) edit outwardWorkspace worked ∧
      edit.names = [.uri "file:///w/a.py", .uri "file:///w/out.py"] ∧
      Ends (perform (outwardRename false)) outwardWorkspace outcome after ∧ ReportsViolation outcome ∧
      after.world.files = outwardWorkspace.world.files ∧
      Withheld outwardWorkspace.world after.world := by
  obtain ⟨opens, shut⟩ := confined (w := outwardWorkspace) Clerk.sparesFiles
    direct_outwardWorkspace.canonical rfl
  have path := shut "out.py" (elsewhere_outwardWorkspace "out.py" (by decide +kernel))
  have uri := shut "file:///w/out.py"
    (elsewhere_outwardWorkspace "file:///w/out.py" (by decide +kernel))
  have inside := ends_run (doUse (.read "a.py")) outwardWorkspace
  have outside := ends_run (doUse (.read "out.py")) outwardWorkspace
  have deleted := ends_run (perform (outwardDelete "f")) outwardWorkspace
  have renamed := ends_run (perform (outwardRename false)) outwardWorkspace
  refine ⟨⟨_, _, inside, ?_, opens _ _ _ inside⟩, ⟨_, _, outside, path.asked _ _ _ rfl outside⟩,
    ⟨_, _, deleted, ?_⟩, ?_⟩
  · decide +kernel
  · have checked : (outwardDelete "f").check.toOption = some () := by decide +kernel
    exact path.edited _ _ _ (ok_of_toOption checked) rfl deleted
  · obtain ⟨edit, worked, worksOut, names, nonempty⟩ := worksOut_outwardRename false
    have found : (outwardWorkspace.whereabouts "file:///w/a.py").isOk = true := by
      decide +kernel
    have located : ∀ name ∈ [DocumentName.uri "file:///w/a.py"], ∃ other found,
        name = .uri other ∧ outwardWorkspace.whereabouts other = .ok found := by
      intro name member
      rw [List.mem_singleton.mp member]
      cases here : outwardWorkspace.whereabouts "file:///w/a.py" with
      | ok place => exact ⟨_, place, rfl, here⟩
      | error failure =>
          rw [here] at found
          cases found
    have listed : DocumentName.uri "file:///w/out.py" ∈ edit.names := by
      rw [names]
      exact List.mem_cons_of_mem _ List.mem_cons_self
    obtain ⟨_, files, withheld⟩ := uri.withheld _ edit worked _ _ worksOut listed renamed
    exact ⟨edit, worked, _, _, worksOut, names, renamed,
      uri.answered _ edit worked _ [] _ _ worksOut names located rfl nonempty renamed,
      files, withheld⟩

/-- Not every edit of a document elsewhere ends as a violation: the checks of an operation come first,
and a dry run ends well before the documents of its edit are looked for. -/
theorem elsewhere_not_always_reported :
    outwardWorkspace.world.files.Elsewhere "out.py" outwardWorkspace.root ∧
    (∃ result after, Ends (perform (outwardDelete "")) outwardWorkspace (.ok result) after ∧
      result.error = some "INVALID_OPERATION") ∧
    ∃ edit worked result after, WorksOut (outwardRename true) edit outwardWorkspace worked ∧
      .uri "file:///w/out.py" ∈ edit.names ∧
      Ends (perform (outwardRename true)) outwardWorkspace (.ok result) after ∧
      result.success = true := by
  refine ⟨elsewhere_outwardWorkspace "out.py" (by decide +kernel), ?_, ?_⟩
  · have failing : (((perform (outwardDelete "")).run outwardWorkspace).1.toOption.bind (·.error)) =
        some "INVALID_OPERATION" := by
      decide +kernel
    obtain ⟨result, known, code⟩ := Option.bind_eq_some_iff.mp failing
    exact ⟨result, _, ends_of_toOption known, code⟩
  · obtain ⟨edit, worked, worksOut, names, _⟩ := worksOut_outwardRename true
    have ending : (((perform (outwardRename true)).run outwardWorkspace).1.toOption.map (·.success)) =
        some true := by
      decide +kernel
    obtain ⟨result, known, success⟩ := Option.map_eq_some_iff.mp ending
    refine ⟨edit, worked, result, _, worksOut, ?_, ends_of_toOption known, success⟩
    rw [names]
    exact List.mem_cons_of_mem _ List.mem_cons_self

end Scalpel.Workspace
