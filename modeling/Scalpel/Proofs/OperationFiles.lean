import Scalpel.Proofs.Batches
import Scalpel.Proofs.Misconfiguration

/-!
Files of operations. A batch is run if its file lists operations. If the file lists none, the command
line is refused and nothing is touched; but where the text of the file nests too deeply, and where an
entry is no object while all entries before it are fine, the command breaks off instead.
-/

set_option autoImplicit false

namespace Scalpel

/-! ### Failures of what is written -/

def OfContent {α : Type} (outcome : Outcome α) : Prop :=
  ∀ failure, outcome = .error failure → Cli.isOfContent failure = true

section OfContent

variable {α β : Type}

theorem ofContent_ok (value : α) : OfContent (.ok value : Outcome α) := by
  intro failure failed
  cases failed

theorem ofContent_error {failure : Failure} (written : Cli.isOfContent failure = true) :
    OfContent (.error failure : Outcome α) := by
  intro reason failed
  cases failed
  exact written

theorem ofContent_bind {first : Outcome α} {next : α → Outcome β} (before : OfContent first)
    (behind : ∀ value, first = .ok value → OfContent (next value)) : OfContent (first >>= next) := by
  intro failure failed
  cases first with
  | error reason =>
      cases failed
      exact before _ rfl
  | ok value => exact behind value rfl failure failed

end OfContent

theorem ofContent_ofFile [Halves] (bytes : Bytes) : OfContent (Text.ofFile bytes) := by
  intro failure undecoded
  obtain ⟨reason, rfl⟩ := Charset.exists_undecodable_of_ofFile undecoded
  rfl

theorem Json.parsed_of_tooDeep [Halves] {text : String} {u : Json.Unreadable}
    (read : Json.read text = .error u) (deep : u.defect = .tooDeep) :
    Json.parsed text = .error .tooDeep := by
  unfold Json.parsed
  rw [read]
  dsimp only
  rw [deep]

theorem Json.ofContent_parsed [Halves] {text : String}
    (shallow : ∀ u, Json.read text = .error u → u.defect ≠ .tooDeep) : OfContent (Json.parsed text) := by
  unfold Json.parsed
  cases read : Json.read text with
  | ok value => exact ofContent_ok value
  | error u =>
      dsimp only
      cases defect : u.defect with
      | tooDeep => exact absurd defect (shallow u read)
      | _ => exact ofContent_error rfl

/-! ### Entries -/

namespace EditKind

variable {value : Json} {kind : EditKind}

theorem name_of_ofName? {name : String} (found : ofName? name = some kind) : kind.name = name :=
  of_decide_eq_true (List.find?_some (p := fun kind : EditKind => decide (kind.name = name)) found)

theorem ofJson_eq_ok_iff : ofJson value = .ok kind ↔ value = .str kind.name := by
  constructor
  · intro read
    unfold ofJson at read
    split at read
    · split at read
      · next found =>
        cases read
        rw [name_of_ofName? found]
      · cases read
    · cases read
  · rintro rfl
    cases kind <;> rfl

theorem ofContent_ofJson (value : Json) : OfContent (ofJson value) := by
  have unknown : OfContent (.error (.notNamed value "EditOperationType") : Outcome EditKind) :=
    ofContent_error rfl
  unfold ofJson
  split
  · split
    · exact ofContent_ok _
    · exact unknown
  · exact unknown

end EditKind

namespace EditOperation

variable {entry : Json} {fields : Json.Fields} {op : EditOperation} {failure : Failure}

/-- The operation of a kind on a document with what else the fields of an object say about it. -/
def described (fields : Json.Fields) (kind : EditKind) (uri : Json) : EditOperation :=
  let field (name : String) : Json := (fields.lookup name).getD .null
  { kind, uri
    symbol := (field "symbol_name").orElse ((field "target").orElse (.str ""))
    code := field "code"
    newName := field "new_name"
    dryRun := ((fields.lookup "dry_run").getD (.bool false)).isTruthy }

/-- An entry describes an operation if it is an object that names a kind and a document. -/
inductive Describes : Json → EditOperation → Prop where
  | object {fields : Json.Fields} {kind : EditKind} {uri : Json}
      (named : fields.lookup "type" = some (.str kind.name)) (placed : fields.lookup "uri" = some uri) :
      Describes (.obj fields) (described fields kind uri)

theorem ofJson_obj (fields : Json.Fields) :
    ofJson (.obj fields) = (do
      let kind ← EditKind.ofJson (← (Json.obj fields).need "type")
      return described fields kind (← (Json.obj fields).need "uri")) := by
  unfold ofJson
  refine bind_congr fun value => bind_congr fun kind => bind_congr fun uri => ?_
  dsimp only [described, Json.optional, Json.orElse, bind, Except.bind, pure, Except.pure]
  cases given : ((fields.lookup "symbol_name").getD .null).isTruthy with
  | true => rfl
  | false => rfl

theorem ofJson_of_other (other : ∀ fields, entry ≠ .obj fields) :
    ofJson entry = .error (.misuse (.indexed entry)) := by
  unfold ofJson
  rw [Json.need_of_other "type" other]
  rfl

theorem ofJson_eq_ok_iff : ofJson entry = .ok op ↔ Describes entry op := by
  constructor
  · intro read
    have begun := read
    unfold ofJson at begun
    obtain ⟨value, given, -⟩ := exists_of_bind_ok begun
    obtain ⟨fields, rfl, -⟩ := Json.need_eq_ok_iff.mp given
    have found {name : String} {value : Json} (needed : (Json.obj fields).need name = .ok value) :
        fields.lookup name = some value := by
      obtain ⟨others, same, looked⟩ := Json.need_eq_ok_iff.mp needed
      cases same
      exact looked
    rw [ofJson_obj] at read
    obtain ⟨value, given, read⟩ := exists_of_bind_ok read
    obtain ⟨kind, named, read⟩ := exists_of_bind_ok read
    obtain ⟨uri, placed, read⟩ := exists_of_bind_ok read
    cases read
    rw [EditKind.ofJson_eq_ok_iff.mp named] at given
    exact .object (found given) (found placed)
  · intro describes
    cases describes with
    | object named placed =>
        rw [ofJson_obj, Json.need_of_lookup named, Json.need_of_lookup placed]
        change (EditKind.ofJson _ >>= _) = _
        rw [EditKind.ofJson_eq_ok_iff.mpr rfl]
        rfl

theorem ofContent_ofJson_obj (fields : Json.Fields) : OfContent (ofJson (.obj fields)) := by
  have needed (name : String) : OfContent ((Json.obj fields).need name) := by
    cases looked : fields.lookup name with
    | none =>
        rw [Json.need_of_lacking looked]
        exact ofContent_error rfl
    | some value =>
        rw [Json.need_of_lookup looked]
        exact ofContent_ok value
  rw [ofJson_obj]
  apply ofContent_bind (needed "type")
  intro value given
  apply ofContent_bind (EditKind.ofContent_ofJson value)
  intro kind named
  apply ofContent_bind (needed "uri")
  intro uri placed
  exact ofContent_ok _

/-- Entries fail at what is written if the first of them that describes no operation is an object. -/
theorem ofContent_mapM_ofJson {entries : List Json}
    (objects : ∀ before entry after, entries = before ++ entry :: after →
      (∀ other ∈ before, ∃ op, Describes other op) → ∃ fields, entry = .obj fields) :
    OfContent (entries.mapM ofJson) := by
  intro failure failed
  obtain ⟨before, entry, after, parted, fine, stopped⟩ := exists_of_mapM_error failed
  have described (other : Json) (member : other ∈ before) : ∃ op, Describes other op := by
    obtain ⟨op, read⟩ := fine other member
    exact ⟨op, ofJson_eq_ok_iff.mp read⟩
  obtain ⟨fields, rfl⟩ := objects before entry after parted described
  exact ofContent_ofJson_obj fields failure stopped

end EditOperation

/-! ### Files -/

namespace Cli

variable [Halves] {files : FileTree} {file : String} {bytes : Bytes} {ops : List EditOperation}

def Writes (bytes : Bytes) (value : Json) : Prop :=
  ∃ text, Text.ofFile bytes = .ok text ∧ Json.read text = .ok value

/-- A file lists operations if it writes a list whose entries describe them, in this order. -/
def Lists (bytes : Bytes) (ops : List EditOperation) : Prop :=
  ∃ entries, Writes bytes (.arr entries) ∧ List.Forall₂ EditOperation.Describes entries ops

/-- A file that is not read to its end: its text nests too deeply, or there is an entry that is no
object, and all entries before it describe operations. -/
inductive Breaks (bytes : Bytes) : Prop where
  | deep {text : String} {u : Json.Unreadable} (decoded : Text.ofFile bytes = .ok text)
      (read : Json.read text = .error u) (deep : u.defect = .tooDeep) : Breaks bytes
  | foreign {before after : List Json} {entry : Json} (written : Writes bytes (.arr (before ++ entry :: after)))
      (fine : ∀ other ∈ before, ∃ op, EditOperation.Describes other op)
      (other : ∀ fields, entry ≠ .obj fields) : Breaks bytes

/-- A reason that is about what a file has in place of operations. -/
def Usage.Concerns (file : String) : Usage → Prop
  | .noOperations other | .badOperations other _ => other = file
  | _ => False

def asRead {α : Type} (file : String) : Outcome α → Reading α
  | .ok value => .ok value
  | .error failure =>
    if isOfContent failure then refuse (.badOperations file failure.message)
    else .error (.broken failure)

def listedIn (file : String) : Json → Reading (List EditOperation)
  | .arr entries => asRead file (entries.mapM EditOperation.ofJson)
  | _ => refuse (.noOperations file)

theorem operationsIn_eq (content : files.readFile file = .ok bytes) :
    operationsIn files file = asRead file (Text.ofFile bytes >>= Json.parsed) >>= listedIn file := by
  unfold operationsIn textIn
  rw [content]
  rfl

theorem writes_iff {value : Json} :
    Writes bytes value ↔ Text.ofFile bytes >>= Json.parsed = .ok value := by
  constructor
  · rintro ⟨text, decoded, read⟩
    rw [decoded]
    exact Json.parsed_eq_ok_iff.mpr read
  · intro done
    obtain ⟨text, decoded, parsed⟩ := exists_of_bind_ok done
    exact ⟨text, decoded, Json.parsed_eq_ok_iff.mp parsed⟩

theorem operationsIn_of_writes {value : Json} (content : files.readFile file = .ok bytes)
    (written : Writes bytes value) : operationsIn files file = listedIn file value := by
  rw [operationsIn_eq content, writes_iff.mp written]
  rfl

theorem operationsIn_of_lists (content : files.readFile file = .ok bytes) (lists : Lists bytes ops) :
    operationsIn files file = .ok ops := by
  obtain ⟨entries, written, describe⟩ := lists
  have read : entries.mapM EditOperation.ofJson = .ok ops := by
    rw [mapM_eq_ok_iff]
    exact describe.imp fun _ _ => EditOperation.ofJson_eq_ok_iff.mpr
  rw [operationsIn_of_writes content written, listedIn, read]
  rfl

theorem operationsIn_of_breaks (content : files.readFile file = .ok bytes) (breaks : Breaks bytes) :
    ∃ failure, operationsIn files file = .error (.broken failure) := by
  cases breaks with
  | deep decoded read deep =>
      refine ⟨.tooDeep, ?_⟩
      rw [operationsIn_eq content, decoded]
      change asRead file (Json.parsed _) >>= listedIn file = _
      rw [Json.parsed_of_tooDeep read deep]
      rfl
  | @foreign before after entry written fine other =>
      have stopped : (before ++ entry :: after).mapM EditOperation.ofJson =
          .error (.misuse (.indexed entry)) := by
        apply mapM_of_stopped
        · intro item member
          obtain ⟨op, describes⟩ := fine item member
          exact ⟨op, EditOperation.ofJson_eq_ok_iff.mpr describes⟩
        · exact EditOperation.ofJson_of_other other
      refine ⟨.misuse (.indexed entry), ?_⟩
      rw [operationsIn_of_writes content written, listedIn, stopped]
      rfl

theorem asRead_error {α : Type} {failure : Failure} (written : isOfContent failure = true) :
    asRead file (.error failure : Outcome α) =
      .error (.refused (.badOperations file failure.message)) :=
  if_pos written

/-- A file that is read to its end and lists no operations has something else in their place. -/
theorem operationsIn_of_unlisted (content : files.readFile file = .ok bytes)
    (unlisted : ∀ ops, ¬Lists bytes ops) (whole : ¬Breaks bytes) :
    ∃ reason, reason.Concerns file ∧ operationsIn files file = .error (.refused reason) := by
  cases parsed : Text.ofFile bytes >>= Json.parsed with
  | error failure =>
      have written : OfContent (Text.ofFile bytes >>= Json.parsed) := by
        apply ofContent_bind (ofContent_ofFile bytes)
        intro text decoded
        apply Json.ofContent_parsed
        intro u read deep
        exact whole (.deep decoded read deep)
      refine ⟨.badOperations file failure.message, rfl, ?_⟩
      rw [operationsIn_eq content, parsed, asRead_error (written failure parsed)]
      rfl
  | ok value =>
      rw [operationsIn_of_writes content (writes_iff.mpr parsed)]
      cases value with
      | arr entries =>
          cases read : entries.mapM EditOperation.ofJson with
          | ok ops =>
              have describe := (mapM_eq_ok_iff.mp read).imp fun _ _ => EditOperation.ofJson_eq_ok_iff.mp
              exact absurd ⟨entries, writes_iff.mpr parsed, describe⟩ (unlisted ops)
          | error failure =>
              have written : OfContent (entries.mapM EditOperation.ofJson) := by
                apply EditOperation.ofContent_mapM_ofJson
                rintro before entry after rfl described
                by_contra foreign
                exact whole (.foreign (writes_iff.mpr parsed) described fun fields same => foreign ⟨fields, same⟩)
              refine ⟨.badOperations file failure.message, rfl, ?_⟩
              rw [listedIn, read, asRead_error (written failure read)]
      | _ => exact ⟨.noOperations file, rfl, rfl⟩

/-! ### Command lines -/

/-- Arguments ask for a batch with the operations of a file: they are the command, its options and this
file, and the root that the options give is one. -/
inductive AsksBatch (files : FileTree) (arguments : List String) (root file : String) : Prop where
  | line {front own : Words} {words : List String} {options : Options}
      (begun : wordsOf frontKeys false arguments = .ok front) (named : front.words = "batch" :: words)
      (apart : wordsOf batchShape.keys true words = .ok own)
      (taken : own.given.foldlM (Options.take files) {} = .ok options) (alone : own.words = [file])
      (lookup : Path.checkLookup file.toList = .ok ()) (settled : options.rootIn files = .ok root) :
      AsksBatch files arguments root file

theorem checkPath_of_content (parameter : String) (lookup : Path.checkLookup file.toList = .ok ())
    (content : files.readFile file = .ok bytes) :
    checkPath files parameter .file true file file = .ok () := by
  obtain ⟨place, mode, located, readable⟩ := FileTree.readFile_eq_ok.mp content
  have found : files.find true file = .ok (place, .file bytes mode) := by
    unfold FileTree.find
    rw [located]
  unfold checkPath
  rw [lookup]
  dsimp only [settle, bind, Except.bind]
  rw [found]
  exact if_pos readable

theorem run_batchShape {options : Options} {root : String} (lookup : Path.checkLookup file.toList = .ok ())
    (content : files.readFile file = .ok bytes) (settled : options.rootIn files = .ok root) :
    (batchShape.read files options).run [file] =
      (fun ops => (Command.batch root ops, [])) <$> operationsIn files file := by
  have checked := checkPath_of_content "'OPS_FILE'" lookup content
  have taken : (next "OPS_FILE").run [file] = pure (file, []) := rfl
  unfold batchShape rootAtEnd
  dsimp only
  rw [StateT.run_bind, taken, pure_bind]
  dsimp only
  rw [checked, settled]
  cases operationsIn files file with
  | error exit => rfl
  | ok ops => rfl

theorem AsksBatch.read {arguments : List String} {root : String}
    (asked : AsksBatch files arguments root file) (content : files.readFile file = .ok bytes) :
    Command.read files arguments = Command.batch root <$> operationsIn files file := by
  obtain ⟨begun, named, apart, taken, alone, lookup, settled⟩ := asked
  have batch : shapes.lookup "batch" = some batchShape := rfl
  unfold Command.read
  rw [begun]
  dsimp only [bind, Except.bind]
  rw [named]
  dsimp only
  rw [batch]
  dsimp only
  unfold Shape.command
  rw [apart]
  dsimp only [bind, Except.bind]
  rw [taken]
  dsimp only
  rw [alone, run_batchShape lookup content settled]
  cases operationsIn files file with
  | error exit => rfl
  | ok ops => rfl

/-! ### Commands -/

section Commands

open Workspace

variable {σ : Type} [Peer σ] {s : Surroundings} {arguments : List String} {world : World σ} {root : String}

theorem broken_editAll_iff {w : Workspace σ} {failure : Failure} :
    (∃ after, Ends (editAll ops) w (.error failure) after) ↔
      ∃ after, Ends openUp w (.error failure) after := by
  constructor
  · rintro ⟨after, ended⟩
    rcases ends_bind.mp ended with ⟨settings, opened, -, rest⟩ | ⟨reason, same, failed⟩
    · obtain ⟨done, reached, -, -, performed⟩ := exists_ends_performAll ops opened
      have told := performed.bind.mp rest
      obtain ⟨impossible, -⟩ := ends_pure.mp told
      cases impossible
    · cases same
      exact ⟨after, failed⟩
  · rintro ⟨after, failed⟩
    exact ⟨after, ends_bind.mpr (.inr ⟨failure, rfl, failed⟩)⟩

theorem ne_broken_of_editAll {w after : Workspace σ} {exit : Exit}
    (ended : Ends (editAll ops) w (.ok exit) after) (failure : Failure) : exit ≠ .broken failure := by
  obtain ⟨settings, opened, -, rest⟩ := ends_bind_ok.mp ended
  obtain ⟨results, reached, -, told⟩ := ends_bind_ok.mp rest
  obtain ⟨same, -⟩ := ends_pure.mp told
  cases same
  unfold Exit.json
  split
  · exact Exit.noConfusion
  · exact Exit.noConfusion

theorem broken_run_batch_iff {failure : Failure} :
    (Command.run s (.batch root ops) world).1 = .broken failure ↔
      ∃ after, Ends openUp (workspaceFor s root world) (.error failure) after := by
  have breaks : (∃ after, Ends (editAll ops) (workspaceFor s root world) (.error failure) after) ↔ _ :=
    broken_editAll_iff
  rw [← breaks]
  rcases found : (editAll ops).run (workspaceFor s root world) with ⟨outcome, reached⟩
  have ended : Ends (editAll ops) (workspaceFor s root world) outcome reached := found
  change (inWorkspace s root (editAll ops) world).1 = .broken failure ↔ _
  rw [exit_inWorkspace ended]
  cases outcome with
  | ok exit =>
      refine iff_of_false (ne_broken_of_editAll ended failure) ?_
      rintro ⟨after, failed⟩
      cases (ended.unique failed).1
  | error reason =>
      constructor
      · intro same
        cases same
        exact ⟨reached, ended⟩
      · rintro ⟨after, failed⟩
        cases (ended.unique failed).1
        rfl

/-- A command line that asks for a batch, with a file that has content: if the file lists operations, they
are run, and the command breaks off only where its workspace cannot be made ready; if the file is read to
its end and lists none, the command line is refused with a reason that concerns this file, and nothing is
touched; and if it is not read to its end, it lists none, and the command breaks off with nothing touched. -/
theorem run_batch_of_file (asked : AsksBatch world.files arguments root file)
    (content : world.files.readFile file = .ok bytes) :
    (∀ ops, Lists bytes ops →
      Cli.run s arguments world = Command.run s (.batch root ops) world ∧
      ∀ failure, (Cli.run s arguments world).1 = .broken failure ↔
        ∃ after, Ends openUp (workspaceFor s root world) (.error failure) after) ∧
    ((∀ ops, ¬Lists bytes ops) → ¬Breaks bytes →
      ∃ reason, reason.Concerns file ∧ Cli.run s arguments world = (.refused reason, world)) ∧
    (Breaks bytes → (∀ ops, ¬Lists bytes ops) ∧
      ∃ failure, Cli.run s arguments world = (.broken failure, world)) := by
  have read := asked.read content
  refine ⟨?_, ?_, ?_⟩
  · intro ops lists
    have run : Cli.run s arguments world = Command.run s (.batch root ops) world := by
      unfold Cli.run
      rw [read, operationsIn_of_lists content lists]
      rfl
    refine ⟨run, ?_⟩
    intro failure
    rw [run]
    exact broken_run_batch_iff
  · intro unlisted whole
    obtain ⟨reason, concerns, refused⟩ := operationsIn_of_unlisted content unlisted whole
    refine ⟨reason, concerns, ?_⟩
    unfold Cli.run
    rw [read, refused]
    rfl
  · intro breaks
    obtain ⟨failure, broken⟩ := operationsIn_of_breaks content breaks
    constructor
    · intro ops lists
      rw [operationsIn_of_lists content lists] at broken
      cases broken
    · refine ⟨failure, ?_⟩
      unfold Cli.run
      rw [read, broken]
      rfl

end Commands

end Cli

end Scalpel

/-! ### A file of operations that lists a text -/

namespace Scalpel.Cli

open Workspace

local instance fileHalves : Halves :=
  Halves.trial

def isOkWith {ε α : Type} [DecidableEq α] (value : α) : Except ε α → Bool
  | .ok other => other = value
  | .error _ => false

theorem eq_ok_of_isOkWith {ε α : Type} [DecidableEq α] {value : α} {result : Except ε α}
    (passed : isOkWith value result = true) : result = .ok value := by
  cases result with
  | ok other => rw [of_decide_eq_true passed]
  | error failure => contradiction

theorem asksBatch_batchLine :
    AsksBatch (batchFiles "[\"f\"]" "\x7b\x7d") batchLine "/w" "/w/ops.json" := by
  let own : Words := { options := [(.root, "/w")], words := ["/w/ops.json"] }
  have begun : wordsOf frontKeys false batchLine = .ok { words := batchLine } :=
    eq_ok_of_isOkWith (by decide +kernel)
  have apart : wordsOf batchShape.keys true ["/w/ops.json", "--root", "/w"] = .ok own :=
    eq_ok_of_isOkWith (by decide +kernel)
  have rooted : (do
      let options ← own.given.foldlM (Options.take (batchFiles "[\"f\"]" "\x7b\x7d")) {}
      options.rootIn (batchFiles "[\"f\"]" "\x7b\x7d")) = .ok "/w" :=
    eq_ok_of_isOkWith (by decide +kernel)
  have lookup : Path.checkLookup "/w/ops.json".toList = .ok () :=
    eq_ok_of_isOkWith (by decide +kernel)
  obtain ⟨options, taken, settled⟩ := exists_of_bind_ok rooted
  exact .line begun rfl apart taken rfl lookup settled

def isListOfText : Outcome Json → Bool
  | .ok (.arr [.str _]) => true
  | _ => false

theorem breaks_of_text : Breaks (Utf8.encode "[\"f\"]") := by
  have stopped : isListOfText (Text.ofFile (Utf8.encode "[\"f\"]") >>= Json.parsed) = true := by
    decide +kernel
  unfold isListOfText at stopped
  split at stopped
  · next text parsed =>
    have written : Writes (Utf8.encode "[\"f\"]") (.arr ([] ++ .str text :: [])) := writes_iff.mpr parsed
    exact .foreign written nofun nofun
  · contradiction

/-- The command breaks off at an entry that is a text. -/
theorem run_batch_of_text :
    AsksBatch (batchFiles "[\"f\"]" "\x7b\x7d") batchLine "/w" "/w/ops.json" ∧
      (batchFiles "[\"f\"]" "\x7b\x7d").readFile "/w/ops.json" = .ok (Utf8.encode "[\"f\"]") ∧
      Breaks (Utf8.encode "[\"f\"]") ∧
      ∃ failure, Cli.run clerkSurroundings batchLine (batchWorld "[\"f\"]" "\x7b\x7d") =
        (.broken failure, batchWorld "[\"f\"]" "\x7b\x7d") := by
  have content : (batchFiles "[\"f\"]" "\x7b\x7d").readFile "/w/ops.json" = .ok (Utf8.encode "[\"f\"]") := by
    decide +kernel
  have asked := asksBatch_batchLine
  exact ⟨asked, content, breaks_of_text, ((run_batch_of_file asked content).2.2 breaks_of_text).2⟩

end Scalpel.Cli
