import Scalpel.Cli.Run
import Scalpel.Proofs.Clerk
import Scalpel.Proofs.Stages

/-!
Batches of operations. A batch is its operations performed one after another, up to and including the
first one that does not succeed; what comes after that one is not begun. The command that runs a batch
reads its operations from a file. It ends well exactly if the workspace could be made ready and every
one of them has succeeded.
-/

set_option autoImplicit false

namespace Scalpel

variable [Halves]

namespace Workspace

variable {σ : Type} [Peer σ]

/-! ### Operations one after another -/

/-- Operations that were performed one after another, each with its result. -/
inductive Performed : Workspace σ → List (EditOperation × EditResult) → Workspace σ → Prop where
  | nil (w : Workspace σ) : Performed w [] w
  | cons {w mid after : Workspace σ} {op : EditOperation} {result : EditResult}
      {rest : List (EditOperation × EditResult)} (ran : Ends (perform op) w (.ok result) mid)
      (others : Performed mid rest after) : Performed w ((op, result) :: rest) after

/-- How far a batch gets: all of its operations but the last one that was performed have succeeded, and
if operations are left over, the last one has not. -/
def FailFast (ops : List EditOperation) (done : List (EditOperation × EditResult)) : Prop :=
  ∃ rest, ops = done.map Prod.fst ++ rest ∧
    (∀ entry ∈ done.dropLast, entry.2.success = true) ∧
    (rest ≠ [] → ∃ entry ∈ done.getLast?, entry.2.success = false)

section Steps

variable {w mid after : Workspace σ} {op : EditOperation} {ops : List EditOperation}
variable {result : EditResult} {results : List EditResult}

theorem ends_performAll_nil : Ends (performAll []) w (.ok []) w :=
  ends_pure.mpr ⟨rfl, rfl⟩

theorem ends_performAll_succeeded (ran : Ends (perform op) w (.ok result) mid)
    (succeeded : result.success = true) (others : Ends (performAll ops) mid (.ok results) after) :
    Ends (performAll (op :: ops)) w (.ok (result :: results)) after := by
  unfold performAll
  rw [ran.bind]
  apply ends_ite.mpr
  left
  constructor
  · exact succeeded
  · exact others.bind.mpr (ends_pure.mpr ⟨rfl, rfl⟩)

theorem ends_performAll_failed (ran : Ends (perform op) w (.ok result) mid)
    (failed : result.success = false) : Ends (performAll (op :: ops)) w (.ok [result]) mid := by
  unfold performAll
  rw [ran.bind]
  apply ends_ite.mpr
  right
  constructor
  · simp [failed]
  · exact ends_pure.mpr ⟨rfl, rfl⟩

end Steps

/-- A batch has a result: what its operations come to when they are performed one after another, as far
as it gets. -/
theorem exists_ends_performAll (ops : List EditOperation) (w : Workspace σ) :
    ∃ done after, Performed w done after ∧ FailFast ops done ∧
      Ends (performAll ops) w (.ok (done.map Prod.snd)) after := by
  induction ops generalizing w with
  | nil =>
      refine ⟨[], w, .nil w, ⟨[], rfl, ?_, ?_⟩, ends_performAll_nil⟩
      · simp
      · simp
  | cons op ops ih =>
      obtain ⟨result, mid, ran⟩ := exists_ends_perform op w
      by_cases succeeded : result.success = true
      · obtain ⟨done, after, performed, ⟨rest, split, earlier, stopped⟩, ended⟩ := ih mid
        refine ⟨(op, result) :: done, after, .cons ran performed, ⟨rest, ?_, ?_, ?_⟩,
          ends_performAll_succeeded ran succeeded ended⟩
        · rw [split]
          rfl
        · intro entry member
          cases done with
          | nil => simp at member
          | cons first others =>
              rw [List.dropLast_cons_cons] at member
              rcases List.mem_cons.mp member with rfl | later
              · exact succeeded
              · exact earlier entry later
        · intro left
          obtain ⟨entry, last, failed⟩ := stopped left
          refine ⟨entry, ?_, failed⟩
          rw [List.getLast?_cons, Option.mem_def.mp last]
          rfl
      · have failed : result.success = false := by simpa using succeeded
        refine ⟨[(op, result)], mid, .cons ran (.nil mid), ⟨ops, rfl, ?_, ?_⟩,
          ends_performAll_failed ran failed⟩
        · simp
        · intro left
          exact ⟨(op, result), rfl, failed⟩

omit [Halves] in
theorem FailFast.length_eq_iff {ops : List EditOperation}
    {done : List (EditOperation × EditResult)} (stops : FailFast ops done) :
    done.length = ops.length ↔
      ∀ i, i + 1 < ops.length → ∃ entry, done[i]? = some entry ∧ entry.2.success = true := by
  obtain ⟨rest, split, earlier, stopped⟩ := stops
  have count : ops.length = done.length + rest.length := by
    rw [split, List.length_append, List.length_map]
  constructor
  · intro same i early
    have inside : i < done.dropLast.length := by
      rw [List.length_dropLast]
      omega
    refine ⟨done.dropLast[i], ?_, earlier _ (List.getElem_mem inside)⟩
    rw [List.getElem_dropLast]
    exact List.getElem?_eq_getElem _
  · intro all
    apply Decidable.byContradiction
    intro different
    have left : rest ≠ [] := by
      intro none
      rw [none, List.length_nil] at count
      omega
    obtain ⟨last, atEnd, failed⟩ := stopped left
    have more := List.length_pos_iff.mpr left
    rw [Option.mem_def, List.getLast?_eq_getElem?] at atEnd
    have nonempty := (List.getElem?_eq_some_iff.mp atEnd).1
    obtain ⟨entry, found, succeeded⟩ := all (done.length - 1) (by omega)
    rw [atEnd] at found
    cases found
    rw [failed] at succeeded
    contradiction

/-! ### Batches in which every operation succeeds -/

/-- Every operation succeeds when they are performed one after another. -/
def AllSucceed (w : Workspace σ) (ops : List EditOperation) : Prop :=
  ∃ done after, Performed w done after ∧ done.map Prod.fst = ops ∧
    ∀ entry ∈ done, entry.2.success = true

theorem Performed.ends_performAll {w after : Workspace σ}
    {done : List (EditOperation × EditResult)} (performed : Performed w done after)
    (succeeded : ∀ entry ∈ done, entry.2.success = true) :
    Ends (performAll (done.map Prod.fst)) w (.ok (done.map Prod.snd)) after := by
  induction performed with
  | nil w => exact ends_performAll_nil
  | cons ran others ih =>
      have first := succeeded _ List.mem_cons_self
      apply ends_performAll_succeeded ran first
      apply ih
      intro entry member
      exact succeeded entry (List.mem_cons_of_mem _ member)

theorem allSucceed_iff (w : Workspace σ) (ops : List EditOperation) :
    AllSucceed w ops ↔ ∃ results after, Ends (performAll ops) w (.ok results) after ∧
      results.all (·.success) = true := by
  constructor
  · rintro ⟨done, after, performed, rfl, succeeded⟩
    refine ⟨done.map Prod.snd, after, performed.ends_performAll succeeded, ?_⟩
    rw [List.all_eq_true]
    intro result member
    obtain ⟨entry, among, rfl⟩ := List.mem_map.mp member
    exact succeeded entry among
  · rintro ⟨results, reached, ended, good⟩
    obtain ⟨done, after, performed, ⟨rest, split, -, stopped⟩, again⟩ := exists_ends_performAll ops w
    obtain ⟨same, -⟩ := ended.unique again
    cases same
    rw [List.all_eq_true] at good
    have succeeded (entry : EditOperation × EditResult) (member : entry ∈ done) :
        entry.2.success = true :=
      good entry.2 (List.mem_map_of_mem member)
    refine ⟨done, after, performed, ?_, succeeded⟩
    cases rest with
    | nil => rw [split, List.append_nil]
    | cons next rest =>
        obtain ⟨entry, last, failed⟩ := stopped (List.cons_ne_nil next rest)
        rw [succeeded entry (List.mem_of_getLast? last)] at failed
        contradiction

end Workspace

namespace Cli

open Workspace

variable {σ : Type} [Peer σ]

/-! ### The command -/

def workspaceFor (s : Surroundings) (root : String) (world : World σ) : Workspace σ :=
  { world, root, settings := s.settings, environ := s.environ }

theorem code_json (good : Bool) (value : Json) : (Exit.json good value).code = 0 ↔ good = true := by
  cases good <;> simp [Exit.json, Exit.code]

/-- A command in a workspace ends as its operation does; a failure of this one breaks it off. -/
theorem exit_inWorkspace {s : Surroundings} {root : String} {operation : Operation σ Exit}
    {world : World σ} {outcome : Outcome Exit} {after : Workspace σ}
    (ended : Ends operation (workspaceFor s root world) outcome after) :
    (inWorkspace s root operation world).1 =
      match outcome with
      | .ok exit => exit
      | .error failure => .broken failure := by
  have reached : operation.run
      { world, root, settings := s.settings, environ := s.environ } = (outcome, after) := ended
  unfold inWorkspace
  simp only [reached]
  cases outcome with
  | ok exit => rfl
  | error failure => rfl

theorem code_inWorkspace (s : Surroundings) (root : String) (operation : Operation σ Exit)
    (world : World σ) :
    (inWorkspace s root operation world).1.code = 0 ↔
      ∃ exit after, Ends operation (workspaceFor s root world) (.ok exit) after ∧ exit.code = 0 := by
  rcases found : operation.run (workspaceFor s root world) with ⟨outcome, after⟩
  have ended : Ends operation (workspaceFor s root world) outcome after := found
  rw [exit_inWorkspace ended]
  constructor
  · intro good
    cases outcome with
    | ok exit => exact ⟨exit, after, ended, good⟩
    | error failure => simp [Exit.code] at good
  · rintro ⟨exit, last, again, good⟩
    obtain ⟨rfl, -⟩ := ended.unique again
    exact good

theorem code_editAll {w : Workspace σ} {ops : List EditOperation} :
    (∃ exit after, Ends (editAll ops) w (.ok exit) after ∧ exit.code = 0) ↔
      ∃ settings opened, Ends openUp w (.ok settings) opened ∧ AllSucceed opened ops := by
  simp only [allSucceed_iff]
  constructor
  · rintro ⟨exit, after, ended, good⟩
    obtain ⟨settings, opened, made, rest⟩ := ends_bind_ok.mp ended
    obtain ⟨results, last, performed, told⟩ := ends_bind_ok.mp rest
    obtain ⟨same, rfl⟩ := ends_pure.mp told
    cases same
    exact ⟨settings, opened, made, results, after, performed, (code_json _ _).mp good⟩
  · rintro ⟨settings, opened, made, results, after, performed, good⟩
    refine ⟨_, after, made.bind.mpr (performed.bind.mpr (ends_pure.mpr ⟨rfl, rfl⟩)), ?_⟩
    exact (code_json _ _).mpr good

/-! ### The file of a batch -/

def Gives {α : Type} (good : α → Prop) (line : Line α) : Prop :=
  ∀ words value left, line.run words = .ok (value, left) → good value

section Gives

variable {α β : Type} {good : α → Prop}

omit [Halves] in
theorem gives_pure {value : α} (holds : good value) : Gives good (pure value : Line α) := by
  intro words result left done
  cases done
  exact holds

omit [Halves] in
theorem gives_bind {line : Line β} {next : β → Line α} (each : ∀ value, Gives good (next value)) :
    Gives good (line >>= next) := by
  intro words result left done
  rw [StateT.run_bind] at done
  rcases begun : line.run words with exit | ⟨value, rest⟩
  · rw [begun] at done
    cases done
  · rw [begun] at done
    exact each value rest result left done

omit [Halves] in
theorem gives_lift_bind {reading : Reading β} {next : β → Line α}
    (each : ∀ value, reading = .ok value → Gives good (next value)) :
    Gives good (liftM reading >>= next) := by
  intro words result left done
  cases read : reading with
  | error exit =>
      rw [read] at done
      cases done
  | ok value =>
      rw [read] at done
      exact each value read words result left done

end Gives

def FromFile (files : FileTree) (command : Command) : Prop :=
  ∀ root ops, command = .batch root ops → ∃ file, operationsIn files file = .ok ops

theorem gives_askingShape (question : Line Query) (files : FileTree) (o : Options) :
    Gives (FromFile files) ((askingShape question).read files o) :=
  gives_bind fun _ => gives_bind fun _ => gives_bind fun _ => gives_pure nofun

theorem gives_codeShape (kind : EditKind) (files : FileTree) (o : Options) :
    Gives (FromFile files) ((codeShape kind).read files o) :=
  gives_bind fun _ => gives_bind fun _ => gives_bind fun _ => gives_bind fun _ => gives_pure nofun

theorem gives_batchShape (files : FileTree) (o : Options) :
    Gives (FromFile files) (batchShape.read files o) := by
  apply gives_bind
  intro file
  apply gives_bind
  intro checked
  apply gives_bind
  intro root
  apply gives_lift_bind
  intro ops read
  apply gives_pure
  intro other listed same
  cases same
  exact ⟨file, read⟩

theorem gives_shapes {name : String} {shape : Shape} (named : (name, shape) ∈ shapes)
    (files : FileTree) (o : Options) : Gives (FromFile files) (shape.read files o) := by
  simp only [shapes, List.mem_cons, Prod.mk.injEq, List.not_mem_nil, or_false] at named
  rcases named with ⟨-, rfl⟩ | ⟨-, rfl⟩ | ⟨-, rfl⟩ | ⟨-, rfl⟩ | ⟨-, rfl⟩ | ⟨-, rfl⟩ | ⟨-, rfl⟩ |
    ⟨-, rfl⟩ | ⟨-, rfl⟩ | ⟨-, rfl⟩ | ⟨-, rfl⟩ | ⟨-, rfl⟩
  · exact gives_bind fun _ => gives_bind fun _ => gives_bind fun _ => gives_pure fun _ _ same => by
      cases same
  · exact gives_bind fun _ => gives_pure fun _ _ same => by
      cases same
  · exact gives_askingShape _ files o
  · exact gives_askingShape _ files o
  · exact gives_askingShape _ files o
  · exact gives_askingShape _ files o
  · exact gives_askingShape _ files o
  · exact gives_codeShape _ files o
  · exact gives_codeShape _ files o
  · exact gives_bind fun _ => gives_bind fun _ => gives_bind fun _ => gives_pure fun _ _ same => by
      cases same
  · exact gives_bind fun _ => gives_bind fun _ => gives_bind fun _ => gives_bind fun _ =>
      gives_pure fun _ _ same => by
        cases same
  · exact gives_batchShape files o

theorem exists_file_of_batch {files : FileTree} {arguments : List String} {root : String}
    {ops : List EditOperation} (given : Command.read files arguments = .ok (.batch root ops)) :
    ∃ file, operationsIn files file = .ok ops := by
  obtain ⟨words, -, given⟩ := exists_of_bind_ok given
  split at given
  · cases given
  · next name rest _ =>
    split at given
    · next shape named =>
      obtain ⟨words, -, given⟩ := exists_of_bind_ok given
      obtain ⟨options, -, given⟩ := exists_of_bind_ok given
      obtain ⟨⟨command, left⟩, read, given⟩ := exists_of_bind_ok given
      cases given
      have listed : (name, shape) ∈ shapes := by
        obtain ⟨front, back, split, -⟩ := List.lookup_eq_some_iff.mp named
        rw [split]
        exact List.mem_append_right front List.mem_cons_self
      exact gives_shapes listed files options _ _ _ read root ops rfl
    · obtain ⟨words, -, given⟩ := exists_of_bind_ok given
      cases given

/-- Where a part of reading gives no value, the command does not end well. -/
def Refuses {α : Type} (reading : Reading α) : Prop :=
  ∀ exit, reading = .error exit → exit.code ≠ 0

omit [Halves] in
theorem refuses_bind {α β : Type} {first : Reading α} {next : α → Reading β}
    (before : Refuses first) (behind : ∀ value, Refuses (next value)) :
    Refuses (first >>= next) := by
  intro exit stopped
  cases first with
  | error reason =>
      cases stopped
      exact before _ rfl
  | ok value => exact behind value exit stopped

theorem refuses_outcome {α : Type} (result : Outcome α) (file : String) :
    Refuses (match result with
      | .ok value => .ok value
      | .error failure =>
        if isOfContent failure then refuse (.badOperations file failure.message)
        else .error (.broken failure) : Reading α) := by
  intro exit stopped
  split at stopped
  · cases stopped
  · split at stopped
    · cases stopped
      simp [Exit.code]
    · cases stopped
      simp [Exit.code]

theorem refuses_operationsIn (files : FileTree) (file : String) :
    Refuses (operationsIn files file) := by
  apply refuses_bind (refuses_outcome _ file)
  intro value
  split
  · exact refuses_outcome _ file
  · intro exit stopped
    cases stopped
    simp [Exit.code]

/-! ### Batches as a whole -/

/-- A batch comes to its operations performed one after another up to and including the first one that
does not succeed, and leaves what they leave. It has as many results as operations exactly if none
failed before the last. The command for a batch whose operations can be read from their file ends well
exactly if its workspace could be made ready and every operation succeeds there. -/
theorem batch_fail_fast :
    (∀ (w : Workspace σ) (ops : List EditOperation), ∃ done after,
      Performed w done after ∧ FailFast ops done ∧
      Ends (performAll ops) w (.ok (done.map Prod.snd)) after ∧
      (done.length = ops.length ↔
        ∀ i, i + 1 < ops.length → ∃ entry, done[i]? = some entry ∧ entry.2.success = true)) ∧
    (∀ files file, Refuses (operationsIn files file)) ∧
    ∀ (s : Surroundings) (arguments : List String) (world : World σ) (root : String)
      (ops : List EditOperation), Command.read world.files arguments = .ok (.batch root ops) →
      (∃ file, operationsIn world.files file = .ok ops) ∧
      ((Cli.run s arguments world).1.code = 0 ↔
        ∃ settings opened, Ends openUp (workspaceFor s root world) (.ok settings) opened ∧
          AllSucceed opened ops) := by
  refine ⟨?_, refuses_operationsIn, ?_⟩
  · intro w ops
    obtain ⟨done, after, performed, stops, ended⟩ := exists_ends_performAll ops w
    exact ⟨done, after, performed, stops, ended, stops.length_eq_iff⟩
  · intro s arguments world root ops given
    refine ⟨exists_file_of_batch given, ?_⟩
    rw [Cli.run, given]
    exact (code_inWorkspace s root (editAll ops) world).trans code_editAll

end Cli

end Scalpel

/-! ### Two batches -/

namespace Scalpel.Cli

open Workspace

local instance batchHalves : Halves :=
  Halves.trial

/-- A directory with a file to edit, the operations of a batch and a config. -/
def batchFiles (ops config : String) : FileTree :=
  { entries := [
      ([['w']], .directory),
      ([['w'], "a.py".toList], .file (Utf8.encode "f = 1\n") 0o644),
      ([['w'], "ops.json".toList], .file (Utf8.encode ops) 0o644),
      ([['w'], ".tomos".toList], .directory),
      ([['w'], ".tomos".toList, "config.json".toList], .file (Utf8.encode config) 0o644)]
    workingDirectory := "/w" }

def batchWorld (ops config : String) : World Clerk :=
  { server := Clerk.editing, files := batchFiles ops config }

def batchLine : List String :=
  ["batch", "/w/ops.json", "--root", "/w"]

def operationsOf : Reading Command → List EditOperation
  | .ok (.batch _ ops) => ops
  | _ => []

def isBatchOf (count : Nat) : Reading Command → Bool
  | .ok (.batch root ops) => root = "/w" && ops.length = count
  | _ => false

theorem batch_of_isBatchOf {count : Nat} {reading : Reading Command}
    (read : isBatchOf count reading = true) :
    reading = .ok (.batch "/w" (operationsOf reading)) ∧ (operationsOf reading).length = count := by
  unfold isBatchOf at read
  split at read
  · simp only [Bool.and_eq_true, decide_eq_true_eq] at read
    obtain ⟨rfl, counted⟩ := read
    exact ⟨rfl, counted⟩
  · contradiction

/-- A command with operations of which there are none fails all the same where the settings of its
root cannot be loaded. -/
theorem batch_of_none_fails :
    Command.read (batchFiles "[]" "\x7b") batchLine = .ok (.batch "/w" []) ∧
      (∀ w : Workspace Clerk, AllSucceed w []) ∧
        (Cli.run {} batchLine (batchWorld "[]" "\x7b")).1.code = 1 := by
  refine ⟨?_, ?_, by decide +kernel⟩
  · have read : isBatchOf 0 (Command.read (batchFiles "[]" "\x7b") batchLine) = true := by
      decide +kernel
    obtain ⟨given, none⟩ := batch_of_isBatchOf read
    rw [given, List.length_eq_zero_iff.mp none]
  · intro w
    exact ⟨[], w, .nil w, rfl, nofun⟩

def clerkSurroundings : Surroundings :=
  { settings := some (Clerk.settings (.str "utf-8")) }

/-- A batch that takes out a symbol, then one that is nowhere, then the first one again. -/
def threeOperations : String :=
  "[\x7b\"type\":\"delete\",\"uri\":\"a.py\",\"target\":\"f\"\x7d,"
    ++ "\x7b\"type\":\"delete\",\"uri\":\"a.py\",\"target\":\"g\"\x7d,"
    ++ "\x7b\"type\":\"delete\",\"uri\":\"a.py\",\"target\":\"f\"\x7d]"

def threeWorld : World Clerk :=
  batchWorld threeOperations "\x7b\x7d"

def threeRead : List EditOperation :=
  operationsOf (Command.read threeWorld.files batchLine)

def threeOpened : Workspace Clerk :=
  (openUp.run (workspaceFor clerkSurroundings "/w" threeWorld)).2

def successes : Outcome (List EditResult) → List Bool
  | .ok results => results.map (·.success)
  | .error _ => []

/-- The second of three operations fails. The first stays done, the third is not begun, and the command does
not end well. -/
theorem batch_fail_fast_of_three :
    Command.read threeWorld.files batchLine = .ok (.batch "/w" threeRead) ∧ threeRead.length = 3 ∧
      (∃ done after, Performed threeOpened done after ∧ FailFast threeRead done ∧
        Ends (performAll threeRead) threeOpened (.ok (done.map Prod.snd)) after ∧
        done.map (·.2.success) = [true, false] ∧
        (after.world.files.readFile "/w/a.py").toOption = some [10]) ∧
      (Cli.run clerkSurroundings batchLine threeWorld).1.code = 1 ∧
      ¬∃ settings opened,
        Ends openUp (workspaceFor clerkSurroundings "/w" threeWorld) (.ok settings) opened ∧
          AllSucceed opened threeRead := by
  have read : isBatchOf 3 (Command.read threeWorld.files batchLine) = true := by
    decide +kernel
  obtain ⟨given, three⟩ := batch_of_isBatchOf read
  have failed : (Cli.run clerkSurroundings batchLine threeWorld).1.code = 1 := by
    decide +kernel
  refine ⟨given, three, ?_, failed, ?_⟩
  · obtain ⟨done, after, performed, stops, ended, -⟩ := batch_fail_fast.1 threeOpened threeRead
    have same : (performAll threeRead).run threeOpened = (.ok (done.map Prod.snd), after) := ended
    have marks : successes ((performAll threeRead).run threeOpened).1 = [true, false] := by
      decide +kernel
    have left : (((performAll threeRead).run threeOpened).2.world.files.readFile "/w/a.py").toOption =
        some [10] := by
      decide +kernel
    rw [same] at marks left
    exact ⟨done, after, performed, stops, ended, (List.map_map ..).symm.trans marks, left⟩
  · intro good
    have ended := (batch_fail_fast.2.2 clerkSurroundings batchLine threeWorld "/w" threeRead given).2.mpr good
    rw [failed] at ended
    cases ended

end Scalpel.Cli
