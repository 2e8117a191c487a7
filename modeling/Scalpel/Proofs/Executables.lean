import Scalpel.Proofs.Clerk
import Scalpel.Proofs.FileUris
import Scalpel.Proofs.Framing
import Scalpel.Proofs.WholeText
import Scalpel.Server.Binary

/-!
Executables of commands. A command is refused for the characters of a shell, or there is no executable
for it, or it has one that runs. The executable has an absolute path if the command is one or if it was
found in a directory of the search path that is given by one; else its path means another file as soon
as the working directory is another.
-/

set_option autoImplicit false

namespace Scalpel.Path

variable [Halves] {front rest : List Char} {c : Char}

/-! ### Paths that begin plainly -/

theorem charBytes_of_plain (plain : Text.IsPlain c) :
    ∃ byte : UInt8, charBytes c = [byte] ∧ byte.toNat = c.toNat := by
  rw [charBytes_of_whole (Half.not_isHalf_of_plain plain)]
  exact Frame.encodeChar_of_plain plain

theorem length_bytesOf (plain : ∀ c ∈ front, Text.IsPlain c) :
    (bytesOf front).length = front.length := by
  induction front with
  | nil => rfl
  | cons c more ih =>
      obtain ⟨byte, encoded, -⟩ := charBytes_of_plain (plain c List.mem_cons_self)
      have others := ih fun other member => plain other (List.mem_cons_of_mem c member)
      unfold bytesOf at others ⊢
      rw [List.flatMap_cons, encoded, List.length_append, others, List.length_cons]
      simp [Nat.add_comm]

theorem ofBytes_bytesOf_append (plain : ∀ c ∈ front, Text.IsPlain c) :
    ofBytes (bytesOf (front ++ rest)) = front ++ ofBytes (bytesOf rest) := by
  induction front with
  | nil => rfl
  | cons c more ih =>
      have small : Text.IsPlain c := plain c List.mem_cons_self
      obtain ⟨byte, encoded, same⟩ := charBytes_of_plain small
      have others := ih fun other member => plain other (List.mem_cons_of_mem c member)
      have low : byte < 0x80 := by
        rw [UInt8.lt_iff_toNat_lt, same]
        exact small
      unfold bytesOf at others ⊢
      rw [List.cons_append, List.flatMap_cons, encoded, List.singleton_append, ofBytes,
        Utf8.piece_one low, same, Char.ofNat_toNat]
      dsimp only
      rw [List.drop_zero, others, List.cons_append]

theorem exists_shown_append (plain : ∀ c ∈ front, Text.IsPlain c) (rest : List Char) :
    ∃ tail, shown (front ++ rest) = front ++ tail := by
  unfold shown
  split
  · exact ⟨_, ofBytes_bytesOf_append plain⟩
  · exact ⟨rest, rfl⟩

end Scalpel.Path

namespace Scalpel.FileTree

variable [Halves] {t : FileTree} {path : String}

/-! ### Other working directories -/

def seenFrom (t : FileTree) (directory : String) : FileTree :=
  { t with workingDirectory := directory }

theorem walk_seenFrom (directory : String) (follow : Bool) (fuel links : Nat) (here : Place)
    (names : List (List Char)) :
    (t.seenFrom directory).walk follow fuel links here names = t.walk follow fuel links here names := by
  induction fuel generalizing links here names with
  | zero => rfl
  | succ fuel ih =>
      cases names with
      | nil => rfl
      | cons name rest =>
          unfold walk
          simp only [ih]
          rfl

theorem find_seenFrom (absolute : Path.isAbsolute path.toList = true) (follow : Bool)
    (directory : String) : (t.seenFrom directory).find follow path = t.find follow path := by
  have same : (t.seenFrom directory).locate follow path = t.locate follow path := by
    have full : (t.seenFrom directory).fullPath path = t.fullPath path := by
      have begins : path.toList.head? = some '/' := by simpa [Path.isAbsolute] using absolute
      unfold fullPath
      rw [if_pos begins, if_pos begins]
    unfold locate
    dsimp only
    rw [full, walk_seenFrom]
    rfl
  unfold find
  rw [same]

def longName : List Char :=
  List.replicate 256 'a'

omit [Halves] in
theorem eq_of_mem_longName {c : Char} (member : c ∈ longName) : c = 'a' :=
  List.eq_of_mem_replicate member

theorem byteCount_longName : byteCount longName = 256 := by
  unfold byteCount
  rw [Path.length_bytesOf]
  · exact List.length_replicate
  · intro c member
    rw [eq_of_mem_longName member]
    decide

def nowhere : String :=
  String.ofList ('/' :: longName)

theorem walk_nowhere (follow : Bool) (fuel links : Nat) (names : List (List Char)) :
    t.walk follow (fuel + 2) links [] ([] :: longName :: names) = .error .nameTooLong := by
  have skipped : t.walk follow (fuel + 2) links [] ([] :: longName :: names) =
      t.walk follow (fuel + 1) links [] (longName :: names) := rfl
  have stays : (decide (longName = []) || decide (longName = ['.'])) = false := by decide
  rw [skipped]
  unfold walk
  dsimp only
  rw [stays, if_neg Bool.false_ne_true, if_neg (by decide), byteCount_longName, if_pos (by decide)]

theorem fullPath_nowhere (relative : Path.isAbsolute path.toList = false) :
    ∃ tail, (t.seenFrom nowhere).fullPath path = '/' :: (longName ++ '/' :: tail) := by
  have plain : ∀ c ∈ '/' :: (longName ++ ['/']), Text.IsPlain c := by
    intro c member
    have known : c = '/' ∨ c = 'a' := by
      rcases List.mem_cons.mp member with slash | inside
      · exact .inl slash
      · rcases List.mem_append.mp inside with letter | slash
        · exact .inr (eq_of_mem_longName letter)
        · exact .inl (List.mem_singleton.mp slash)
    rcases known with rfl | rfl
    · decide
    · decide
  obtain ⟨tail, shown⟩ := Path.exists_shown_append plain path.toList
  have begins : ¬path.toList.head? = some '/' := by simpa [Path.isAbsolute] using relative
  refine ⟨tail, ?_⟩
  unfold fullPath seenFrom nowhere
  rw [if_neg begins, String.toList_ofList]
  simpa using shown

theorem find_seenFrom_nowhere (relative : Path.isAbsolute path.toList = false) (follow : Bool) :
    ∃ fault, (t.seenFrom nowhere).find follow path = .error fault := by
  obtain ⟨tail, full⟩ := fullPath_nowhere (t := t) relative
  have single : '/' ∉ longName := by decide
  have parted : List.splitOn '/' ('/' :: (longName ++ '/' :: tail)) =
      [] :: longName :: List.splitOn '/' tail :=
    (Path.names_slash _).trans
      (congrArg _ (List.splitOn_append_cons_self_of_not_mem single _))
  have lost : ∃ fault, (t.seenFrom nowhere).locate follow path = .error fault := by
    unfold locate
    split
    · exact ⟨_, rfl⟩
    split
    · exact ⟨_, rfl⟩
    refine ⟨.nameTooLong, ?_⟩
    dsimp only
    rw [full, parted, List.length_cons, Nat.add_right_comm _ 1 2, Nat.add_right_comm _ 2]
    exact walk_nowhere follow _ _ _
  obtain ⟨fault, missing⟩ := lost
  refine ⟨fault, ?_⟩
  unfold find
  rw [missing]

/-! ### Files that run -/

/-- A path runs if it leads to a file that its owner may execute. -/
def Runs (t : FileTree) (path : String) : Prop :=
  '\x00' ∉ path.toList ∧
    ∃ place content mode, t.find true path = .ok (place, .file content mode) ∧ mode / 64 % 2 = 1

theorem Runs.seenFrom_iff (runs : t.Runs path) :
    (∀ directory, (t.seenFrom directory).find true path = t.find true path) ↔
      Path.isAbsolute path.toList = true := by
  constructor
  · intro same
    by_contra relative
    obtain ⟨fault, lost⟩ := find_seenFrom_nowhere (t := t) (Bool.eq_false_iff.mpr relative) true
    obtain ⟨-, place, content, mode, found, -⟩ := runs
    rw [same, found] at lost
    cases lost
  · intro absolute directory
    exact find_seenFrom absolute true directory

end Scalpel.FileTree

namespace Scalpel.Binary

open Scalpel

variable [Halves] {t : FileTree} {search command path : String} {language : Option String}

theorem isRunnable_iff : isRunnable t path = true ↔ t.Runs path := by
  unfold isRunnable FileTree.Runs FileTree.exists? FileTree.isExecutable FileTree.isDirectory
  by_cases null : '\x00' ∈ path.toList
  · simp [null]
  cases found : t.find true path with
  | error fault => simp [null, Except.isOk, Except.toBool]
  | ok leads =>
      obtain ⟨place, entry⟩ := leads
      cases entry with
      | file content mode => simp [null, Except.isOk, Except.toBool]
      | directory => simp [null, Except.isOk, Except.toBool]
      | link target => simp [null, Except.isOk, Except.toBool]

theorem isFile_and_isExecutable :
    (t.isFile path && t.isExecutable path) = isRunnable t path := by
  rw [Bool.eq_iff_iff, isRunnable_iff]
  unfold FileTree.Runs FileTree.isFile FileTree.isExecutable
  by_cases null : '\x00' ∈ path.toList
  · simp [null]
  cases found : t.find true path with
  | error fault => simp [null]
  | ok leads =>
      obtain ⟨place, entry⟩ := leads
      cases entry with
      | file content mode => simp [null]
      | directory => simp [null]
      | link target => simp [null]

/-! ### Characters of a shell -/

def IsHarmless (command : String) : Prop :=
  ∀ c ∈ command.toList, c ∉ shellCharacters

omit [Halves] in
theorem mem_shellCharactersOf {characters : List Char} {c : Char} :
    c ∈ shellCharactersOf characters ↔ c ∈ characters ∧ c ∈ shellCharacters := by
  have gathered (found : List Char) :
      c ∈ characters.foldl (fun found c =>
        if shellCharacters.contains c && !found.contains c then found ++ [c] else found) found ↔
        c ∈ found ∨ c ∈ characters ∧ c ∈ shellCharacters := by
    induction characters generalizing found with
    | nil => simp
    | cons first rest ih =>
        rw [List.foldl_cons, ih]
        split
        · next new =>
          rw [Bool.and_eq_true, List.contains_iff_mem] at new
          rw [List.mem_append, List.mem_singleton, List.mem_cons]
          grind
        · next old =>
          rw [Bool.and_eq_true, List.contains_iff_mem, Bool.not_eq_true', List.contains_eq_mem,
            decide_eq_false_iff_not] at old
          rw [List.mem_cons]
          grind
  unfold shellCharactersOf
  rw [gathered]
  simp

omit [Halves] in
theorem foundIn_eq_nil_iff : foundIn command = [] ↔ IsHarmless command := by
  rw [List.eq_nil_iff_forall_not_mem]
  unfold foundIn IsHarmless
  constructor
  · intro none c member shell
    exact none c (mem_shellCharactersOf.mpr ⟨member, shell⟩)
  · intro harmless c found
    obtain ⟨member, shell⟩ := mem_shellCharactersOf.mp found
    exact harmless c member shell

omit [Halves] in
theorem foundInCommand_str : foundInCommand (.str command) = .ok (foundIn command) := by
  have keys (characters : List Char) :
      (characters.map fun c => Json.str (String.singleton c)).mapM Json.asKey =
        (.ok (characters.map fun c => Json.str (String.singleton c)) : Outcome (List Json)) := by
    induction characters with
    | nil => rfl
    | cons first rest ih =>
        rw [List.map_cons, List.mapM_cons, ih]
        rfl
  unfold foundInCommand Json.listed
  change ((command.toList.map fun c => Json.str (String.singleton c)).mapM Json.asKey >>= _) = _
  rw [keys]
  refine congrArg (fun characters => Except.ok (shellCharactersOf characters)) ?_
  rw [List.filterMap_map]
  refine (List.filterMap_congr fun c _ => ?_).trans List.filterMap_some
  simp

/-! ### Where an executable is looked for -/

def isDirect (command : String) : Bool :=
  isAbsolute command || !(Path.directory command.toList).isEmpty

def directories (search : String) : List (List Char) :=
  (Path.shown search.toList).splitOn ':'

def candidates (search command : String) : List String :=
  if isDirect command then [command]
  else if search.isEmpty then []
  else (directories search).map fun directory =>
    String.ofList (Path.join directory command.toList)

theorem which?_eq (relative : isAbsolute command = false) :
    which? t search command = (candidates search command).find? (isRunnable t) := by
  unfold which? candidates isDirect
  rw [relative, Bool.false_or]
  split
  · rw [List.find?_singleton]
  · split
    · rfl
    · rfl

theorem resolve_of_harmless (harmless : IsHarmless command) :
    resolve t search (.str command) language =
      match (candidates search command).find? (isRunnable t) with
      | some path => .ok path
      | none => fail (.binaryNotFound command
          { operation := some "resolve_binary", language, component := some "binary" }) := by
  unfold resolve
  rw [foundInCommand_str, foundIn_eq_nil_iff.mpr harmless]
  change (if isAbsolute command = true then _ else _) = _
  by_cases absolute : isAbsolute command = true
  · have direct : candidates search command = [command] := by
      unfold candidates isDirect
      rw [absolute, Bool.true_or, if_pos rfl]
    rw [if_pos absolute, direct, isFile_and_isExecutable, List.find?_singleton]
    split
    · rfl
    · rfl
  · rw [if_neg absolute, which?_eq (Bool.eq_false_iff.mpr absolute)]
    rfl

theorem resolve_of_not_harmless (harmful : ¬IsHarmless command) :
    ∃ problem, problem.kind = .securityViolation ∧
      resolve t search (.str command) language = .error (.problem problem) := by
  have given : (foundIn command).isEmpty = false := by
    rw [List.isEmpty_eq_false_iff]
    exact mt foundIn_eq_nil_iff.mp harmful
  refine ⟨.shellCharacters (.str command) (foundIn command)
    { operation := some "resolve_binary", language, component := some "binary" }, rfl, ?_⟩
  unfold resolve
  rw [foundInCommand_str]
  dsimp only [bind, Except.bind]
  rw [given]
  rfl

/-- A command that is an absolute path, or is looked up under a directory that is given by one. -/
def Anchored (search command path : String) : Prop :=
  Path.isAbsolute command.toList = true ∨
    isDirect command = false ∧ ∃ directory ∈ directories search,
      Path.isAbsolute directory = true ∧ path = String.ofList (Path.join directory command.toList)

omit [Halves] in
theorem isAbsolute_of_path (absolute : Path.isAbsolute command.toList = true) :
    isAbsolute command = true := by
  unfold isAbsolute
  cases chars : command.toList with
  | nil =>
      rw [chars] at absolute
      cases absolute
  | cons first rest =>
      rw [chars] at absolute
      obtain rfl : first = '/' := by simpa [Path.isAbsolute] using absolute
      rfl

theorem isAbsolute_iff_anchored (member : path ∈ candidates search command) :
    Path.isAbsolute path.toList = true ↔ Anchored search command path := by
  unfold candidates at member
  unfold Anchored
  split at member
  · next direct =>
    rw [List.mem_singleton.mp member, direct]
    simp
  · next bare =>
    have indirect : isDirect command = false := Bool.eq_false_iff.mpr bare
    have relative : Path.isAbsolute command.toList = false := by
      rw [Bool.eq_false_iff]
      intro absolute
      apply bare
      unfold isDirect
      rw [isAbsolute_of_path absolute, Bool.true_or]
    split at member
    · cases member
    obtain ⟨directory, listed, rfl⟩ := List.mem_map.mp member
    have inherited (base : List Char) :
        Path.isAbsolute (Path.join base command.toList) = Path.isAbsolute base := by
      rw [Path.isAbsolute_join, relative, Bool.false_or]
    rw [String.toList_ofList, inherited]
    constructor
    · intro absolute
      exact .inr ⟨indirect, directory, listed, absolute, rfl⟩
    · rintro (absolute | ⟨-, other, -, absolute, same⟩)
      · rw [relative] at absolute
        cases absolute
      · rw [← inherited, String.ofList_injective same, inherited]
        exact absolute

/-! ### Commands and their executables -/

/-- A command is refused exactly for the characters of a shell. Else the first of its paths that runs is
its executable, or there is none and none of them runs. The executable has an absolute path exactly if
the command is one or was found in a directory that is given by one, and exactly then its path leads
to the same file from every working directory. -/
theorem resolve_runs (t : FileTree) (search command : String) (language : Option String) :
    (¬IsHarmless command ∧ ∃ problem, problem.kind = .securityViolation ∧
      resolve t search (.str command) language = .error (.problem problem)) ∨
    (IsHarmless command ∧ (∀ path ∈ candidates search command, ¬t.Runs path) ∧
      ∃ problem, problem.kind = .binaryNotFound ∧
        resolve t search (.str command) language = .error (.problem problem)) ∨
    IsHarmless command ∧ ∃ before path after, candidates search command = before ++ path :: after ∧
      (∀ earlier ∈ before, ¬t.Runs earlier) ∧ t.Runs path ∧
      resolve t search (.str command) language = .ok path ∧
      (Path.isAbsolute path.toList = true ↔ Anchored search command path) ∧
      ((∀ directory, (t.seenFrom directory).find true path = t.find true path) ↔
        Anchored search command path) := by
  by_cases harmless : IsHarmless command
  · right
    have resolved : resolve t search (.str command) language = _ := resolve_of_harmless harmless
    cases found : (candidates search command).find? (isRunnable t) with
    | none =>
        left
        rw [found] at resolved
        refine ⟨harmless, ?_, _, rfl, resolved⟩
        intro path member runs
        exact List.find?_eq_none.mp found path member (isRunnable_iff.mpr runs)
    | some path =>
        right
        rw [found] at resolved
        obtain ⟨runnable, before, after, parted, earlier⟩ := List.find?_eq_some_iff_append.mp found
        have runs : t.Runs path := isRunnable_iff.mp runnable
        have anchored : Path.isAbsolute path.toList = true ↔ Anchored search command path := by
          apply isAbsolute_iff_anchored
          rw [parted]
          exact List.mem_append_right _ List.mem_cons_self
        refine ⟨harmless, before, path, after, parted, ?_, runs, resolved, anchored, ?_⟩
        · intro other member
          have idle := earlier other member
          rw [Bool.not_eq_true', Bool.eq_false_iff] at idle
          exact mt isRunnable_iff.mpr idle
        · rw [runs.seenFrom_iff, anchored]
  · left
    exact ⟨harmless, resolve_of_not_harmless harmless⟩

end Scalpel.Binary

/-! ### A directory of the search path that is given by a relative path -/

namespace Scalpel.Binary

local instance executablesHalves : Halves :=
  Halves.trial

example :
    (resolve
      { entries := [([['w']], .directory), ([['w'], ['b']], .directory),
          ([['w'], ['b'], ['l', 's']], .file [] 0o755)]
        workingDirectory := "/w" }
      "b" (.str "ls") none).toOption = some "b/ls" := by
  decide +kernel

end Scalpel.Binary
