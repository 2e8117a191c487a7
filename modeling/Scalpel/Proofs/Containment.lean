import Scalpel.Proofs.Clerk
import Scalpel.Proofs.RealPaths

/-!
What lies within a directory. Real paths are compared as texts, and the comparison is exact for their
names: a path lies within a directory if its names go on from those of the directory. The root of the
file system is the one directory whose path ends with a slash, and nothing but itself lies within it.
-/

set_option autoImplicit false

namespace Scalpel.Path

variable {names base all : List (List Char)} {name : List Char}

/-! ### Names from the root -/

theorem steps_fromRoot (proper : ∀ name ∈ names, Proper name) :
    steps (String.ofList (fromRoot names)) = names := by
  have given : ∀ name ∈ names, decide (name ≠ []) = true :=
    fun name member => decide_eq_true (proper name member).given
  unfold steps
  rw [String.toList_ofList]
  by_cases root : names = []
  · subst root
    rfl
  · rw [names_fromRoot (fun name member => (proper name member).single) root,
      List.filter_cons_of_neg (by simp)]
    exact List.filter_eq_self.mpr given

/-- Every path that goes on from one other than the root has that path and a slash in front. -/
theorem fromRoot_prefix (more : List (List Char)) (given : base ≠ []) :
    fromRoot base ++ ['/'] <+: fromRoot (base ++ more ++ [name]) := by
  induction more using List.reverseRecOn generalizing name with
  | nil =>
      rw [List.append_nil, fromRoot_concat, if_neg given]
      exact ⟨name, by simp⟩
  | append_singleton more last ih =>
      have earlier : fromRoot base ++ ['/'] <+: fromRoot (base ++ more ++ [last]) := ih
      rw [← List.append_assoc, fromRoot_concat, if_neg (by simp)]
      exact earlier.trans (List.prefix_append _ _)

theorem not_prefix_fromRoot (proper : ∀ name ∈ names, Proper name) :
    ¬['/', '/'] <+: fromRoot names := by
  intro doubled
  cases names with
  | nil => simp [fromRoot, joinNames, List.intercalate] at doubled
  | cons first rest =>
      have fits := proper first List.mem_cons_self
      obtain ⟨tail, begins⟩ := joinNames_cons first rest
      unfold fromRoot at doubled
      rw [begins] at doubled
      obtain ⟨-, slash⟩ := List.cons_prefix_cons.mp doubled
      cases first with
      | nil => exact fits.given rfl
      | cons char others =>
          obtain ⟨same, -⟩ := List.cons_prefix_cons.mp slash
          exact fits.single (same ▸ List.mem_cons_self)

/-- A path lies inside another one if its names go on from those of the other. Inside the root there is
only the root. -/
def Inside (base path : String) : Prop :=
  Below base path ∧ (base = "/" → path = "/")

instance (base path : String) : Decidable (Inside base path) :=
  inferInstanceAs (Decidable (_ ∧ _))

theorem fromRoot_eq_slash_iff (proper : ∀ name ∈ names, Proper name) :
    String.ofList (fromRoot names) = "/" ↔ names = [] := by
  constructor
  · intro same
    rw [← steps_fromRoot proper, same]
    rfl
  · intro root
    rw [root]
    rfl

/-- Comparing the texts of two paths from the root tells whether one lies inside the other. -/
theorem continues_fromRoot_iff (above : ∀ name ∈ base, Proper name)
    (proper : ∀ name ∈ all, Proper name) :
    FileTree.continues (String.ofList (fromRoot all)) (String.ofList (fromRoot base)) = true ↔
      Inside (String.ofList (fromRoot base)) (String.ofList (fromRoot all)) := by
  have below : Below (String.ofList (fromRoot base)) (String.ofList (fromRoot all)) ↔
      base <+: all := by
    unfold Below
    rw [steps_fromRoot above, steps_fromRoot proper]
  constructor
  · intro continues
    refine ⟨below_of_continues continues, ?_⟩
    intro root
    rw [fromRoot_eq_slash_iff above] at root
    subst root
    unfold FileTree.continues at continues
    rw [Bool.or_eq_true, decide_eq_true_eq, List.isPrefixOf_iff_prefix, String.toList_ofList,
      String.toList_ofList] at continues
    rcases continues with same | doubled
    · exact same
    · exact absurd doubled (not_prefix_fromRoot proper)
  · rintro ⟨begins, root⟩
    obtain ⟨more, rfl⟩ := below.mp begins
    rw [fromRoot_eq_slash_iff above, fromRoot_eq_slash_iff proper] at root
    unfold FileTree.continues
    rw [Bool.or_eq_true, decide_eq_true_eq, List.isPrefixOf_iff_prefix, String.toList_ofList,
      String.toList_ofList]
    rcases List.eq_nil_or_concat' more with rfl | ⟨between, last, rfl⟩
    · left
      rw [List.append_nil]
    · right
      have given : base ≠ [] := by
        intro empty
        have none := root empty
        simp at none
      rw [← List.append_assoc]
      exact fromRoot_prefix between given

theorem mem_names_of_mem {path : List Char} {char : Char} (member : char ∈ path)
    (inner : char ≠ '/') : ∃ name ∈ Path.names path, char ∈ name := by
  unfold Path.names List.splitOn
  induction path with
  | nil => exact absurd member List.not_mem_nil
  | cons first rest ih =>
      rw [List.splitOnP_cons_eq_if_modifyHead]
      cases parted : List.splitOnP (· == '/') rest with
      | nil => exact absurd parted (List.splitOnP_ne_nil _ _)
      | cons head others =>
          rw [parted] at ih
          rcases List.mem_cons.mp member with rfl | later
          · rw [if_neg (by simpa using inner)]
            exact ⟨char :: head, List.mem_cons_self, List.mem_cons_self⟩
          obtain ⟨name, found, inside⟩ := ih later
          split
          · exact ⟨name, List.mem_cons_of_mem _ found, inside⟩
          · rcases List.mem_cons.mp found with rfl | further
            · exact ⟨first :: name, List.mem_cons_self, List.mem_cons_of_mem _ inside⟩
            · exact ⟨name, List.mem_cons_of_mem _ further, inside⟩

end Scalpel.Path

namespace Scalpel.FileTree

variable [Halves] {t : FileTree} {uri root path base real : String}

/-! ### Real paths -/

/-- The real path of a path: its canonical path, which goes down from the root by names of which none
is a link. -/
structure RealPath (t : FileTree) (path real : String) : Prop where
  resolved : t.canonical? path = .ok real
  solid : ∃ names, t.Solid names ∧ real = String.ofList (Path.fromRoot names)

namespace RealPath

theorem again (found : t.RealPath path real) : t.RealPath real real := by
  obtain ⟨names, solid, rfl⟩ := found.solid
  exact ⟨canonical?_fromRoot solid, names, solid, rfl⟩

/-- Unless a link on the way leads back to itself, the canonical path of an absolute path is real. -/
theorem of_unlooped (unlooped : t.Unlooped) (absolute : Path.isAbsolute path.toList = true)
    (found : t.canonical? path = .ok real) : t.RealPath path real :=
  ⟨found, solid_of_canonical? unlooped absolute found⟩

theorem isWithin_eq (rooted : t.RealPath root base) (found : t.RealPath path real) :
    t.isWithin path root = .ok (decide (Path.Inside base real)) := by
  refine isWithin_eq_ok.mpr ⟨real, base, found.resolved, rooted.resolved, ?_⟩
  obtain ⟨above, higher, rfl⟩ := rooted.solid
  obtain ⟨names, solid, rfl⟩ := found.solid
  rw [Bool.eq_iff_iff, decide_eq_true_iff, Path.continues_fromRoot_iff higher.proper solid.proper]

end RealPath

/-- A request for a path is settled by where its real path is: inside a directory it is found, and else
it is refused as a violation of security. -/
structure Settled (base real : String) (outcome : Outcome String) : Prop where
  found : Path.Inside base real → outcome = .ok real
  refused : ¬Path.Inside base real →
    ∃ problem, problem.kind = .securityViolation ∧ outcome = .error (.problem problem)

theorem settled_safeJoin (rooted : t.RealPath root base) (given : path ≠ "")
    (plain : '\x00' ∉ path.toList)
    (leads : t.RealPath (String.ofList (Path.join root.toList path.toList)) real) :
    Settled base real (t.safeJoin root path) := by
  have within := rooted.isWithin_eq leads.again
  have nonempty : path.isEmpty = false := by simpa using given
  have clean : path.toList.contains '\x00' = false := by simpa using plain
  have whole : t.safeJoin root path =
      if decide (Path.Inside base real) then .ok real
      else fail (.outsideRoot path base { additional := [("path", .str path)] }) := by
    unfold safeJoin
    rw [nonempty, clean, leads.resolved]
    change (t.isWithin real root >>= fun inside => _) = _
    rw [within, rooted.resolved]
    rfl
  rw [whole]
  constructor
  · intro inside
    rw [decide_eq_true inside]
    rfl
  · intro outside
    rw [decide_eq_false outside]
    exact ⟨_, rfl, rfl⟩

theorem safeJoin_of_unfit (unfit : path = "" ∨ '\x00' ∈ path.toList) :
    ∃ problem, problem.kind = .securityViolation ∧
      t.safeJoin root path = .error (.problem problem) := by
  by_cases empty : path = ""
  · subst empty
    exact ⟨_, rfl, rfl⟩
  · have nonempty : path.isEmpty = false := by simpa using empty
    have null : path.toList.contains '\x00' = true := by
      simpa using unfit.resolve_left empty
    refine ⟨.nullInPath, rfl, ?_⟩
    unfold safeJoin
    rw [nonempty, null]
    rfl

theorem resolveDocument_of_relative (named : Uri.toPath uri = .ok path)
    (relative : Path.isAbsolute path.toList = false) :
    t.resolveDocument uri root = t.safeJoin root path := by
  unfold resolveDocument
  rw [named]
  change (if Path.isAbsolute path.toList = true then _ else _) = _
  rw [relative]
  rfl

theorem resolveDocument_of_isAbsolute (named : Uri.toPath uri = .ok path)
    (absolute : Path.isAbsolute path.toList = true) :
    t.resolveDocument uri root = (do
      if ← t.isWithin path root then t.canonical? path
      else fail (.outsideRoot path (← t.canonical? root) { uri := some uri })) := by
  unfold resolveDocument
  rw [named]
  change (if Path.isAbsolute path.toList = true then _ else _) = _
  rw [absolute]
  rfl

theorem settled_resolveDocument (rooted : t.RealPath root base) (named : Uri.toPath uri = .ok path)
    (given : path ≠ "") (plain : '\x00' ∉ path.toList)
    (leads : t.RealPath (String.ofList (Path.join root.toList path.toList)) real) :
    Settled base real (t.resolveDocument uri root) := by
  by_cases absolute : Path.isAbsolute path.toList = true
  · have whole : String.ofList (Path.join root.toList path.toList) = path := by
      rw [Path.join_of_isAbsolute absolute, String.ofList_toList]
    rw [whole] at leads
    rw [resolveDocument_of_isAbsolute named absolute, rooted.isWithin_eq leads]
    constructor
    · intro inside
      rw [decide_eq_true inside]
      exact leads.resolved
    · intro outside
      rw [decide_eq_false outside, rooted.resolved]
      exact ⟨_, rfl, rfl⟩
  · rw [resolveDocument_of_relative named (Bool.eq_false_iff.mpr absolute)]
    exact settled_safeJoin rooted given plain leads

/-! ### Null characters -/

theorem plain_of_linkAt? {path : List Char} {target? : Option (List Char)}
    (linked : t.linkAt? path = .ok target?) : '\x00' ∉ path := by
  intro null
  have checked : ∃ failure, Path.checkLookup path = .error failure := by
    unfold Path.checkLookup
    cases Path.bytes path with
    | error failure => exact ⟨failure, rfl⟩
    | ok value =>
        refine ⟨.invalid "embedded null byte", ?_⟩
        change (if path.contains '\x00' then _ else _) = _
        rw [if_pos (by simpa using null)]
  obtain ⟨failure, checked⟩ := checked
  unfold FileTree.linkAt? at linked
  rw [checked] at linked
  cases linked

theorem linkAt?_of_resolveNames {fuel : Nat} {seen : Seen} {here name : List Char}
    {rest : List (List Char)} {found : Resolved} (given : name ≠ []) (onward : name ≠ ['.'])
    (downward : name ≠ ['.', '.'])
    (resolved : t.resolveNames (fuel + 1) seen here (name :: rest) = .ok found) :
    ∃ target?, t.linkAt? (Path.join here name) = .ok target? := by
  unfold resolveNames at resolved
  dsimp only at resolved
  rw [if_neg (by simp [given, onward]), if_neg downward] at resolved
  cases linked : t.linkAt? (Path.join here name) with
  | error failure =>
      rw [linked] at resolved
      cases resolved
  | ok target? => exact ⟨target?, rfl⟩

theorem plain_of_resolveNames_cons {fuel : Nat} {seen : Seen} {here name : List Char}
    {rest : List (List Char)} {found : Resolved}
    (resolved : t.resolveNames (fuel + 1) seen here (name :: rest) = .ok found) :
    '\x00' ∉ name := by
  by_cases special : name = [] ∨ name = ['.'] ∨ name = ['.', '.']
  · rcases special with rfl | rfl | rfl <;> decide
  · rw [not_or, not_or] at special
    obtain ⟨given, onward, downward⟩ := special
    obtain ⟨target?, linked⟩ := linkAt?_of_resolveNames given onward downward resolved
    intro null
    refine plain_of_linkAt? linked ?_
    unfold Path.join
    split
    · exact null
    · split
      · exact List.mem_append_right _ null
      · exact List.mem_append_right _ (List.mem_cons_of_mem _ null)

/-- Names are looked up one after the other, so those of a path that is resolved to its end have no null
character in them. -/
theorem plain_of_resolveNames {fuel : Nat} {seen : Seen} {here name : List Char}
    {names : List (List Char)} {found : Resolved}
    (resolved : t.resolveNames fuel seen here names = .ok found) (complete : found.isComplete = true)
    (member : name ∈ names) : '\x00' ∉ name := by
  induction fuel generalizing seen here names with
  | zero =>
      cases resolved
      cases complete
  | succ fuel ih =>
      cases names with
      | nil => exact absurd member List.not_mem_nil
      | cons first rest =>
          rcases List.mem_cons.mp member with rfl | later
          · exact plain_of_resolveNames_cons resolved
          cases turn_of_resolveNames resolved with
          | here _ resolved => exact ih resolved later
          | up _ resolved => exact ih resolved later
          | down _ _ _ _ resolved => exact ih resolved later
          | known _ resolved => exact ih resolved later
          | looped _ incomplete => cases complete.symm.trans incomplete
          | followed _ _ _ resolved => exact ih resolved later
          | lost _ _ _ incomplete => cases complete.symm.trans incomplete

theorem canonical?_of_null (unlooped : t.Unlooped) (absolute : Path.isAbsolute path.toList = true)
    (null : '\x00' ∈ path.toList) : ∃ failure, t.canonical? path = .error failure := by
  cases found : t.canonical? path with
  | error failure => exact ⟨failure, rfl⟩
  | ok real =>
      unfold canonical? at found
      dsimp only at found
      rw [if_pos absolute] at found
      rcases resolved : t.resolveNames (t.resolveFuel path.toList) [] ['/'] (Path.names path.toList)
        with failure | last
      · rw [resolved] at found
        cases found
      obtain ⟨name, member, inside⟩ := Path.mem_names_of_mem null (by decide)
      exact absurd inside
        (plain_of_resolveNames resolved (unlooped path last absolute resolved) member)

theorem resolveDocument_of_unfit (unlooped : t.Unlooped) (named : Uri.toPath uri = .ok path)
    (unfit : path = "" ∨ '\x00' ∈ path.toList) :
    ∃ failure, t.resolveDocument uri root = .error failure := by
  by_cases absolute : Path.isAbsolute path.toList = true
  · have null : '\x00' ∈ path.toList := by
      rcases unfit with rfl | null
      · cases absolute
      · exact null
    obtain ⟨failure, missing⟩ := canonical?_of_null unlooped absolute null
    refine ⟨failure, ?_⟩
    rw [resolveDocument_of_isAbsolute named absolute]
    unfold isWithin
    rw [missing]
    rfl
  · have unfound : ∃ problem, problem.kind = .securityViolation ∧
        t.safeJoin root path = .error (.problem problem) := safeJoin_of_unfit unfit
    obtain ⟨problem, -, refused⟩ := unfound
    refine ⟨.problem problem, ?_⟩
    rw [resolveDocument_of_relative named (Bool.eq_false_iff.mpr absolute), refused]

/-! ### Containment -/

/-- A path leads from a directory to a place inside it: it is given, it has no null character, and its real
path lies inside that of the directory. -/
structure Reaches (t : FileTree) (root base path real : String) : Prop where
  given : path ≠ ""
  plain : '\x00' ∉ path.toList
  leads : t.RealPath (String.ofList (Path.join root.toList path.toList)) real
  inside : Path.Inside base real

/-- Unless a link on the way leads back to itself, a path that is asked for below an absolute directory
has a real path or no canonical path at all. -/
theorem canonical?_of_unreal (unlooped : t.Unlooped) (absolute : Path.isAbsolute root.toList = true)
    (unreal : ∀ real, ¬t.RealPath (String.ofList (Path.join root.toList path.toList)) real) :
    ∃ failure, t.canonical? (String.ofList (Path.join root.toList path.toList)) = .error failure := by
  cases found : t.canonical? (String.ofList (Path.join root.toList path.toList)) with
  | error failure => exact ⟨failure, rfl⟩
  | ok real =>
      have onward : Path.isAbsolute (String.ofList (Path.join root.toList path.toList)).toList =
          true := by
        rw [String.toList_ofList, Path.isAbsolute_join, absolute, Bool.or_true]
      exact absurd (.of_unlooped unlooped onward found) (unreal real)

theorem safeJoin_of_unresolved {failure : Failure}
    (missing : t.canonical? (String.ofList (Path.join root.toList path.toList)) = .error failure) :
    ∃ failure, t.safeJoin root path = .error failure := by
  by_cases unfit : path = "" ∨ '\x00' ∈ path.toList
  · obtain ⟨problem, -, refused⟩ := safeJoin_of_unfit (t := t) unfit
    exact ⟨_, refused⟩
  · rw [not_or] at unfit
    have nonempty : path.isEmpty = false := by simpa using unfit.1
    have clean : path.toList.contains '\x00' = false := by simpa using unfit.2
    refine ⟨failure, ?_⟩
    unfold safeJoin
    rw [nonempty, clean, missing]
    rfl

theorem resolveDocument_of_unresolved {failure : Failure} (named : Uri.toPath uri = .ok path)
    (missing : t.canonical? (String.ofList (Path.join root.toList path.toList)) = .error failure) :
    ∃ failure, t.resolveDocument uri root = .error failure := by
  by_cases absolute : Path.isAbsolute path.toList = true
  · have whole : String.ofList (Path.join root.toList path.toList) = path := by
      rw [Path.join_of_isAbsolute absolute, String.ofList_toList]
    rw [whole] at missing
    refine ⟨failure, ?_⟩
    rw [resolveDocument_of_isAbsolute named absolute]
    unfold isWithin
    rw [missing]
    rfl
  · rw [resolveDocument_of_relative named (Bool.eq_false_iff.mpr absolute)]
    exact safeJoin_of_unresolved missing

/-- An outcome that fails for unfit paths and for those without a real path, and is settled for all
others, is a success for what leads inside. -/
theorem eq_ok_iff_reaches {outcome : Outcome String}
    (settled : ∀ {other : String}, path ≠ "" → '\x00' ∉ path.toList →
      t.RealPath (String.ofList (Path.join root.toList path.toList)) other →
        Settled base other outcome)
    (unfit : path = "" ∨ '\x00' ∈ path.toList → ∃ failure, outcome = .error failure)
    (unreal : (∀ other, ¬t.RealPath (String.ofList (Path.join root.toList path.toList)) other) →
      ∃ failure, outcome = .error failure) :
    outcome = .ok real ↔ t.Reaches root base path real := by
  constructor
  · intro found
    have impossible {goal : Prop} (failed : ∃ failure, outcome = .error failure) : goal := by
      obtain ⟨failure, failed⟩ := failed
      rw [failed] at found
      cases found
    by_cases missing : path = "" ∨ '\x00' ∈ path.toList
    · exact impossible (unfit missing)
    obtain ⟨given, plain⟩ := not_or.mp missing
    by_cases leads : ∃ other, t.RealPath (String.ofList (Path.join root.toList path.toList)) other
    · obtain ⟨other, leads⟩ := leads
      have known := settled given plain leads
      by_cases inside : Path.Inside base other
      · have same := known.found inside
        rw [found] at same
        cases same
        exact ⟨given, plain, leads, inside⟩
      · obtain ⟨problem, -, refused⟩ := known.refused inside
        exact impossible ⟨_, refused⟩
    · exact impossible (unreal (not_exists.mp leads))
  · intro reaches
    exact (settled reaches.given reaches.plain reaches.leads).found reaches.inside

/-- For a directory with the real path `base`, what is within it is told by the names of real paths: they
go on from those of `base`, and within the root there is only the root. What leads there is found
below the directory and as a document, unless the path is empty or has a null character, and what
leads elsewhere is refused. Where no link leads back to itself, nothing else is found. -/
theorem contained_exactly (rooted : t.RealPath root base) :
    (∀ {path real : String}, t.RealPath path real →
      t.isWithin path root = .ok (decide (Path.Inside base real))) ∧
    (∀ (path : String) {real : String}, path ≠ "" → '\x00' ∉ path.toList →
      t.RealPath (String.ofList (Path.join root.toList path.toList)) real →
        Settled base real (t.safeJoin root path) ∧
          ∀ (uri : String), Uri.toPath uri = .ok path →
            Settled base real (t.resolveDocument uri root)) ∧
    (∀ (path : String), path = "" ∨ '\x00' ∈ path.toList →
      (∃ problem, problem.kind = .securityViolation ∧
        t.safeJoin root path = .error (.problem problem)) ∧
      ∀ (uri : String), Uri.toPath uri = .ok path → t.Unlooped →
        ∃ failure, t.resolveDocument uri root = .error failure) ∧
    (t.Unlooped → Path.isAbsolute root.toList = true → ∀ (path real : String),
      (t.safeJoin root path = .ok real ↔ t.Reaches root base path real) ∧
      ∀ (uri : String), Uri.toPath uri = .ok path →
        (t.resolveDocument uri root = .ok real ↔ t.Reaches root base path real)) := by
  refine ⟨fun found => rooted.isWithin_eq found, ?_, ?_, ?_⟩
  · intro path real given plain leads
    exact ⟨settled_safeJoin rooted given plain leads,
      fun _ named => settled_resolveDocument rooted named given plain leads⟩
  · intro path unfit
    exact ⟨safeJoin_of_unfit unfit,
      fun _ named unlooped => resolveDocument_of_unfit unlooped named unfit⟩
  · intro unlooped absolute path real
    constructor
    · refine eq_ok_iff_reaches (settled_safeJoin rooted) ?_ ?_
      · intro unfit
        obtain ⟨problem, -, refused⟩ := safeJoin_of_unfit (t := t) unfit
        exact ⟨_, refused⟩
      · intro unreal
        obtain ⟨failure, missing⟩ := canonical?_of_unreal unlooped absolute unreal
        exact safeJoin_of_unresolved missing
    · intro uri named
      refine eq_ok_iff_reaches (settled_resolveDocument rooted named)
        (resolveDocument_of_unfit unlooped named) ?_
      intro unreal
      obtain ⟨failure, missing⟩ := canonical?_of_unreal unlooped absolute unreal
      exact resolveDocument_of_unresolved named missing

end Scalpel.FileTree

/-! ### The root of a file system, and a directory next to one with a longer name -/

namespace Scalpel.FileTree

local instance containmentHalves : Halves :=
  Halves.trial

def siblings : FileTree :=
  { entries := [
      ([['w']], .directory),
      ([['w'], ['a']], .file [] 0o644),
      ([['w', '2']], .directory),
      ([['w', '2'], ['a']], .file [] 0o644)]
    workingDirectory := "/w" }

theorem unlooped_siblings : siblings.Unlooped := by
  refine Direct.unlooped ?_
  intro place target linked
  unfold FileTree.get? at linked
  split at linked
  · cases linked
  obtain ⟨before, rest, parted, _⟩ := List.lookup_eq_some_iff.mp linked
  have member : (place, Entry.link target) ∈ siblings.entries := by
    rw [parted]
    exact List.mem_append_right _ List.mem_cons_self
  simp [siblings] at member

theorem realPath_siblings {path : String} (absolute : Path.isAbsolute path.toList = true)
    (found : (siblings.canonical? path).toOption = some path) : siblings.RealPath path path :=
  .of_unlooped unlooped_siblings absolute (ok_of_toOption found)

theorem contained_exactly_of_root :
    siblings.isWithin "/w/a" "/w" = .ok true ∧ siblings.isWithin "/w2/a" "/w" = .ok false ∧
      Path.Below "/" "/w/a" ∧ siblings.isWithin "/w/a" "/" = .ok false ∧
      siblings.safeJoin "/w" "a" = .ok "/w/a" ∧ siblings.Reaches "/w" "/w" "a" "/w/a" ∧
      siblings.resolveDocument "file:///w/a" "/w" = .ok "/w/a" ∧
      (∃ problem, siblings.resolveDocument "/w2/a" "/w" = .error (.problem problem)) ∧
      (∃ problem, siblings.safeJoin "/" "w/a" = .error (.problem problem)) ∧
      (∃ problem, siblings.safeJoin "/w" "" = .error (.problem problem)) ∧
      ∃ failure, siblings.resolveDocument "/w/\x00" "/w" = .error failure := by
  have root : siblings.RealPath "/" "/" := realPath_siblings rfl (by decide +kernel)
  have top : siblings.RealPath "/w" "/w" := realPath_siblings rfl (by decide +kernel)
  have inner : siblings.RealPath "/w/a" "/w/a" := realPath_siblings rfl (by decide +kernel)
  have beside : siblings.RealPath "/w2/a" "/w2/a" := realPath_siblings rfl (by decide +kernel)
  obtain ⟨within, settled, unfit, exactly⟩ := contained_exactly top
  obtain ⟨fromRoot, below, -⟩ := contained_exactly root
  have joined := settled "a" (by decide) (by decide) inner
  have reached := (exactly unlooped_siblings rfl "a" "/w/a").1.mp
    (joined.1.found (by decide +kernel))
  have named := (settled "/w/a" (by decide) (by decide) inner).2 "file:///w/a"
    (ok_of_toOption (by decide +kernel))
  have escaped := settled "/w2/a" (by decide) (by decide) beside
  have lost := (below "w/a" (by decide) (by decide) inner).1
  obtain ⟨problem, -, refused⟩ := (escaped.2 "/w2/a" rfl).refused (by decide +kernel)
  obtain ⟨other, -, missed⟩ := lost.refused (by decide +kernel)
  obtain ⟨third, -, nameless⟩ := (unfit "" (.inl rfl)).1
  refine ⟨?_, ?_, by decide +kernel, ?_, joined.1.found (by decide +kernel), reached,
    named.found (by decide +kernel), ⟨problem, refused⟩, ⟨other, missed⟩, ⟨third, nameless⟩, ?_⟩
  · rw [within inner]
    exact congrArg Except.ok (by decide +kernel)
  · rw [within beside]
    exact congrArg Except.ok (by decide +kernel)
  · rw [fromRoot inner]
    exact congrArg Except.ok (by decide +kernel)
  · exact (unfit "/w/\x00" (.inr (by decide))).2 "/w/\x00" rfl unlooped_siblings

end Scalpel.FileTree
