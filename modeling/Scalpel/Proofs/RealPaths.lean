import Mathlib.Data.List.Basic
import Mathlib.Data.List.SplitBy
import Scalpel.Files.Uri
import Scalpel.Proofs.Places

/-!
Real paths. Where no link on the way leads back to itself, the canonical path of an absolute path is
its own canonical path: it goes from the root down by names of which none is a link. What is asked for
is found by such a path below the canonical path of the root, or it is refused.
-/

set_option autoImplicit false

namespace Scalpel.Path

/-! ### Paths from the root -/

structure Proper (name : List Char) : Prop where
  given : name ≠ []
  onward : name ≠ ['.']
  downward : name ≠ ['.', '.']
  single : '/' ∉ name

def fromRoot (names : List (List Char)) : List Char :=
  '/' :: joinNames names

variable {names : List (List Char)} {name : List Char}

theorem join_of_isAbsolute {base path : List Char} (absolute : isAbsolute path = true) :
    join base path = path := by
  unfold join
  rw [if_pos absolute]

theorem isAbsolute_join (base path : List Char) :
    isAbsolute (join base path) = (isAbsolute path || isAbsolute base) := by
  cases own : isAbsolute path with
  | true => rw [join_of_isAbsolute own, own, Bool.true_or]
  | false =>
      unfold join
      rw [own, if_neg Bool.false_ne_true, Bool.false_or]
      cases base with
      | nil => exact own
      | cons first rest =>
          split
          · rfl
          · rfl

theorem joinNames_concat (names : List (List Char)) (name : List Char) :
    joinNames (names ++ [name]) =
      if names = [] then name else joinNames names ++ '/' :: name := by
  unfold joinNames
  induction names with
  | nil => simp [List.intercalate]
  | cons first rest ih =>
      cases rest with
      | nil => simp [List.intercalate]
      | cons second others =>
          rw [if_neg (List.cons_ne_nil _ _)] at ih ⊢
          simp only [List.intercalate, List.cons_append, List.intersperse_cons_cons,
            List.flatten_cons] at ih ⊢
          rw [ih]
          simp only [List.append_assoc, List.cons_append, List.nil_append]

theorem fromRoot_concat (names : List (List Char)) (name : List Char) :
    fromRoot (names ++ [name]) =
      (if names = [] then [] else fromRoot names) ++ '/' :: name := by
  unfold fromRoot
  rw [joinNames_concat]
  by_cases root : names = []
  · rw [if_pos root, if_pos root]
    rfl
  · rw [if_neg root, if_neg root]
    rfl

theorem names_fromRoot (single : ∀ name ∈ names, '/' ∉ name) (given : names ≠ []) :
    Path.names (fromRoot names) = [] :: names := by
  have parted : List.splitOn '/' ('/' :: joinNames names) = [] :: List.splitOn '/' (joinNames names) :=
    List.splitOn_append_cons_self_of_not_mem List.not_mem_nil _
  refine parted.trans (congrArg _ ?_)
  exact List.splitOn_intercalate _ single given

theorem getLast?_fromRoot (proper : ∀ name ∈ names, Proper name) (given : names ≠ []) :
    (fromRoot names).getLast? ≠ some '/' := by
  rcases List.eq_nil_or_concat' names with none | ⟨before, last, rfl⟩
  · exact absurd none given
  have fits := proper last (List.mem_append_right _ List.mem_cons_self)
  rcases List.eq_nil_or_concat' last with none | ⟨front, char, rfl⟩
  · exact absurd none fits.given
  rw [fromRoot_concat, ← List.cons_append, ← List.append_assoc, List.getLast?_concat]
  intro slash
  refine fits.single ?_
  rw [Option.some.inj slash]
  exact List.mem_append_right _ List.mem_cons_self

theorem join_fromRoot (proper : ∀ name ∈ names, Proper name) (fits : Proper name) :
    join (fromRoot names) name = fromRoot (names ++ [name]) := by
  have relative : isAbsolute name = false := by
    cases name with
    | nil => rfl
    | cons first rest =>
        have other : first ≠ '/' := fun slash => fits.single (by rw [slash]; exact List.mem_cons_self)
        simp [isAbsolute, other]
  unfold join
  rw [relative, if_neg Bool.false_ne_true, fromRoot_concat]
  by_cases root : names = []
  · subst root
    rfl
  · have ends := getLast?_fromRoot proper root
    have given : (fromRoot names).isEmpty = false := rfl
    rw [if_neg (by simp [given, ends]), if_neg root]

/-- A path is split at its last slash; the slashes that end what stands before it are dropped. -/
theorem split_append (front : List Char) (single : '/' ∉ name) :
    split (front ++ '/' :: name) =
      (if (front.reverse.dropWhile (· = '/')).reverse.isEmpty then front ++ ['/']
        else (front.reverse.dropWhile (· = '/')).reverse, name) := by
  have stops : ∀ char ∈ name.reverse, decide (char ≠ '/') = true := by
    intro char member
    apply decide_eq_true
    intro slash
    exact single (slash ▸ List.mem_reverse.mp member)
  have last : (((front ++ '/' :: name).reverse.takeWhile (· ≠ '/')).reverse) = name := by
    rw [List.reverse_append, List.reverse_cons, List.append_assoc, List.takeWhile_append_of_pos stops]
    simp
  have head : (front ++ '/' :: name).take ((front ++ '/' :: name).length - name.length) =
      front ++ ['/'] := by
    have whole : front ++ '/' :: name = (front ++ ['/']) ++ name := by simp
    rw [whole, List.length_append, Nat.add_sub_cancel, List.take_left]
  unfold split
  dsimp only
  rw [last, head, List.reverse_append, List.reverse_singleton, List.singleton_append,
    List.dropWhile_cons_of_pos (by simp)]

private theorem dropWhile_fromRoot (proper : ∀ name ∈ names, Proper name) (given : names ≠ []) :
    (fromRoot names).reverse.dropWhile (· = '/') = (fromRoot names).reverse := by
  have ends := getLast?_fromRoot proper given
  rw [← List.head?_reverse] at ends
  cases reversed : (fromRoot names).reverse with
  | nil => rfl
  | cons first rest =>
      rw [reversed] at ends
      exact List.dropWhile_cons_of_neg (by simpa using ends)

theorem split_fromRoot (proper : ∀ name ∈ names, Proper name) :
    split (fromRoot names) = (fromRoot names.dropLast, names.getLast?.getD []) := by
  rcases List.eq_nil_or_concat' names with rfl | ⟨before, last, rfl⟩
  · rfl
  have fits := proper last (List.mem_append_right _ List.mem_cons_self)
  rw [fromRoot_concat, List.dropLast_concat, List.getLast?_concat, Option.getD_some,
    split_append _ fits.single]
  by_cases root : before = []
  · subst root
    rfl
  · rw [if_neg root, dropWhile_fromRoot (fun name member => proper name
      (List.mem_append_left _ member)) root, List.reverse_reverse]
    rfl

theorem collapse_proper {absolute : Bool} (done : List (List Char))
    (proper : ∀ name ∈ names, Proper name) :
    collapse absolute done names = done.reverse ++ names := by
  induction names generalizing done with
  | nil => simp [collapse]
  | cons name rest ih =>
      have fits := proper name List.mem_cons_self
      have stays : (decide (name = []) || decide (name = ['.'])) = false := by
        simp [fits.given, fits.onward]
      unfold collapse
      rw [stays, if_neg Bool.false_ne_true, if_neg fits.downward,
        ih _ fun other member => proper other (List.mem_cons_of_mem _ member)]
      simp

theorem joinNames_cons (name : List Char) (rest : List (List Char)) :
    ∃ tail, joinNames (name :: rest) = name ++ tail := by
  unfold joinNames
  cases rest with
  | nil => exact ⟨[], by simp [List.intercalate]⟩
  | cons second others => exact ⟨_, by simp [List.intercalate]; rfl⟩

theorem rootSlashes_fromRoot (proper : ∀ name ∈ names, Proper name) :
    rootSlashes (fromRoot names) = ['/'] := by
  cases names with
  | nil => rfl
  | cons first rest =>
      have fits := proper first List.mem_cons_self
      cases first with
      | nil => exact absurd rfl fits.given
      | cons char more =>
          have other : char ≠ '/' := fun slash => fits.single (by rw [slash]; exact List.mem_cons_self)
          obtain ⟨tail, begins⟩ := joinNames_cons (char :: more) rest
          unfold fromRoot
          rw [begins, List.cons_append]
          unfold rootSlashes
          split
          · next same => exact absurd (List.cons.inj (List.cons.inj same).2).1 other
          · next same => exact absurd (List.cons.inj (List.cons.inj same).2).1 other
          · rfl
          · next unlike => exact absurd rfl (unlike _)

theorem normalize_fromRoot (proper : ∀ name ∈ names, Proper name) :
    normalize (fromRoot names) = fromRoot names := by
  have absolute : isAbsolute (fromRoot names) = true := by simp [isAbsolute, fromRoot]
  have collapsed : collapse true [] (Path.names (fromRoot names)) = names := by
    by_cases root : names = []
    · subst root
      rfl
    · rw [names_fromRoot (fun name member => (proper name member).single) root]
      unfold collapse
      rw [if_pos (by simp), collapse_proper [] proper]
      rfl
  unfold normalize
  rw [rootSlashes_fromRoot proper, absolute, collapsed]
  rfl

theorem absolute_fromRoot (directory : List Char) (proper : ∀ name ∈ names, Proper name) :
    Path.absolute directory (fromRoot names) = fromRoot names := by
  unfold Path.absolute
  rw [if_pos (by simp [isAbsolute, fromRoot])]
  exact normalize_fromRoot proper

theorem single_of_mem_names {path : List Char} (member : name ∈ Path.names path) : '/' ∉ name := by
  unfold Path.names List.splitOn at member
  induction path generalizing name with
  | nil =>
      rw [List.splitOnP_nil, List.mem_singleton] at member
      rw [member]
      exact List.not_mem_nil
  | cons first rest ih =>
      rw [List.splitOnP_cons_eq_if_modifyHead] at member
      split at member
      · rcases List.mem_cons.mp member with rfl | later
        · exact List.not_mem_nil
        · exact ih later
      · next other =>
        cases parted : List.splitOnP (· == '/') rest with
        | nil => exact absurd parted (List.splitOnP_ne_nil _ _)
        | cons head others =>
            rw [parted] at member ih
            rcases List.mem_cons.mp member with rfl | later
            · intro slash
              rcases List.mem_cons.mp slash with same | inside
              · exact other (by simp [← same])
              · exact ih List.mem_cons_self inside
            · exact ih (List.mem_cons_of_mem _ later)

/-! ### Paths below others -/

def steps (path : String) : List (List Char) :=
  (Path.names path.toList).filter fun name => name ≠ []

def Below (base path : String) : Prop :=
  steps base <+: steps path

instance (base path : String) : Decidable (Below base path) :=
  inferInstanceAs (Decidable (_ <+: _))

theorem below_of_continues {base path : String} (continues : FileTree.continues path base = true) :
    Below base path := by
  unfold FileTree.continues at continues
  rw [Bool.or_eq_true, decide_eq_true_eq, List.isPrefixOf_iff_prefix] at continues
  rcases continues with rfl | ⟨rest, whole⟩
  · exact List.prefix_rfl
  · have parted : Path.names path.toList = Path.names base.toList ++ Path.names rest := by
      unfold Path.names
      rw [← whole, List.append_assoc, List.singleton_append, List.splitOn_append_cons_self]
    unfold Below steps
    rw [parted, List.filter_append]
    exact List.prefix_append _ _

end Scalpel.Path

/-! ### Uris of files -/

namespace Scalpel.Uri

variable [Halves]

theorem isFile_ofAbsolute (path : List Char) : isFile (ofAbsolute path) = true := by
  unfold isFile ofAbsolute
  dsimp only
  rw [String.toList_ofList, List.isPrefixOf_iff_prefix]
  exact List.prefix_append _ _

theorem isFile_of_normalize {directory uri root named : String}
    (found : normalize directory uri root = .ok named) : isFile named = true := by
  have whole {directory path : String} (found : ofPath? directory path = .ok named) :
      isFile named = true := by
    unfold ofPath? at found
    cases bytes : Path.bytes (Path.absolute directory.toList path.toList) with
    | error failure =>
        rw [bytes] at found
        cases found
    | ok value =>
        rw [bytes] at found
        cases found
        exact isFile_ofAbsolute _
  unfold normalize at found
  split at found
  · next file =>
    cases found
    exact file
  · split at found
    · exact whole found
    · exact whole found

omit [Halves] in
theorem unescape_slash (text : List Char) : ∃ rest, unescape ('/' :: text) = '/' :: rest := by
  have whole : (runs ('/' :: text)).flatten = '/' :: text := List.flatten_splitBy _ _
  have given : [] ∉ runs ('/' :: text) := List.nil_notMem_splitBy _ _
  unfold unescape
  cases parted : runs ('/' :: text) with
  | nil =>
      rw [parted] at whole
      cases whole
  | cons first others =>
      rw [parted] at whole given
      cases first with
      | nil => exact absurd List.mem_cons_self given
      | cons char more =>
          obtain rfl : char = '/' := (List.cons.inj whole).1
          have plain : ('/' :: more).any (fun c => decide (c.toNat < 0x80)) = true := by
            rw [List.any_cons]
            rfl
          have bytes : unescapeBytes ('/' :: more) = 47 :: unescapeBytes more := by
            simp [unescapeBytes]
          have read : Utf8.decodeLenient (47 :: unescapeBytes more) =
              '/' :: Utf8.decodeLenient (unescapeBytes more) := by
            rw [Utf8.decodeLenient]
            rfl
          rw [List.flatMap_cons, if_pos plain, bytes, read]
          exact ⟨_, List.cons_append⟩

omit [Halves] in
/-- The part of a uri between its authority and its query begins with a slash, unless it is empty. -/
theorem pathPart_cases (body : List Char) :
    ((body.dropWhile fun c => !(decide (c = '/') || decide (c = '?') || decide (c = '#'))).takeWhile
        fun c => decide (c ≠ '#') && decide (c ≠ '?')) = [] ∨
      ∃ rest, ((body.dropWhile
          fun c => !(decide (c = '/') || decide (c = '?') || decide (c = '#'))).takeWhile
        fun c => decide (c ≠ '#') && decide (c ≠ '?')) = '/' :: rest := by
  have stopped := List.head?_dropWhile_not
    (fun c : Char => !(decide (c = '/') || decide (c = '?') || decide (c = '#'))) body
  generalize List.dropWhile _ body = tail at stopped ⊢
  rcases tail with _ | ⟨first, rest⟩
  · exact .inl rfl
  · have mark : first = '/' ∨ first = '?' ∨ first = '#' := by
      simpa [or_iff_not_imp_left] using stopped
    rcases mark with rfl | rfl | rfl
    · exact .inr ⟨_, rfl⟩
    · exact .inl rfl
    · exact .inl rfl

theorem isAbsolute_of_toPath {uri path : String} (file : isFile uri = true)
    (found : toPath uri = .ok path) : path = "" ∨ Path.isAbsolute path.toList = true := by
  unfold toPath at found
  rw [file] at found
  change (checkAuthority _ >>= fun _ => pure _) = _ at found
  rcases checked : checkAuthority _ with failure | value
  · rw [checked] at found
    cases found
  · rw [checked] at found
    have same := Except.ok.inj found
    dsimp only at same
    rcases pathPart_cases ((uri.toList.filter fun c =>
      decide (c ≠ '\t') && decide (c ≠ '\r') && decide (c ≠ '\n')).drop scheme.length) with
      none | ⟨rest, slash⟩
    · rw [none] at same
      exact .inl same.symm
    · obtain ⟨more, begins⟩ := unescape_slash rest
      rw [slash, begins] at same
      rw [← same, String.toList_ofList]
      exact .inr rfl

end Scalpel.Uri

namespace Scalpel.FileTree

variable [Halves] {t : FileTree} {uri root path : String}

theorem isWithin_eq_ok {inside : Bool} :
    t.isWithin path root = .ok inside ↔
      ∃ real base, t.canonical? path = .ok real ∧ t.canonical? root = .ok base ∧
        inside = continues real base := by
  unfold isWithin
  cases real : t.canonical? path with
  | error failure => simp [bind, Except.bind]
  | ok real =>
      cases base : t.canonical? root with
      | error failure => simp [bind, Except.bind]
      | ok base => simp [bind, Except.bind, pure, Except.pure, eq_comm]

/-- A document that has a path: a real path, which is that of the root or goes on from it. -/
structure Placed (t : FileTree) (uri root path : String) : Prop where
  real : ∃ document, Uri.toPath uri = .ok document ∧ Path.isAbsolute document.toList = true ∧
    t.canonical? document = .ok path
  below : ∃ base, t.canonical? root = .ok base ∧ Path.Below base path

theorem placed_of_resolveDocument (file : Uri.isFile uri = true)
    (found : t.resolveDocument uri root = .ok path) : t.Placed uri root path := by
  unfold resolveDocument at found
  cases text : Uri.toPath uri with
  | error failure =>
      rw [text] at found
      cases found
  | ok document =>
      rw [text] at found
      change (if Path.isAbsolute document.toList = true then _ else _) = _ at found
      split at found
      · next absolute =>
        rcases within : t.isWithin document root with failure | inside
        · rw [within] at found
          cases found
        · obtain ⟨real, base, here, there, continues⟩ := isWithin_eq_ok.mp within
          rw [within] at found
          cases inside with
          | false =>
              rw [there] at found
              cases found
          | true =>
              have same : t.canonical? document = .ok path := found
              cases here.symm.trans same
              exact ⟨⟨document, text, absolute, same⟩, base, there,
                Path.below_of_continues continues.symm⟩
      · next relative =>
        rcases Uri.isAbsolute_of_toPath file text with rfl | absolute
        · cases found
        · exact absurd absolute relative

/-- A document, named by a uri or a path, that has its real path outside the root. -/
def Elsewhere (t : FileTree) (uri root : String) : Prop :=
  ∃ named document real base, Uri.normalize t.workingDirectory uri root = .ok named ∧
    Uri.toPath named = .ok document ∧ t.canonical? document = .ok real ∧
    t.canonical? root = .ok base ∧ ¬Path.Below base real

def liesElsewhere (t : FileTree) (uri root : String) : Outcome Bool := do
  let document ← Uri.toPath (← Uri.normalize t.workingDirectory uri root)
  let real ← t.canonical? document
  return !decide (Path.Below (← t.canonical? root) real)

theorem elsewhere_of_liesElsewhere (lies : t.liesElsewhere uri root = .ok true) :
    t.Elsewhere uri root := by
  unfold liesElsewhere at lies
  rcases normal : Uri.normalize t.workingDirectory uri root with failure | named
  · rw [normal] at lies
    cases lies
  rcases text : Uri.toPath named with failure | document
  · rw [normal] at lies
    dsimp only [bind, Except.bind] at lies
    rw [text] at lies
    cases lies
  rw [normal] at lies
  dsimp only [bind, Except.bind] at lies
  rw [text] at lies
  dsimp only at lies
  rcases here : t.canonical? document with failure | real
  · rw [here] at lies
    cases lies
  rcases there : t.canonical? root with failure | base
  · rw [here, there] at lies
    cases lies
  rw [here, there] at lies
  have outside := Except.ok.inj lies
  exact ⟨named, document, real, base, normal, text, here, there, by simpa using outside⟩

theorem Elsewhere.refused (elsewhere : t.Elsewhere uri root) :
    ∃ named problem, Uri.normalize t.workingDirectory uri root = .ok named ∧
      problem.kind = .securityViolation ∧ t.resolveDocument named root = .error (.problem problem) := by
  obtain ⟨named, document, real, base, normal, text, here, there, outside⟩ := elsewhere
  have within : t.isWithin document root = .ok false := by
    refine isWithin_eq_ok.mpr ⟨real, base, here, there, ?_⟩
    cases continues : continues real base with
    | false => rfl
    | true => exact absurd (Path.below_of_continues continues) outside
  refine ⟨named, ?_⟩
  rcases Uri.isAbsolute_of_toPath (Uri.isFile_of_normalize normal) text with rfl | absolute
  · refine ⟨.emptyPath, normal, rfl, ?_⟩
    unfold resolveDocument
    rw [text]
    rfl
  · refine ⟨.outsideRoot document base { uri := some named }, normal, rfl, ?_⟩
    unfold resolveDocument
    rw [text]
    change (if Path.isAbsolute document.toList = true then _ else _) = _
    rw [if_pos absolute, within, there]
    rfl

/-! ### Canonical paths -/

structure Solid (t : FileTree) (names : List (List Char)) : Prop where
  proper : ∀ name ∈ names, Path.Proper name
  unlinked : ∀ before name, before ++ [name] <+: names →
    t.linkAt? (Path.fromRoot (before ++ [name])) = .ok none

namespace Solid

variable {names : List (List Char)} {name : List Char}

theorem nil (t : FileTree) : t.Solid [] :=
  ⟨fun _ member => absurd member List.not_mem_nil, fun _ _ begins => by simp at begins⟩

theorem concat (solid : t.Solid names) (fits : Path.Proper name)
    (unlinked : t.linkAt? (Path.fromRoot (names ++ [name])) = .ok none) :
    t.Solid (names ++ [name]) := by
  refine ⟨fun other member => ?_, fun before other begins => ?_⟩
  · rcases List.mem_append.mp member with old | new
    · exact solid.proper other old
    · rw [List.mem_singleton.mp new]
      exact fits
  · rcases List.prefix_concat_iff.mp begins with same | shorter
    · rw [same]
      exact unlinked
    · exact solid.unlinked before other shorter

theorem take (solid : t.Solid names) {shorter : List (List Char)} (begins : shorter <+: names) :
    t.Solid shorter :=
  ⟨fun name member => solid.proper name (begins.subset member),
    fun before name first => solid.unlinked before name (first.trans begins)⟩

end Solid

/-- The links that have been followed lead to paths without links. -/
def Seen.Sound (t : FileTree) (seen : Seen) : Prop :=
  ∀ link known, seen.lookup link = some (some known) →
    ∃ names, t.Solid names ∧ known = Path.fromRoot names

theorem Seen.Sound.cons {seen : Seen} {link : List Char} {known : Option (List Char)}
    (sound : Seen.Sound t seen)
    (leads : ∀ path, known = some path → ∃ names, t.Solid names ∧ path = Path.fromRoot names) :
    Seen.Sound t ((link, known) :: seen) := by
  intro other path found
  rw [List.lookup_cons] at found
  split at found
  · exact leads path (Option.some.inj found)
  · exact sound other path found

/-- The path above a path. Where nothing is known of what is above, it is kept as a step up. -/
def above (path : List Char) : List Char :=
  if path.isEmpty then ['.', '.']
  else if (Path.split path).2 = ['.', '.'] then
    Path.join (Path.join (Path.split path).1 (Path.split path).2) ['.', '.']
  else (Path.split path).1

/-- How a path takes one name more: the name leads nowhere or up, or down to what is no link, or it is a
link. A link is known, or it leads back to itself, or it is followed, to its end or not. -/
inductive Turn (t : FileTree) (fuel : Nat) (seen : Seen) (path name : List Char)
    (rest : List (List Char)) (found : Resolved) : Prop
  | here : name = [] ∨ name = ['.'] → t.resolveNames fuel seen path rest = .ok found →
    Turn t fuel seen path name rest found
  | up : name = ['.', '.'] → t.resolveNames fuel seen (above path) rest = .ok found →
    Turn t fuel seen path name rest found
  | down : name ≠ [] → name ≠ ['.'] → name ≠ ['.', '.'] →
    t.linkAt? (Path.join path name) = .ok none →
    t.resolveNames fuel seen (Path.join path name) rest = .ok found →
    Turn t fuel seen path name rest found
  | known {end_} : seen.lookup (Path.join path name) = some (some end_) →
    t.resolveNames fuel seen end_ rest = .ok found → Turn t fuel seen path name rest found
  | looped : seen.lookup (Path.join path name) = some none → found.isComplete = false →
    Turn t fuel seen path name rest found
  | followed {target inner} : t.linkAt? (Path.join path name) = .ok (some target) →
    t.resolveNames fuel ((Path.join path name, none) :: seen)
      (if Path.isAbsolute target then ['/'] else path) (Path.names target) = .ok inner →
    inner.isComplete = true →
    t.resolveNames fuel ((Path.join path name, some inner.path) :: inner.seen) inner.path rest =
      .ok found → Turn t fuel seen path name rest found
  | lost {target inner} : t.linkAt? (Path.join path name) = .ok (some target) →
    t.resolveNames fuel ((Path.join path name, none) :: seen)
      (if Path.isAbsolute target then ['/'] else path) (Path.names target) = .ok inner →
    inner.isComplete = false → found.isComplete = false → Turn t fuel seen path name rest found

theorem turn_of_resolveNames {fuel : Nat} {seen : Seen} {path name : List Char}
    {rest : List (List Char)} {found : Resolved}
    (resolved : t.resolveNames (fuel + 1) seen path (name :: rest) = .ok found) :
    Turn t fuel seen path name rest found := by
  unfold resolveNames at resolved
  dsimp only at resolved
  split at resolved
  · next stays => exact .here (by simpa using stays) resolved
  next moves =>
  rw [Bool.or_eq_true, not_or, decide_eq_true_eq, decide_eq_true_eq] at moves
  split at resolved
  · next upward =>
    refine .up upward ?_
    unfold above
    rw [upward] at resolved
    split at resolved
    · next empty =>
      rw [if_pos empty]
      exact resolved
    · next given =>
      rw [if_neg given]
      split at resolved
      · next last =>
        rw [if_pos last]
        exact resolved
      · next last =>
        rw [if_neg last]
        exact resolved
  · next downward =>
    rcases linked : t.linkAt? (Path.join path name) with failure | target?
    · rw [linked] at resolved
      cases resolved
    rw [linked] at resolved
    cases target? with
    | none => exact .down moves.1 moves.2 downward linked resolved
    | some target =>
        dsimp only [bind, Except.bind] at resolved
        split at resolved
        · next visited => exact .known visited resolved
        · next visited =>
          cases resolved
          exact .looped visited rfl
        · split at resolved
          · cases resolved
          · next inner followed =>
            split at resolved
            · next done => exact .followed linked followed done resolved
            · next undone =>
              have incomplete : inner.isComplete = false := Bool.not_eq_true _ ▸ undone
              cases resolved
              exact .lost linked followed incomplete incomplete

theorem solid_of_resolveNames {fuel : Nat} {seen : Seen} {here names : List (List Char)}
    {found : Resolved} (sound : Seen.Sound t seen) (solid : t.Solid here)
    (single : ∀ name ∈ names, '/' ∉ name)
    (resolved : t.resolveNames fuel seen (Path.fromRoot here) names = .ok found)
    (complete : found.isComplete = true) :
    Seen.Sound t found.seen ∧ ∃ last, t.Solid last ∧ found.path = Path.fromRoot last := by
  induction fuel generalizing seen here names found with
  | zero =>
      cases resolved
      cases complete
  | succ fuel ih =>
      cases names with
      | nil =>
          cases resolved
          exact ⟨sound, here, solid, rfl⟩
      | cons name rest =>
          have later : ∀ name ∈ rest, '/' ∉ name :=
            fun other member => single other (List.mem_cons_of_mem _ member)
          cases turn_of_resolveNames resolved with
          | here _ resolved => exact ih sound solid later resolved complete
          | up _ resolved =>
              have up : above (Path.fromRoot here) = Path.fromRoot here.dropLast := by
                have last : here.getLast?.getD [] ≠ ['.', '.'] := by
                  cases ends : here.getLast? with
                  | none => decide
                  | some last => exact (solid.proper last (List.mem_of_getLast? ends)).downward
                unfold above
                rw [Path.split_fromRoot solid.proper, if_neg (by simp [Path.fromRoot]), if_neg last]
              rw [up] at resolved
              exact ih sound (solid.take (List.dropLast_prefix here)) later resolved complete
          | down given onward downward linked resolved =>
              have fits : Path.Proper name :=
                ⟨given, onward, downward, single name List.mem_cons_self⟩
              rw [Path.join_fromRoot solid.proper fits] at linked resolved
              exact ih sound (solid.concat fits linked) later resolved complete
          | known visited resolved =>
              obtain ⟨names, settled, rfl⟩ := sound _ _ visited
              exact ih sound settled later resolved complete
          | looped _ incomplete => cases complete.symm.trans incomplete
          | @followed target inner _ followed done resolved =>
              have start : ∃ names, t.Solid names ∧ (if Path.isAbsolute target then ['/']
                  else Path.fromRoot here) = Path.fromRoot names := by
                split
                · exact ⟨[], .nil t, rfl⟩
                · exact ⟨here, solid, rfl⟩
              obtain ⟨names, settled, same⟩ := start
              rw [same] at followed
              have entered : Seen.Sound t ((Path.join (Path.fromRoot here) name, none) :: seen) :=
                sound.cons fun _ impossible => by cases impossible
              obtain ⟨sound, last, solid, path⟩ := ih entered settled
                (fun _ => Path.single_of_mem_names) followed done
              rw [path] at resolved
              refine ih (sound.cons fun _ same => ?_) solid later resolved complete
              exact ⟨last, solid, (Option.some.inj same).symm⟩
          | lost _ _ _ incomplete => cases complete.symm.trans incomplete

theorem resolveNames_solid {fuel : Nat} {seen : Seen} {here names : List (List Char)}
    (solid : t.Solid (here ++ names)) (enough : names.length < fuel) :
    t.resolveNames fuel seen (Path.fromRoot here) names =
      .ok { path := Path.fromRoot (here ++ names), isComplete := true, seen } := by
  induction names generalizing fuel here with
  | nil =>
      obtain ⟨fuel, rfl⟩ : ∃ rest, fuel = rest + 1 := ⟨fuel - 1, by simp at enough; omega⟩
      rw [List.append_nil]
      rfl
  | cons name rest ih =>
      obtain ⟨fuel, rfl⟩ : ∃ rest, fuel = rest + 1 := ⟨fuel - 1, by simp at enough; omega⟩
      have whole : here ++ name :: rest = (here ++ [name]) ++ rest := by simp
      rw [whole] at solid ⊢
      have fits := solid.proper name (by simp)
      have unlinked := solid.unlinked here name (List.prefix_append _ _)
      have above : ∀ other ∈ here, Path.Proper other :=
        fun other member => solid.proper other (by simp [member])
      unfold resolveNames
      dsimp only
      rw [if_neg (by simp [fits.given, fits.onward]), if_neg fits.downward,
        Path.join_fromRoot above fits, unlinked]
      rw [List.length_cons] at enough
      exact ih solid (by omega)

theorem resolveNames_fromRoot {fuel : Nat} {seen : Seen} {names : List (List Char)}
    (solid : t.Solid names) (enough : (Path.names (Path.fromRoot names)).length < fuel) :
    t.resolveNames fuel seen ['/'] (Path.names (Path.fromRoot names)) =
      .ok { path := Path.fromRoot names, isComplete := true, seen } := by
  obtain ⟨fuel, rfl⟩ : ∃ rest, fuel = rest + 1 := ⟨fuel - 1, by omega⟩
  by_cases root : names = []
  · subst root
    have two : (Path.names (Path.fromRoot [])).length = 2 := rfl
    obtain ⟨more, rfl⟩ : ∃ more, fuel = more + 2 := ⟨fuel - 2, by omega⟩
    rfl
  · have single : ∀ name ∈ names, '/' ∉ name := fun name member => (solid.proper name member).single
    rw [Path.names_fromRoot single root] at enough ⊢
    have skipped : t.resolveNames (fuel + 1) seen ['/'] ([] :: names) =
        t.resolveNames fuel seen (Path.fromRoot []) names := rfl
    rw [skipped]
    exact resolveNames_solid solid (by rw [List.length_cons] at enough; omega)

omit [Halves] in
theorem length_names_lt (path : List Char) : (Path.names path).length < t.resolveFuel path := by
  have parted := length_splitOn path
  unfold resolveFuel Path.names
  omega

/-- The links on the way of every absolute path have ends: none of them leads back to itself. -/
def Unlooped (t : FileTree) : Prop :=
  ∀ (path : String) (found : Resolved), Path.isAbsolute path.toList = true →
    t.resolveNames (t.resolveFuel path.toList) [] ['/'] (Path.names path.toList) = .ok found →
    found.isComplete = true

theorem canonical?_fromRoot {names : List (List Char)} (solid : t.Solid names) :
    t.canonical? (String.ofList (Path.fromRoot names)) =
      .ok (String.ofList (Path.fromRoot names)) := by
  have absolute : Path.isAbsolute (Path.fromRoot names) = true := by
    simp [Path.isAbsolute, Path.fromRoot]
  unfold canonical?
  dsimp only
  rw [String.toList_ofList, if_pos absolute, resolveNames_fromRoot solid (length_names_lt _)]
  exact congrArg (fun chars => Except.ok (String.ofList chars))
    (Path.absolute_fromRoot _ solid.proper)

/-- Unless a link on the way leads back to itself, a canonical path goes down from the root without
links. -/
theorem solid_of_canonical? (unlooped : t.Unlooped) {path real : String}
    (absolute : Path.isAbsolute path.toList = true) (found : t.canonical? path = .ok real) :
    ∃ names, t.Solid names ∧ real = String.ofList (Path.fromRoot names) := by
  unfold canonical? at found
  dsimp only at found
  rw [absolute, if_pos rfl] at found
  rcases resolved : t.resolveNames (t.resolveFuel path.toList) [] ['/'] (Path.names path.toList)
    with failure | last
  · rw [resolved] at found
    cases found
  have empty : Seen.Sound t [] := fun _ _ impossible => nomatch impossible
  obtain ⟨_, names, solid, way⟩ := solid_of_resolveNames empty (.nil t)
    (fun _ => Path.single_of_mem_names) resolved (unlooped path last absolute resolved)
  rw [resolved] at found
  have same : String.ofList (Path.absolute t.workingDirectory.toList last.path) = real :=
    Except.ok.inj found
  rw [way, Path.absolute_fromRoot _ solid.proper] at same
  exact ⟨names, solid, same.symm⟩

/-- A canonical path is its own canonical path, unless a link on the way leads back to itself. -/
theorem canonical?_of_unlooped (unlooped : t.Unlooped) {path real : String}
    (absolute : Path.isAbsolute path.toList = true) (found : t.canonical? path = .ok real) :
    t.canonical? real = .ok real := by
  obtain ⟨names, solid, rfl⟩ := solid_of_canonical? unlooped absolute found
  exact canonical?_fromRoot solid

/-- Canonical paths are what they are called: that of an absolute path is its own canonical path,
whatever files have in them. -/
def Canonical (t : FileTree) : Prop :=
  ∀ (like : FileTree) (path real : String), t.Alike like → Path.isAbsolute path.toList = true →
    like.canonical? path = .ok real → like.canonical? real = .ok real

def Direct (t : FileTree) : Prop :=
  ∀ ⦃place target⦄, t.get? place = some (.link target) →
    ∃ names, t.Solid names ∧ target = Path.fromRoot names

theorem get?_of_linkAt? {path target : List Char} (linked : t.linkAt? path = .ok (some target)) :
    ∃ place, t.get? place = some (.link target) := by
  unfold FileTree.linkAt? at linked
  rcases checked : Path.checkLookup path with failure | value
  · rw [checked] at linked
    cases linked
  rw [checked] at linked
  dsimp only [bind, Except.bind] at linked
  split at linked
  · next place other found =>
    cases linked
    unfold find at found
    split at found
    · cases found
    · cases found
    · next located =>
      cases found
      exact ⟨place, (entry_of_locate located).symm⟩
  · cases linked

omit [Halves] in
theorem length_names_add_lt {place : Place} {target : List Char}
    (linked : t.get? place = some (.link target)) (path : List Char) :
    (Path.names path).length + (Path.names target).length < t.resolveFuel path := by
  unfold get? at linked
  split at linked
  · cases linked
  obtain ⟨before, rest, parted, _⟩ := List.lookup_eq_some_iff.mp linked
  have parts := length_splitOn path
  have more := length_splitOn target
  have shares {weights : List Nat} (member : target.length + 2 ∈ weights) :
      (Path.names path).length + (Path.names target).length < path.length + 2 + weights.sum := by
    obtain ⟨front, back, rfl⟩ := List.append_of_mem member
    rw [List.sum_append, List.sum_cons]
    unfold Path.names
    omega
  refine shares (List.mem_map.mpr ⟨(place, .link target), ?_, rfl⟩)
  rw [parted]
  exact List.mem_append_right _ List.mem_cons_self

theorem Direct.complete (direct : t.Direct) {longest fuel : Nat} {seen : Seen} {path : List Char}
    {names : List (List Char)} {found : Resolved}
    (short : ∀ ⦃place target⦄, t.get? place = some (.link target) →
      (Path.names target).length ≤ longest)
    (settled : ∀ link, seen.lookup link ≠ some none) (enough : names.length + longest < fuel)
    (resolved : t.resolveNames fuel seen path names = .ok found) : found.isComplete = true := by
  induction fuel generalizing seen path names with
  | zero => omega
  | succ fuel ih =>
      cases names with
      | nil =>
          cases resolved
          rfl
      | cons name rest =>
          rw [List.length_cons] at enough
          have fewer : rest.length + longest < fuel := by omega
          -- the way of a link is walked to its end, without following another one
          have straight {target : List Char} (linked : t.linkAt? (Path.join path name) = .ok (some target))
              {seen : Seen} : ∃ last, t.resolveNames fuel seen
                (if Path.isAbsolute target then ['/'] else path) (Path.names target) =
                .ok { path := last, isComplete := true, seen } := by
            obtain ⟨place, entry⟩ := get?_of_linkAt? linked
            obtain ⟨names, solid, rfl⟩ := direct entry
            have way := short entry
            rw [if_pos (by simp [Path.isAbsolute, Path.fromRoot])]
            exact ⟨_, resolveNames_fromRoot solid (by omega)⟩
          cases turn_of_resolveNames resolved with
          | here _ resolved => exact ih settled fewer resolved
          | up _ resolved => exact ih settled fewer resolved
          | down _ _ _ _ resolved => exact ih settled fewer resolved
          | known _ resolved => exact ih settled fewer resolved
          | looped pending _ => exact absurd pending (settled _)
          | followed linked followed _ resolved =>
              obtain ⟨last, ended⟩ := straight linked
              cases followed.symm.trans ended
              refine ih (fun link unknown => ?_) fewer resolved
              rw [List.lookup_cons] at unknown
              split at unknown
              · cases unknown
              · next other =>
                rw [List.lookup_cons, other] at unknown
                exact settled link unknown
          | lost linked followed incomplete _ =>
              obtain ⟨last, ended⟩ := straight linked
              cases followed.symm.trans ended
              cases incomplete

theorem Alike.linkAt? {like : FileTree} (alike : t.Alike like) (path : List Char) :
    like.linkAt? path = t.linkAt? path := by
  unfold FileTree.linkAt? find
  rw [alike.locate]
  rcases located : t.locate false (String.ofList path) with fault | ⟨place, entry⟩
  · rfl
  rw [entry_of_locate located]
  dsimp only [Except.map]
  rcases alike.same_or_file place with same | ⟨_, _, _, before, now⟩
  · rw [same]
  · rw [before, now]

theorem Direct.unlooped (direct : t.Direct) : t.Unlooped := by
  intro path found _ resolved
  have own : (Path.names path.toList).length < t.resolveFuel path.toList := length_names_lt _
  refine direct.complete (fun place target linked => ?_) (fun _ pending => by cases pending)
    (show _ + (t.resolveFuel path.toList - (Path.names path.toList).length - 1) < _ by omega)
    resolved
  have both := length_names_add_lt linked path.toList
  omega

theorem Direct.canonical (direct : t.Direct) : t.Canonical := by
  intro like path real alike absolute found
  have straight : like.Direct := by
    intro place target linked
    obtain ⟨names, solid, same⟩ := direct (alike.symm.link linked)
    refine ⟨names, ⟨solid.proper, fun before name begins => ?_⟩, same⟩
    rw [alike.linkAt?]
    exact solid.unlinked before name begins
  exact canonical?_of_unlooped straight.unlooped absolute found

end Scalpel.FileTree
