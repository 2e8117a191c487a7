import Mathlib.Data.List.Infix
import Mathlib.Data.List.TakeWhile
import Scalpel.Proofs.Clerk
import Scalpel.Proofs.Entries
import Scalpel.Proofs.RealPaths
import Scalpel.Workspace.Basic

/-!
Files and their servers. A pattern for file names is read into tokens, and each token stands for a part
of the name: the parts one after another are the name. Only the longest text that is left can be of use
to a star, since all the others are ends of it. So a pattern without special characters behind a star
matches exactly the names that end with it, and a file goes to the first server of the table with an
ending that the last name of its path has.
-/

set_option autoImplicit false

namespace Scalpel.Glob

variable [Halves] {text name : List Char} {token : Token} {left : List (List Char)}

/-! ### Tokens and the texts they stand for -/

/-- Tokens match a text if it can be parted so that each token stands for its part: a star for any
part, any other token for one character. -/
inductive Matches : List Token → List Char → Prop where
  | nil : Matches [] []
  | star {rest : List Token} {text : List Char} (part : List Char) (matched : Matches rest text) :
      Matches (.star :: rest) (part ++ text)
  | one {token : Token} {rest : List Token} {c : Char} {text : List Char}
      (accepted : token.accepts c = true) (matched : Matches rest text) :
      Matches (token :: rest) (c :: text)

omit [Halves] in
theorem mem_ends {tail : List Char} : tail ∈ ends text ↔ tail <:+ text := by
  induction text with
  | nil => simp [ends]
  | cons c rest ih => rw [ends, List.mem_cons, ih, List.suffix_cons_iff]

/-- The ends of a text from the longest to the shortest: each is an end of those before it. -/
def Shrinking (left : List (List Char)) : Prop :=
  left.Pairwise fun longer shorter => shorter <:+ longer

omit [Halves] in
theorem shrinking_ends (text : List Char) : Shrinking (ends text) := by
  induction text with
  | nil => exact List.pairwise_singleton _ _
  | cons c rest ih =>
      refine List.pairwise_cons.mpr ⟨?_, ih⟩
      intro tail member
      exact (mem_ends.mp member).trans (List.suffix_cons c rest)

def Token.leaves? (token : Token) : List Char → Option (List Char)
  | c :: more => if token.accepts c then some more else none
  | [] => none

theorem leaves?_eq_some {more : List Char} :
    token.leaves? text = some more ↔ ∃ c, token.accepts c = true ∧ text = c :: more := by
  cases text with
  | nil => simp [Token.leaves?]
  | cons c rest => simp [Token.leaves?, and_comm]

theorem Shrinking.filterMap (shrinking : Shrinking left) (token : Token) :
    Shrinking (left.filterMap token.leaves?) := by
  refine List.Pairwise.filterMap _ ?_ shrinking
  intro longer shorter tail more kept other taken
  obtain ⟨c, -, rfl⟩ := leaves?_eq_some.mp kept
  obtain ⟨d, -, rfl⟩ := leaves?_eq_some.mp taken
  rcases List.suffix_cons_iff.mp tail with same | further
  · obtain ⟨-, rfl⟩ := List.cons.inj same
    exact List.suffix_refl _
  · exact (List.suffix_cons d other).trans further

theorem matches_star_iff {rest : List Token} :
    Matches (.star :: rest) text ↔ ∃ tail, tail <:+ text ∧ Matches rest tail := by
  constructor
  · intro matched
    cases matched with
    | star part matched => exact ⟨_, List.suffix_append part _, matched⟩
    | one accepted => cases accepted
  · rintro ⟨tail, ⟨part, rfl⟩, matched⟩
    exact .star part matched

theorem matches_cons_iff {rest : List Token} (single : token ≠ .star) :
    Matches (token :: rest) text ↔ ∃ more, token.leaves? text = some more ∧ Matches rest more := by
  constructor
  · intro matched
    cases matched with
    | star => exact absurd rfl single
    | one accepted matched => exact ⟨_, leaves?_eq_some.mpr ⟨_, accepted, rfl⟩, matched⟩
  · rintro ⟨more, leaves, matched⟩
    obtain ⟨c, accepted, rfl⟩ := leaves?_eq_some.mp leaves
    exact .one accepted matched

theorem remainders_cons {rest : List Token} (single : token ≠ .star) :
    remainders (token :: rest) left = remainders rest (left.filterMap token.leaves?) := by
  cases token with
  | star => exact absurd rfl single
  | any => rfl
  | set negated ranges => rfl
  | literal c => rfl

theorem any_remainders_iff {tokens : List Token} (shrinking : Shrinking left) :
    (remainders tokens left).any List.isEmpty = true ↔ ∃ text ∈ left, Matches tokens text := by
  induction tokens generalizing left with
  | nil =>
      rw [remainders, List.any_eq_true]
      constructor
      · rintro ⟨text, member, empty⟩
        rw [List.isEmpty_iff.mp empty] at member
        exact ⟨[], member, .nil⟩
      · rintro ⟨text, member, matched⟩
        cases matched
        exact ⟨[], member, rfl⟩
  | cons token rest ih =>
      by_cases starred : token = .star
      · subst starred
        cases left with
        | nil =>
            change (remainders rest []).any List.isEmpty = true ↔ _
            rw [ih List.Pairwise.nil]
            simp
        | cons longest shorter =>
            have fewer := (List.pairwise_cons.mp shrinking).1
            change (remainders rest (ends longest)).any List.isEmpty = true ↔ _
            rw [ih (shrinking_ends longest)]
            constructor
            · rintro ⟨tail, member, matched⟩
              exact ⟨longest, List.mem_cons_self,
                matches_star_iff.mpr ⟨tail, mem_ends.mp member, matched⟩⟩
            · rintro ⟨text, member, matched⟩
              obtain ⟨tail, ending, matched⟩ := matches_star_iff.mp matched
              have within : text <:+ longest := by
                rcases List.mem_cons.mp member with rfl | later
                · exact List.suffix_refl _
                · exact fewer text later
              exact ⟨tail, mem_ends.mpr (ending.trans within), matched⟩
      · rw [remainders_cons starred, ih (shrinking.filterMap token)]
        constructor
        · rintro ⟨more, member, matched⟩
          obtain ⟨text, listed, leaves⟩ := List.mem_filterMap.mp member
          exact ⟨text, listed, (matches_cons_iff starred).mpr ⟨more, leaves, matched⟩⟩
        · rintro ⟨text, listed, matched⟩
          obtain ⟨more, leaves, matched⟩ := (matches_cons_iff starred).mp matched
          exact ⟨more, List.mem_filterMap.mpr ⟨text, listed, leaves⟩, matched⟩

theorem covers_iff {tokens : List Token} : covers tokens text = true ↔ Matches tokens text := by
  unfold covers
  rw [any_remainders_iff (List.pairwise_singleton _ text)]
  simp

/-! ### Patterns that begin with a star -/

def IsOrdinary (c : Char) : Prop :=
  c ≠ '*' ∧ c ≠ '?' ∧ c ≠ '['

theorem tokens_of_ordinary (ordinary : ∀ c ∈ text, IsOrdinary c) {fuel : Nat}
    (enough : text.length ≤ fuel) : tokens fuel text = text.map .literal := by
  induction text generalizing fuel with
  | nil =>
      cases fuel with
      | zero => rfl
      | succ fuel => rfl
  | cons c rest ih =>
      cases fuel with
      | zero => cases enough
      | succ fuel =>
          obtain ⟨star, any, bracket⟩ := ordinary c List.mem_cons_self
          have others := ih (fun other member => ordinary other (List.mem_cons_of_mem c member))
            (Nat.le_of_succ_le_succ enough)
          rw [tokens, others, List.map_cons]
          · exact star
          · exact any
          · exact bracket

theorem matches_literals_iff : Matches (text.map .literal) name ↔ name = text := by
  induction text generalizing name with
  | nil =>
      constructor
      · intro matched
        cases matched
        rfl
      · rintro rfl
        exact .nil
  | cons c rest ih =>
      have single : Token.literal c ≠ .star := nofun
      rw [List.map_cons, matches_cons_iff single]
      constructor
      · rintro ⟨more, leaves, matched⟩
        obtain ⟨d, accepted, rfl⟩ := leaves?_eq_some.mp leaves
        obtain rfl : d = c := by simpa [Token.accepts] using accepted
        rw [ih.mp matched]
      · rintro rfl
        exact ⟨rest, leaves?_eq_some.mpr ⟨c, by simp [Token.accepts], rfl⟩, ih.mpr rfl⟩

theorem accepts_star_iff {ending name : String} (ordinary : ∀ c ∈ ending.toList, IsOrdinary c) :
    accepts ("*" ++ ending) name = true ↔ ending.toList <:+ name.toList := by
  have read : tokens (("*" ++ ending).length + 1) ("*" ++ ending).toList =
      .star :: ending.toList.map .literal := by
    have parted : ("*" ++ ending).toList = '*' :: ending.toList := String.toList_append
    rw [parted, tokens, tokens_of_ordinary ordinary]
    simp [← String.length_toList, parted]
  unfold accepts
  rw [read, covers_iff, matches_star_iff]
  simp only [matches_literals_iff, exists_eq_right]

end Scalpel.Glob

namespace Scalpel.Path

variable {path name : List Char}

/-! ### The last name of a path -/

theorem names_append (front : List Char) (single : '/' ∉ name) :
    names (front ++ '/' :: name) = names front ++ [name] := by
  unfold names
  rw [List.splitOn_append_cons_self, List.splitOn_eq_singleton single]

theorem getLast?_names (path : List Char) : (names path).getLast? = some (baseName path) := by
  by_cases nested : '/' ∈ path
  · obtain ⟨after, before, parted, single⟩ :=
      List.eq_append_cons_of_mem (List.mem_reverse.mpr nested)
    have whole : path = before.reverse ++ '/' :: after.reverse := by
      have back := congrArg List.reverse parted
      simpa using back
    have single : '/' ∉ after.reverse := fun inside => single (List.mem_reverse.mp inside)
    rw [whole, names_append _ single, List.getLast?_concat]
    unfold baseName
    rw [split_append _ single]
  · have stops : ∀ c ∈ path.reverse, decide (c ≠ '/') = true := by
      intro c member
      apply decide_eq_true
      rintro rfl
      exact nested (List.mem_reverse.mp member)
    unfold names baseName split
    dsimp only
    rw [List.splitOn_eq_singleton nested, List.takeWhile_eq_self_iff.mpr stops,
      List.reverse_reverse]
    rfl

end Scalpel.Path

namespace Scalpel.Uri

variable [Halves] {uri : String} {authority path : List Char}

/-! ### Uris in parts -/

/-- A file uri in parts: an authority up to the first slash, question mark or number sign, then a path
up to a question mark or number sign, and the rest. Tabs and line ends do not count. -/
structure Parted (uri : String) (authority path : List Char) : Prop where
  isFile : isFile uri = true
  parts : ∃ rest, (uri.toList.filter fun c => c ≠ '\t' && c ≠ '\r' && c ≠ '\n') =
      scheme ++ (authority ++ (path ++ rest)) ∧
    ∀ c, rest.head? = some c → c = '?' ∨ c = '#'
  authority : ∀ c ∈ authority, c ≠ '/' ∧ c ≠ '?' ∧ c ≠ '#'
  rooted : ∀ c, path.head? = some c → c = '/'
  path : ∀ c ∈ path, c ≠ '?' ∧ c ≠ '#'

omit [Halves] in
theorem cut_append {front rest : List Char} (p : Char → Bool) (within : ∀ c ∈ front, p c = true)
    (stops : ∀ c, rest.head? = some c → p c = false) :
    (front ++ rest).takeWhile p = front ∧ (front ++ rest).dropWhile p = rest := by
  rw [List.takeWhile_append_of_pos within, List.dropWhile_append_of_pos within]
  cases rest with
  | nil => exact ⟨List.append_nil _, rfl⟩
  | cons c more =>
      have stop : ¬p c = true := by simp [stops c rfl]
      rw [List.takeWhile_cons_of_neg stop, List.dropWhile_cons_of_neg stop]
      exact ⟨List.append_nil _, rfl⟩

omit [Halves] in
theorem head?_dropWhile {p : Char → Bool} {text : List Char} {c : Char}
    (first : (text.dropWhile p).head? = some c) : p c = false := by
  have stops := List.head?_dropWhile_not p text
  rw [first] at stops
  exact stops

omit [Halves] in
theorem exists_parted (isFile : isFile uri = true) :
    ∃ authority path, Parted uri authority path := by
  obtain ⟨body, whole⟩ := List.isPrefixOf_iff_prefix.mp isFile
  have shown : scheme.filter (fun c => c ≠ '\t' && c ≠ '\r' && c ≠ '\n') = scheme := by
    decide +kernel
  have parts : (uri.toList.filter fun c => c ≠ '\t' && c ≠ '\r' && c ≠ '\n') =
      scheme ++ body.filter fun c => c ≠ '\t' && c ≠ '\r' && c ≠ '\n' := by
    rw [← whole, List.filter_append, shown]
  generalize body.filter (fun c => c ≠ '\t' && c ≠ '\r' && c ≠ '\n') = body at parts
  let within (c : Char) : Bool := c ≠ '/' && c ≠ '?' && c ≠ '#'
  let inPath (c : Char) : Bool := c ≠ '?' && c ≠ '#'
  refine ⟨body.takeWhile within, (body.dropWhile within).takeWhile inPath, isFile,
    ⟨(body.dropWhile within).dropWhile inPath, ?_, ?_⟩, ?_, ?_, ?_⟩
  · rw [parts, List.takeWhile_append_dropWhile, List.takeWhile_append_dropWhile]
  · intro c first
    have stop : inPath c = false := head?_dropWhile first
    simpa [inPath, Classical.or_iff_not_imp_left] using stop
  · intro c member
    simpa [within, and_assoc] using List.mem_takeWhile_imp member
  · intro c first
    rw [List.head?_takeWhile, Option.filter_eq_some_iff] at first
    have stop : within c = false := head?_dropWhile first.1
    have inside : c ≠ '?' ∧ c ≠ '#' := by simpa [inPath] using first.2
    by_contra other
    simp [within, other, inside] at stop
  · intro c member
    simpa [inPath] using List.mem_takeWhile_imp member

theorem Parted.toPath_eq (parted : Parted uri authority path) :
    toPath uri = (fun _ => String.ofList (unescape path)) <$> checkAuthority authority := by
  obtain ⟨isFile, ⟨rest, parts, ends⟩, plain, rooted, inPath⟩ := parted
  have stops : ∀ c, (path ++ rest).head? = some c → c = '/' ∨ c = '?' ∨ c = '#' := by
    intro c first
    rw [List.head?_append, Option.or_eq_some_iff] at first
    rcases first with slash | ⟨-, mark⟩
    · exact .inl (rooted c slash)
    · exact .inr (ends c mark)
  obtain ⟨front, onward⟩ :=
    cut_append (fun c => !(decide (c = '/') || decide (c = '?') || decide (c = '#')))
      (fun c member => by simp [plain c member]) (fun c first => by
        rcases stops c first with rfl | rfl | rfl <;> rfl)
  obtain ⟨middle, -⟩ :=
    cut_append (fun c => decide (c ≠ '#') && decide (c ≠ '?'))
      (fun c member => by simp [inPath c member])
      (fun c first => by rcases ends c first with rfl | rfl <;> rfl)
  unfold toPath
  rw [isFile]
  change (checkAuthority _ >>= fun _ => pure _) = _
  rw [parts, List.drop_left, front, onward, middle]
  cases checkAuthority authority with
  | ok _ => rfl
  | error _ => rfl

end Scalpel.Uri

namespace Scalpel.ServerConfig

variable {c : ServerConfig} {endings : List String} {name : String}

/-! ### Endings -/

def MadeWith (endings : List String) (c : ServerConfig) : Prop :=
  ∃ language command args languageId options,
    make language command args (endings.map .str) languageId options = .ok c

def EndsLike (endings : List String) (name : List Char) : Prop :=
  ∃ ending ∈ endings, (dotted ending).toList <:+ name

theorem MadeWith.extensions_eq (made : MadeWith endings c) : c.extensions = endings.map dotted := by
  obtain ⟨language, command, args, languageId, options, made⟩ := made
  obtain ⟨-, -, words, others, -, same, rfl⟩ := make_eq_ok_iff.mp made
  have texts : others = endings :=
    (List.map_injective_iff.mpr (fun _ _ => Json.str.inj) same).symm
  rw [texts]

theorem ordinary_dotted {ending : String} (ordinary : ∀ c ∈ ending.toList, Glob.IsOrdinary c) :
    ∀ c ∈ (dotted ending).toList, Glob.IsOrdinary c := by
  unfold dotted
  split
  · exact ordinary
  · intro c member
    rcases List.mem_append.mp (String.toList_append ▸ member) with dot | inside
    · rw [List.mem_singleton.mp dot]
      exact ⟨by decide, by decide, by decide⟩
    · exact ordinary c inside

theorem serves_iff [Halves] (made : MadeWith endings c)
    (ordinary : ∀ ending ∈ endings, ∀ c ∈ ending.toList, Glob.IsOrdinary c) :
    c.serves name = true ↔ EndsLike endings name.toList := by
  unfold serves patterns patternsFor
  rw [made.extensions_eq, List.map_map, List.any_map, List.any_eq_true]
  refine exists_congr fun ending => and_congr_right fun member => ?_
  exact Glob.accepts_star_iff (ordinary_dotted (ordinary ending member))

end Scalpel.ServerConfig

namespace Scalpel.Workspace

variable [Halves] {settings : Settings} {text path : String}

/-- What a text names: a text that is no file uri names itself, and a file uri whose authority is one
that a uri may have names the path in it with its escapes undone. -/
inductive Names : String → String → Prop
  | path {path : String} (noUri : Uri.isFile path = false) : Names path path
  | uri {uri : String} {authority path : List Char} (parted : Uri.Parted uri authority path)
      (sound : Uri.checkAuthority authority = .ok ()) :
      Names uri (String.ofList (Uri.unescape path))

theorem Names.toPath_eq (names : Names text path) : Uri.toPath text = .ok path := by
  cases names with
  | path noUri =>
      unfold Uri.toPath
      rw [noUri]
      rfl
  | uri parted sound =>
      rw [parted.toPath_eq, sound]
      rfl

theorem exists_of_no_names (nothing : ∀ path, ¬Names text path) :
    ∃ authority path failure, Uri.Parted text authority path ∧
      Uri.checkAuthority authority = .error failure ∧ Uri.toPath text = .error failure := by
  cases isFile : Uri.isFile text with
  | false => exact absurd (.path isFile) (nothing text)
  | true =>
      obtain ⟨authority, path, parted⟩ := Uri.exists_parted isFile
      cases check : Uri.checkAuthority authority with
      | ok _ => exact absurd (.uri parted check) (nothing _)
      | error failure =>
          refine ⟨authority, path, failure, parted, check, ?_⟩
          rw [parted.toPath_eq, check]
          rfl

/-- A table in which each language has a server that was made with the endings offered for it, all of
ordinary characters. -/
def Offers (offered : List (String × List String)) (table : ServerTable) : Prop :=
  List.Forall₂ (fun offer entry => offer.1 = entry.1 ∧ entry.2.MadeWith offer.2 ∧
    ∀ ending ∈ offer.2, ∀ c ∈ ending.toList, Glob.IsOrdinary c) offered table

variable {before after offered : List (String × List String)} {language : String}
  {endings : List String} {table : ServerTable} {name : String}

theorem languageFor?_cons (entry : String × ServerConfig) (table : ServerTable) :
    ServerTable.languageFor? (entry :: table) name =
      if entry.2.serves name then some entry.1 else table.languageFor? name := by
  unfold ServerTable.languageFor?
  rw [List.find?_cons]
  cases entry.2.serves name with
  | true => rfl
  | false => rfl

theorem languageFor?_of_first (offers : Offers (before ++ (language, endings) :: after) table)
    (others : ∀ offer ∈ before, ¬ServerConfig.EndsLike offer.2 name.toList)
    (fits : ServerConfig.EndsLike endings name.toList) :
    table.languageFor? name = some language := by
  induction before generalizing table with
  | nil =>
      cases offers with
      | cons first rest =>
          obtain ⟨same, made, ordinary⟩ := first
          rw [languageFor?_cons, if_pos ((ServerConfig.serves_iff made ordinary).mpr fits)]
          exact congrArg some same.symm
  | cons offer before ih =>
      cases offers with
      | cons first rest =>
          obtain ⟨same, made, ordinary⟩ := first
          have unlike := others offer List.mem_cons_self
          rw [languageFor?_cons, if_neg fun serves =>
            unlike ((ServerConfig.serves_iff made ordinary).mp serves)]
          exact ih rest fun other member => others other (List.mem_cons_of_mem _ member)

theorem languageFor?_of_none (offers : Offers offered table)
    (others : ∀ offer ∈ offered, ¬ServerConfig.EndsLike offer.2 name.toList) :
    table.languageFor? name = none := by
  induction offers with
  | nil => rfl
  | cons first rest ih =>
      obtain ⟨same, made, ordinary⟩ := first
      have unlike := others _ List.mem_cons_self
      rw [languageFor?_cons, if_neg fun serves =>
        unlike ((ServerConfig.serves_iff made ordinary).mp serves)]
      exact ih fun other member => others other (List.mem_cons_of_mem _ member)

/-- The language of a file is the first one of the table that offers an ending, with its dot, which
the last name of the path has that the text names; without such an ending there is no language. A text
that names no path is a uri that is refused. -/
theorem language_by_ending (offers : Offers offered settings.servers) :
    (∀ text path, Names text path →
      ∃ name, (Path.names path.toList).getLast? = some name ∧
        (∀ before language endings after, offered = before ++ (language, endings) :: after →
          (∀ offer ∈ before, ¬ServerConfig.EndsLike offer.2 name) →
          ServerConfig.EndsLike endings name →
          languageOf? settings text = .ok (some language)) ∧
        ((∀ offer ∈ offered, ¬ServerConfig.EndsLike offer.2 name) →
          languageOf? settings text = .ok none)) ∧
      ∀ text, (∀ path, ¬Names text path) →
        ∃ authority path failure, Uri.Parted text authority path ∧
          Uri.checkAuthority authority = .error failure ∧
          languageOf? settings text = .error failure := by
  constructor
  · intro text path names
    have routed : languageOf? settings text =
        .ok (settings.servers.languageFor? (String.ofList (Path.baseName path.toList))) := by
      unfold languageOf?
      rw [names.toPath_eq]
      rfl
    have chars := String.toList_ofList (l := Path.baseName path.toList)
    refine ⟨_, Path.getLast?_names path.toList, ?_, ?_⟩
    · rintro before language endings after rfl others fits
      rw [routed, languageFor?_of_first offers]
      · rwa [chars]
      · rwa [chars]
    · intro others
      rw [routed, languageFor?_of_none offers]
      rwa [chars]
  · intro text nothing
    obtain ⟨authority, path, failure, parted, check, refused⟩ := exists_of_no_names nothing
    refine ⟨authority, path, failure, parted, check, ?_⟩
    unfold languageOf?
    rw [refused]
    rfl

end Scalpel.Workspace

namespace Scalpel.Workspace

local instance routingHalves : Halves :=
  Halves.trial

def twoLanguages : Settings := {
  servers := [
    ("go", { language := "go", command := .str "gopls", extensions := [".go"]
             languageId := .str "go" }),
    ("python", { language := "python", command := .str "pyright", extensions := [".py", ".pyi"]
                 languageId := .str "python" })] }

/-- The escapes of a uri are undone before its ending is looked at, and its query does not count. -/
theorem language_by_ending_of_escaped :
    Offers [("go", ["go"]), ("python", [".py", "pyi"])] twoLanguages.servers ∧
      Names "file:///w/a%2Epy?b.go" "/w/a.py" ∧
      languageOf? twoLanguages "file:///w/a%2Epy?b.go" = .ok (some "python") := by
  have ordinary (ending : String)
      (listed : ending.toList.all (fun c => c ≠ '*' && c ≠ '?' && c ≠ '[') = true) :
      ∀ c ∈ ending.toList, Glob.IsOrdinary c := by
    intro c member
    simpa [Glob.IsOrdinary, and_assoc] using List.all_eq_true.mp listed c member
  have offers : Offers [("go", ["go"]), ("python", [".py", "pyi"])] twoLanguages.servers := by
    refine .cons ⟨rfl, ⟨"go", .str "gopls", [], .null, .null, rfl⟩, ?_⟩
      (.cons ⟨rfl, ⟨"python", .str "pyright", [], .null, .null, rfl⟩, ?_⟩ .nil)
    · intro ending member
      rw [List.mem_singleton.mp member]
      exact ordinary "go" (by decide)
    · intro ending member
      rcases List.mem_pair.mp member with rfl | rfl
      · exact ordinary ".py" (by decide)
      · exact ordinary "pyi" (by decide)
  have parted : Uri.Parted "file:///w/a%2Epy?b.go" [] "/w/a%2Epy".toList := by
    refine ⟨by decide +kernel, ⟨"?b.go".toList, by decide +kernel, ?_⟩, nofun, ?_, ?_⟩
    · intro c first
      exact .inl (Option.some.inj first).symm
    · intro c first
      exact (Option.some.inj first).symm
    · intro c member
      have listed : "/w/a%2Epy".toList.all (fun c => c ≠ '?' && c ≠ '#') = true := by decide
      simpa using List.all_eq_true.mp listed c member
  have path : String.ofList (Uri.unescape "/w/a%2Epy".toList) = "/w/a.py" := by decide +kernel
  have names : Names "file:///w/a%2Epy?b.go" "/w/a.py" := path ▸ Names.uri parted rfl
  obtain ⟨name, last, first, -⟩ := (language_by_ending offers).1 _ _ names
  have same : name = "a.py".toList := by
    have read : (Path.names "/w/a.py".toList).getLast? = some "a.py".toList := by decide
    exact Option.some.inj (last.symm.trans read)
  refine ⟨offers, names, first [("go", ["go"])] "python" [".py", "pyi"] [] rfl ?_ ?_⟩
  · intro offer member
    rw [List.mem_singleton.mp member, same]
    rintro ⟨ending, member, fits⟩
    rw [List.mem_singleton.mp member] at fits
    revert fits
    decide
  · rw [same]
    exact ⟨".py", List.mem_cons_self, by decide⟩

end Scalpel.Workspace
