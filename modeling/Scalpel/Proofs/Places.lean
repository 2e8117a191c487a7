import Scalpel.Files.Tree

/-!
File systems that differ in nothing but the content of their files. Every path leads to the same place
in all of them, so a file that is written is found again where it was.
-/

set_option autoImplicit false

namespace Scalpel

def Entry.form : Entry → Entry
  | .file _ mode => .file [] mode
  | other => other

namespace FileTree

variable {t after : FileTree} {place : Place}

theorem get?_put (t : FileTree) {place : Place} (named : place ≠ []) (entry : Entry)
    (other : Place) :
    (t.put place entry).get? other = if other = place then some entry else t.get? other := by
  unfold get? put
  by_cases here : other = place
  · subst here
    rw [if_pos rfl, if_neg (by simpa using named), List.lookup_cons_self]
  · rw [if_neg here]
    by_cases root : other.isEmpty = true
    · rw [if_pos root, if_pos root]
    · rw [if_neg root, if_neg root, List.lookup_cons]
      have differs : (other == place) = false := beq_eq_false_iff_ne.mpr here
      rw [differs]
      dsimp only
      induction t.entries with
      | nil => rfl
      | cons first rest ih =>
          obtain ⟨key, value⟩ := first
          by_cases same : key = place
          · have elsewhere : (other == key) = false :=
              beq_eq_false_iff_ne.mpr fun equal => here (equal.trans same)
            rw [List.filter_cons_of_neg (by simp [same]), ih, List.lookup_cons, elsewhere]
          · rw [List.filter_cons_of_pos (by simp [same]), List.lookup_cons, List.lookup_cons, ih]

theorem put_put (t : FileTree) (place : Place) (first second : Entry) :
    (t.put place first).put place second = t.put place second := by
  unfold put
  dsimp only
  rw [List.filter_cons_of_neg (by simp), List.filter_filter]
  simp only [Bool.and_self]

/-! ### How long a walk can be -/

def LinksWithin (t : FileTree) (longest : Nat) : Prop :=
  ∀ ⦃place target⦄, t.get? place = some (.link target) → target.length ≤ longest

theorem length_splitOn (text : List Char) : (text.splitOn '/').length ≤ text.length + 1 := by
  unfold List.splitOn
  induction text with
  | nil => exact Nat.le_refl _
  | cons first rest ih =>
      rw [List.splitOnP_cons_eq_if_modifyHead, List.length_cons]
      split
      · rw [List.length_cons]
        omega
      · rw [List.length_modifyHead]
        omega

private theorem le_foldl_max {lengths : List Nat} {start n : Nat}
    (found : n ≤ start ∨ n ∈ lengths) : n ≤ lengths.foldl max start := by
  induction lengths generalizing start with
  | nil => simpa using found
  | cons first rest ih =>
      rw [List.foldl_cons]
      refine ih ?_
      rcases found with small | member
      · exact .inl (Nat.le_trans small (Nat.le_max_left _ _))
      · rcases List.mem_cons.mp member with rfl | later
        · exact .inl (Nat.le_max_right _ _)
        · exact .inr later

private def longestLink (t : FileTree) : Nat :=
  (t.entries.map fun old =>
    match old.2 with
    | .link target => target.length
    | _ => 0).foldl max 0

private theorem linksWithin_longestLink (t : FileTree) : t.LinksWithin t.longestLink := by
  intro place target found
  unfold get? at found
  split at found
  · cases found
  · obtain ⟨before, rest, parted, _⟩ := List.lookup_eq_some_iff.mp found
    refine le_foldl_max (.inr (List.mem_map.mpr ⟨(place, .link target), ?_, rfl⟩))
    rw [parted]
    exact List.mem_append_right _ List.mem_cons_self

variable [Halves]

theorem walk_of_enough {longest : Nat} (short : t.LinksWithin longest) (follow : Bool)
    {fuel more links : Nat} {names : List (List Char)} (here : Place)
    (enough : names.length + links * (longest + 1) < fuel) (le : fuel ≤ more) :
    t.walk follow more links here names = t.walk follow fuel links here names := by
  induction fuel generalizing more links here names with
  | zero => omega
  | succ fuel ih =>
      obtain ⟨more, rfl⟩ : ∃ rest, more = rest + 1 := ⟨more - 1, by omega⟩
      cases names with
      | nil => rfl
      | cons name rest =>
          have shorter (there : Place) :
              t.walk follow more links there rest = t.walk follow fuel links there rest := by
            rw [List.length_cons] at enough
            exact ih there (by omega) (by omega)
          unfold walk
          dsimp only
          split
          · exact shorter here
          · split
            · exact shorter here.dropLast
            · split
              · rfl
              · split
                · rfl
                · exact shorter _
                · rfl
                · next target found =>
                  split
                  · rfl
                  · cases links with
                    | zero => rfl
                    | succ links =>
                        have bounded := short found
                        have split := length_splitOn target
                        refine ih _ ?_ (by omega)
                        rw [List.length_append]
                        rw [List.length_cons, Nat.succ_mul] at enough
                        omega

theorem locate_eq_walk (t : FileTree) {path : String} (follow : Bool) {longest fuel : Nat}
    (short : t.LinksWithin longest) (given : path.isEmpty = false)
    (fits : ¬4096 ≤ byteCount path.toList)
    (enough : (t.fullPath path).length + 2 + linkLimit * (longest + 1) ≤ fuel) :
    t.locate follow path = t.walk follow fuel linkLimit [] ((t.fullPath path).splitOn '/') := by
  unfold locate
  rw [given, if_neg Bool.false_ne_true, if_neg fits]
  dsimp only
  have split := length_splitOn (t.fullPath path)
  change t.walk follow ((t.fullPath path).length + 2 + (linkLimit + 1) * (t.longestLink + 2))
    linkLimit [] ((t.fullPath path).splitOn '/') = _
  have own : ((t.fullPath path).splitOn '/').length + linkLimit * (t.longestLink + 1) <
      (t.fullPath path).length + 2 + (linkLimit + 1) * (t.longestLink + 2) := by
    unfold linkLimit
    omega
  have other : ((t.fullPath path).splitOn '/').length + linkLimit * (longest + 1) < fuel := by
    omega
  rcases Nat.le_total fuel
    ((t.fullPath path).length + 2 + (linkLimit + 1) * (t.longestLink + 2)) with le | le
  · exact walk_of_enough short follow [] other le
  · exact (walk_of_enough (linksWithin_longestLink t) follow [] own le).symm

/-! ### Systems that differ in the content of files -/

structure Alike (t after : FileTree) : Prop where
  workingDirectory : after.workingDirectory = t.workingDirectory
  writeDenied : after.writeDenied = t.writeDenied
  form : ∀ place, (after.get? place).map Entry.form = (t.get? place).map Entry.form

namespace Alike

variable {last : FileTree}

omit [Halves] in
theorem refl : Alike t t :=
  ⟨rfl, rfl, fun _ => rfl⟩

omit [Halves] in
theorem trans (first : Alike t after) (second : Alike after last) : Alike t last :=
  ⟨second.workingDirectory.trans first.workingDirectory,
    second.writeDenied.trans first.writeDenied,
    fun place => (second.form place).trans (first.form place)⟩

omit [Halves] in
theorem symm (alike : Alike t after) : Alike after t :=
  ⟨alike.workingDirectory.symm, alike.writeDenied.symm, fun place => (alike.form place).symm⟩

omit [Halves] in
theorem put {content other : Bytes} {mode : Nat} (found : t.get? place = some (.file content mode)) :
    Alike t (t.put place (.file other mode)) := by
  have named : place ≠ [] := by
    rintro rfl
    cases found
  refine ⟨rfl, rfl, fun other => ?_⟩
  rw [get?_put t named]
  split
  · next here =>
    rw [here, found]
    rfl
  · rfl

omit [Halves] in
theorem same_or_file (alike : Alike t after) (place : Place) :
    after.get? place = t.get? place ∨ ∃ content other mode,
      t.get? place = some (.file content mode) ∧ after.get? place = some (.file other mode) := by
  have form := alike.form place
  cases here : t.get? place with
  | none =>
      rw [here] at form
      exact .inl (Option.map_eq_none_iff.mp form)
  | some entry =>
      rw [here] at form
      obtain ⟨there, found, same⟩ := Option.map_eq_some_iff.mp form
      rw [found]
      cases entry with
      | file content mode =>
          cases there <;> cases same
          exact .inr ⟨content, _, mode, rfl, rfl⟩
      | directory =>
          cases there <;> cases same
          exact .inl rfl
      | link target =>
          cases there <;> cases same
          exact .inl rfl

omit [Halves] in
theorem link {target : List Char} (alike : Alike t after)
    (found : t.get? place = some (.link target)) : after.get? place = some (.link target) := by
  rcases alike.same_or_file place with same | ⟨_, _, _, file, _⟩
  · rw [same, found]
  · cases found.symm.trans file

omit [Halves] in
theorem linksWithin {longest : Nat} (alike : Alike t after) (short : t.LinksWithin longest) :
    after.LinksWithin longest :=
  fun _ _ found => short (alike.symm.link found)

theorem walk (alike : Alike t after) (follow : Bool) (fuel links : Nat) (here : Place)
    (names : List (List Char)) :
    after.walk follow fuel links here names =
      (t.walk follow fuel links here names).map fun reached => (reached.1, after.get? reached.1) := by
  induction fuel generalizing links here names with
  | zero => rfl
  | succ fuel ih =>
      cases names with
      | nil => rfl
      | cons name rest =>
          have arrived {old now : Option Entry} (found : after.get? (here ++ [name]) = now) :
              (.ok (here ++ [name], now) : Except Fault (Place × Option Entry)) =
                (Except.ok (here ++ [name], old)).map fun reached =>
                  (reached.1, after.get? reached.1) := by
            rw [← found]
            rfl
          unfold FileTree.walk
          dsimp only
          split
          · exact ih links here rest
          · split
            · exact ih links here.dropLast rest
            · split
              · rfl
              · rcases alike.same_or_file (here ++ [name]) with same | ⟨_, _, _, old, new⟩
                · rw [same]
                  split
                  · next absent =>
                    split
                    · exact arrived (same.trans absent)
                    · rfl
                  · exact ih links _ rest
                  · next found =>
                    split
                    · exact arrived (same.trans found)
                    · rfl
                  · next found =>
                    split
                    · exact arrived (same.trans found)
                    · cases links with
                      | zero => rfl
                      | succ links => exact ih links _ _
                · rw [old, new]
                  dsimp only
                  split
                  · exact arrived new
                  · rfl

theorem locate (alike : Alike t after) (follow : Bool) (path : String) :
    after.locate follow path =
      (t.locate follow path).map fun reached => (reached.1, after.get? reached.1) := by
  have full : after.fullPath path = t.fullPath path := by
    unfold fullPath
    rw [alike.workingDirectory]
  by_cases empty : path.isEmpty = true
  · unfold FileTree.locate
    rw [if_pos empty, if_pos empty]
    rfl
  by_cases fits : 4096 ≤ byteCount path.toList
  · unfold FileTree.locate
    rw [if_neg empty, if_neg empty, if_pos fits, if_pos fits]
    rfl
  have given : path.isEmpty = false := Bool.eq_false_iff.mpr empty
  have short := linksWithin_longestLink t
  rw [locate_eq_walk after follow (alike.linksWithin short) given fits (Nat.le_refl _), full,
    locate_eq_walk t follow short given fits (Nat.le_refl _)]
  exact alike.walk follow _ _ _ _

end Alike

/-! ### Reading and writing -/

theorem entry_of_locate {path : String} {follow : Bool} {entry : Option Entry}
    (located : t.locate follow path = .ok (place, entry)) : entry = t.get? place := by
  have again := Alike.refl.locate (t := t) follow path
  rw [located] at again
  exact congrArg (·.2) (Except.ok.inj again)

theorem readFile_eq_ok {path : String} {content : Bytes} :
    t.readFile path = .ok content ↔
      ∃ place mode, t.locate true path = .ok (place, some (.file content mode)) ∧
        mode / 256 % 2 = 1 := by
  unfold readFile find
  rcases located : t.locate true path with fault | ⟨place, found⟩
  · simp
  · cases found with
    | none => simp
    | some entry =>
        cases entry with
        | file bytes mode =>
            dsimp only
            split
            · next readable =>
              simp only [Except.ok.injEq, Prod.mk.injEq, Option.some.injEq, Entry.file.injEq]
              exact ⟨fun same => ⟨place, mode, ⟨rfl, same, rfl⟩, readable⟩,
                fun ⟨_, _, ⟨_, same, _⟩, _⟩ => same⟩
            · next unreadable =>
              simp only [reduceCtorEq, Except.ok.injEq, Prod.mk.injEq, Option.some.injEq,
                Entry.file.injEq, false_iff]
              rintro ⟨_, _, ⟨_, _, rfl⟩, readable⟩
              exact unreadable readable
        | _ => simp

def Leads (t : FileTree) (path : String) (place : Place) : Prop :=
  ∃ content mode, t.locate true path = .ok (place, some (.file content mode))

theorem leads_of_readFile {path : String} {content : Bytes} (read : t.readFile path = .ok content) :
    ∃ place, t.Leads path place := by
  obtain ⟨place, mode, located, _⟩ := readFile_eq_ok.mp read
  exact ⟨place, content, mode, located⟩

theorem Leads.unique {path : String} {other : Place} (one : t.Leads path place)
    (two : t.Leads path other) : place = other := by
  obtain ⟨_, _, here⟩ := one
  obtain ⟨_, _, there⟩ := two
  cases here.symm.trans there
  rfl

theorem Alike.readFile {path : String} {content bytes : Bytes} {mode : Nat}
    (alike : Alike t after) (read : t.readFile path = .ok content) (leads : t.Leads path place)
    (now : after.get? place = some (.file bytes mode)) : after.readFile path = .ok bytes := by
  obtain ⟨other, old, located, readable⟩ := readFile_eq_ok.mp read
  obtain ⟨_, _, here⟩ := leads
  cases located.symm.trans here
  have same : mode = old := by
    have form := alike.form place
    rw [← entry_of_locate located, now] at form
    cases form
    rfl
  refine readFile_eq_ok.mpr ⟨place, mode, ?_, same ▸ readable⟩
  rw [alike.locate, located]
  change Except.ok (place, after.get? place) = _
  rw [now]

theorem openForWriting_eq_ok {path : String} {files : FileTree} {mode : Nat}
    (opened : t.openForWriting path = .ok (files, place, mode)) :
    t.locate true path = .ok (place, t.get? place) ∧ files = t.put place (.file [] mode) ∧
      place ≠ [] ∧ (t.get? place = none ∨ ∃ content, t.get? place = some (.file content mode)) := by
  unfold openForWriting at opened
  split at opened
  · cases opened
  · split at opened
    · cases opened
    · next located =>
      have entry := entry_of_locate located
      split at opened
      · cases opened
        refine ⟨by rw [located, entry], rfl, ?_, .inr ⟨_, entry.symm⟩⟩
        rintro rfl
        cases entry
      · cases opened
    · cases opened
    · next located =>
      have entry := entry_of_locate located
      split at opened
      · cases opened
      · cases opened
        refine ⟨by rw [located, entry], rfl, ?_, .inl entry.symm⟩
        rintro rfl
        cases entry

theorem Alike.openForWriting {path : String} {files : FileTree} {mode : Nat}
    (alike : Alike t after) (opened : t.openForWriting path = .ok (files, place, mode)) :
    after.openForWriting path = .ok (after.put place (.file [] mode), place, mode) := by
  obtain ⟨located, _, _, entry⟩ := openForWriting_eq_ok opened
  have there : after.locate true path = .ok (place, after.get? place) := by
    rw [alike.locate, located]
    rfl
  have form := alike.form place
  unfold FileTree.openForWriting at opened ⊢
  rw [alike.writeDenied, there]
  rw [located] at opened
  split at opened
  · cases opened
  · next allowed =>
    rw [if_neg allowed]
    rcases entry with absent | ⟨content, here⟩
    · rw [absent] at opened form
      rw [Option.map_eq_none_iff.mp form]
      dsimp only at opened ⊢
      split at opened
      · cases opened
      · next plain =>
        rw [if_neg plain]
        cases opened
        rfl
    · have now : ∃ other, after.get? place = some (.file other mode) := by
        rcases alike.same_or_file place with same | ⟨_, other, _, was, now⟩
        · exact ⟨content, same.trans here⟩
        · cases was.symm.trans here
          exact ⟨other, now⟩
      obtain ⟨other, now⟩ := now
      rw [here] at opened
      rw [now]
      dsimp only at opened ⊢
      split at opened
      · next writable => rw [if_pos writable]
      · cases opened

theorem Alike.openForWriting_error {path : String} {fault : Fault} (alike : Alike t after)
    (unopened : t.openForWriting path = .error fault) :
    ∃ fault, after.openForWriting path = .error fault := by
  cases found : after.openForWriting path with
  | error other => exact ⟨other, rfl⟩
  | ok opened =>
      have opens := alike.symm.openForWriting found
      cases unopened.symm.trans opens

theorem Alike.readFile_kept {path : String} {content : Bytes} (alike : Alike t after)
    (read : t.readFile path = .ok content) (leads : t.Leads path place)
    (kept : after.get? place = t.get? place) : after.readFile path = .ok content := by
  obtain ⟨other, mode, located, _⟩ := readFile_eq_ok.mp read
  obtain ⟨_, _, here⟩ := leads
  cases located.symm.trans here
  have entry : t.get? place = some (.file content mode) := (entry_of_locate located).symm
  exact alike.readFile read ⟨content, mode, located⟩ (kept.trans entry)

end FileTree

end Scalpel
