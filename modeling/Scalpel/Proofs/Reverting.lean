import Scalpel.Proofs.Undoing

/-!
Updates that are undone later. Whether an update is still the latest one is told by the version of its
document alone. As long as a document is only updated or closed its version does not come back, so that
the undoing of an update undoes nothing but that update. A document that is opened anew, or that gets
its first version again, can be updated until it has the old version: then the text of an earlier time
takes the place of the newer one.
-/

set_option autoImplicit false

namespace Scalpel.Tracker

inductive Step where
  | openNew (uri content : String) (languageId : Json)
  | update (uri : String) (changes : List ContentChange)
  | revert (uri content : String) (version : Int)
  | remove (uri : String)
  | resetVersions
  | clear

/-- The documents after a step. An update of a document that is not open fails and changes nothing. -/
def after (t : Tracker) : Step → Tracker
  | .openNew uri content languageId => (t.openNew uri content languageId).1
  | .update uri changes =>
    match t.update uri changes with
    | .ok (updated, _) => updated
    | .error _ => t
  | .revert uri content version => t.revert uri content version
  | .remove uri => t.remove uri
  | .resetVersions => t.resetVersions
  | .clear => {}

def follow (t : Tracker) (steps : List Step) : Tracker :=
  steps.foldl after t

/-! ### Versions -/

def version? (t : Tracker) (uri : String) : Option Int :=
  (t.get? uri).map (·.version)

namespace Step

def versionOf (uri : String) : Step → Option Int → Option Int
  | .openNew other _ _, version => if other = uri then some 1 else version
  | .update other _, version => if other = uri then version.map (· + 1) else version
  | .revert other _ target, version =>
    if other = uri ∧ version = some (target + 1) then some target else version
  | .remove other, version => if other = uri then none else version
  | .resetVersions, version => version.map fun _ => 1
  | .clear, _ => none

/-- A step leaves the document of a uri, which has a version, as it is. -/
def Spares (uri : String) (version : Int) : Step → Prop
  | .openNew other _ _ | .update other _ | .remove other => other ≠ uri
  | .revert other _ target => other ≠ uri ∨ version ≠ target + 1
  | .resetVersions | .clear => False

/-- A step may update or close the document of a uri, but gives it no version that it had before. -/
def Onward (uri : String) : Step → Prop
  | .openNew other _ _ | .revert other _ _ => other ≠ uri
  | .resetVersions => False
  | .update _ _ | .remove _ | .clear => True

end Step

variable {t : Tracker} {uri : String} {old document : OpenDocument} {step : Step}
  {steps : List Step}

/-- The version that a document has after some steps, told from the steps alone. -/
def versionAfter (uri : String) (version : Option Int) (steps : List Step) : Option Int :=
  steps.foldl (fun version step => step.versionOf uri version) version

theorem version?_of_get? (found : t.get? uri = some document) :
    t.version? uri = some document.version := by
  unfold version?
  rw [found]
  rfl

theorem version?_eq_none (absent : t.get? uri = none) : t.version? uri = none := by
  unfold version?
  rw [absent]
  rfl

theorem version?_put (t : Tracker) (document : OpenDocument) (uri : String) :
    (t.put document).version? uri =
      if document.uri = uri then some document.version else t.version? uri := by
  unfold version?
  rw [get?_put]
  split
  · rfl
  · rfl

theorem version?_update (t : Tracker) (other : String) (changes : List ContentChange)
    (uri : String) : (t.after (.update other changes)).version? uri =
      if other = uri then (t.version? uri).map (· + 1) else t.version? uri := by
  simp only [after]
  cases found : t.get? other with
  | none =>
      have failed : t.update other changes = fail (.documentNotOpen other) := by
        unfold update require
        rw [found]
        rfl
      rw [failed]
      change t.version? uri = _
      split
      · next same =>
        subst same
        rw [version?_eq_none found]
        rfl
      · rfl
  | some old =>
      have named : old.uri = other := uri_of_get? found
      rw [update_of_get? found]
      dsimp only
      rw [version?_put]
      dsimp only
      rw [named]
      split
      · next same =>
        subst same
        rw [version?_of_get? found]
        rfl
      · rfl

theorem version?_revert (t : Tracker) (other content : String) (target : Int) (uri : String) :
    (t.revert other content target).version? uri =
      if other = uri ∧ t.version? uri = some (target + 1) then some target else t.version? uri := by
  unfold revert
  cases found : t.get? other with
  | none =>
      dsimp only
      rw [if_neg]
      rintro ⟨same, known⟩
      subst same
      rw [version?_eq_none found] at known
      cases known
  | some old =>
      have named : old.uri = other := uri_of_get? found
      have version : t.version? other = some old.version := version?_of_get? found
      dsimp only
      by_cases struck : old.version = target + 1
      · rw [if_pos struck, version?_put]
        dsimp only
        rw [named]
        by_cases same : other = uri
        · subst same
          rw [if_pos rfl, if_pos ⟨rfl, version.trans (congrArg some struck)⟩]
        · rw [if_neg same, if_neg fun both => same both.1]
      · rw [if_neg struck, if_neg]
        rintro ⟨same, known⟩
        subst same
        exact struck (Option.some.inj (version.symm.trans known))

theorem version?_after (t : Tracker) (step : Step) (uri : String) :
    (t.after step).version? uri = step.versionOf uri (t.version? uri) := by
  cases step with
  | openNew other content languageId => exact version?_put _ _ _
  | update other changes => exact version?_update t other changes uri
  | revert other content target => exact version?_revert t other content target uri
  | remove other =>
      simp only [after, Step.versionOf]
      unfold version?
      rw [get?_remove]
      by_cases same : uri = other
      · rw [if_pos same, if_pos same.symm]
        rfl
      · rw [if_neg same, if_neg (Ne.symm same)]
  | resetVersions =>
      simp only [after, Step.versionOf]
      unfold version?
      rw [get?_resetVersions, Option.map_map, Option.map_map]
      rfl
  | clear => rfl

theorem version?_follow (t : Tracker) (steps : List Step) (uri : String) :
    (t.follow steps).version? uri = versionAfter uri (t.version? uri) steps := by
  induction steps generalizing t with
  | nil => rfl
  | cons step rest ih =>
      change ((t.after step).follow rest).version? uri = _
      rw [ih, version?_after]
      rfl

/-! ### Documents that are left alone -/

theorem get?_after_of_spares (found : t.get? uri = some document)
    (spares : step.Spares uri document.version) : (t.after step).get? uri = some document := by
  cases step with
  | openNew other content languageId =>
      have kept : (t.after (.openNew other content languageId)).get? uri =
          if other = uri then _ else t.get? uri := get?_put _ _ _
      rw [kept, if_neg spares]
      exact found
  | update other changes =>
      simp only [after]
      split
      · next updated _ made => exact (get?_update_other made (Ne.symm spares)).trans found
      · exact found
  | revert other content target =>
      by_cases same : other = uri
      · subst same
        have unlike : document.version ≠ target + 1 := spares.resolve_left fun differ => differ rfl
        simp only [after]
        unfold revert
        rw [found]
        dsimp only
        rw [if_neg unlike]
        exact found
      · exact (get?_revert_other (Ne.symm same)).trans found
  | remove other =>
      simp only [after]
      rw [get?_remove, if_neg (Ne.symm spares)]
      exact found
  | resetVersions => exact absurd spares id
  | clear => exact absurd spares id

theorem get?_follow_of_spares (found : t.get? uri = some document)
    (spares : ∀ step ∈ steps, step.Spares uri document.version) :
    (t.follow steps).get? uri = some document := by
  induction steps generalizing t with
  | nil => exact found
  | cons step rest ih =>
      apply ih
      · exact get?_after_of_spares found (spares step List.mem_cons_self)
      · exact fun later member => spares later (List.mem_cons_of_mem _ member)

/-! ### Versions that do not come back -/

def AtLeast (bound : Int) (version : Option Int) : Prop :=
  ∀ known ∈ version, bound ≤ known

theorem atLeast_versionOf {bound : Int} {version : Option Int} (onward : step.Onward uri)
    (least : AtLeast bound version) : AtLeast bound (step.versionOf uri version) := by
  cases step with
  | openNew other content languageId =>
      rw [Step.versionOf, if_neg onward]
      exact least
  | update other changes =>
      rw [Step.versionOf]
      split
      · intro known member
        obtain ⟨before, here, rfl⟩ := Option.map_eq_some_iff.mp member
        have := least before here
        omega
      · exact least
  | revert other content target =>
      rw [Step.versionOf, if_neg fun both => onward both.1]
      exact least
  | remove other =>
      rw [Step.versionOf]
      split
      · exact fun _ member => nomatch member
      · exact least
  | resetVersions => exact absurd onward id
  | clear => exact fun _ member => nomatch member

theorem atLeast_versionAfter {bound : Int} {version : Option Int}
    (onward : ∀ step ∈ steps, step.Onward uri) (least : AtLeast bound version) :
    AtLeast bound (versionAfter uri version steps) := by
  induction steps generalizing version with
  | nil => exact least
  | cons step rest ih =>
      apply ih
      · exact fun later member => onward later (List.mem_cons_of_mem _ member)
      · exact atLeast_versionOf (onward step List.mem_cons_self) least

theorem versionOf_of_spares {version : Int} (spares : step.Spares uri version) :
    step.versionOf uri (some version) = some version := by
  cases step with
  | openNew other content languageId => exact if_neg spares
  | update other changes => exact if_neg spares
  | revert other content target =>
      apply if_neg
      rintro ⟨same, known⟩
      rcases spares with different | unlike
      · exact different same
      · exact unlike (Option.some.inj known)
  | remove other => exact if_neg spares
  | resetVersions => exact absurd spares id
  | clear => exact absurd spares id

theorem atLeast_versionOf_of_touched {version : Int} (onward : step.Onward uri)
    (touched : ¬step.Spares uri version) :
    AtLeast (version + 1) (step.versionOf uri (some version)) := by
  cases step with
  | openNew other content languageId => exact absurd onward touched
  | update other changes =>
      have same : other = uri := not_not.mp touched
      rw [Step.versionOf, if_pos same]
      intro known member
      cases member
      exact Int.le_refl _
  | revert other content target => exact absurd (.inl onward) touched
  | remove other =>
      have same : other = uri := not_not.mp touched
      rw [Step.versionOf, if_pos same]
      exact fun _ member => nomatch member
  | resetVersions => exact absurd onward id
  | clear => exact fun _ member => nomatch member

theorem versionAfter_ne_of_onward {version : Int} (onward : ∀ step ∈ steps, step.Onward uri)
    (touched : ∃ step ∈ steps, ¬step.Spares uri version) :
    versionAfter uri (some version) steps ≠ some version := by
  induction steps with
  | nil =>
      obtain ⟨_, member, _⟩ := touched
      cases member
  | cons step rest ih =>
      have first : step.Onward uri := onward step List.mem_cons_self
      have later : ∀ next ∈ rest, next.Onward uri := fun next member =>
        onward next (List.mem_cons_of_mem _ member)
      change versionAfter uri (step.versionOf uri (some version)) rest ≠ some version
      by_cases spares : step.Spares uri version
      · rw [versionOf_of_spares spares]
        apply ih later
        obtain ⟨toucher, member, touches⟩ := touched
        rcases List.mem_cons.mp member with rfl | member
        · exact absurd spares touches
        · exact ⟨toucher, member, touches⟩
      · have beyond := atLeast_versionAfter later (atLeast_versionOf_of_touched first spares)
        intro back
        have := beyond version back
        omega

/-! ### Undoing an update -/

theorem revert_eq_self_iff {content : String} {version : Int} :
    t.revert uri content version = t ↔ t.version? uri ≠ some (version + 1) := by
  unfold revert
  cases found : t.get? uri with
  | none =>
      rw [version?_eq_none found]
      exact iff_of_true rfl nofun
  | some document =>
      rw [version?_of_get? found]
      dsimp only
      by_cases struck : document.version = version + 1
      · rw [if_pos struck, struck]
        refine iff_of_false (fun kept => ?_) fun differ => differ rfl
        have named : document.uri = uri := uri_of_get? found
        have current := get?_put t { document with content, version } uri
        rw [kept, found, if_pos named] at current
        have lowered : document.version = version :=
          congrArg OpenDocument.version (Option.some.inj current)
        omega
      · rw [if_neg struck]
        exact iff_of_true rfl fun same => struck (Option.some.inj same)

/-- A document is again what it was, and everything else is as before. -/
structure Restored (reached result : Tracker) (old : OpenDocument) : Prop where
  here : result.get? old.uri = some old
  elsewhere : ∀ other ≠ old.uri, result.get? other = reached.get? other
  order : result.uris = reached.uris

/-- An update that is still the latest one is undone, whatever has been done to other documents. -/
theorem restored_of_latest {content : String}
    (latest : t.get? old.uri = some { old with content, version := old.version + 1 }) :
    Restored t (t.revert old.uri old.content old.version) old := by
  have undone : t.revert old.uri old.content old.version = t.put old := by
    unfold revert
    rw [latest]
    exact if_pos rfl
  have known : t.isOpen old.uri = true := by
    unfold isOpen
    rw [latest]
    rfl
  constructor
  case here =>
    rw [undone, get?_put, if_pos rfl]
  case elsewhere =>
    intro other different
    exact get?_revert_other different
  case order =>
    rw [undone, uris_put, if_pos known]

/-- An update of a document is undone after any steps that left the document alone: the document is what
it was before the update, and nothing else changes. In general the undoing does nothing exactly if the
version that the steps leave the document with is not the one that the update gave it. So it does
nothing where the document was updated or closed and was neither opened anew nor given its first version
or an earlier one again; where it was, an update that came later can be taken for the one that is
undone. -/
theorem revert_undoes_iff {changes : List ContentChange} {reached : Tracker}
    (found : t.get? uri = some old) (updated : t.update uri changes = .ok (reached, document))
    (steps : List Step) :
    ((∀ step ∈ steps, step.Spares uri document.version) →
      Restored (reached.follow steps)
        ((reached.follow steps).revert uri old.content old.version) old) ∧
    ((reached.follow steps).revert uri old.content old.version = reached.follow steps ↔
      versionAfter uri (some document.version) steps ≠ some document.version) ∧
    ((∀ step ∈ steps, step.Onward uri) →
      (∃ step ∈ steps, ¬step.Spares uri document.version) →
      (reached.follow steps).revert uri old.content old.version = reached.follow steps) := by
  obtain ⟨was, here, made, rfl⟩ := update_eq_ok updated
  rw [found] at here
  cases here
  obtain rfl : old.uri = uri := uri_of_get? found
  have named : document.uri = old.uri := by rw [made]
  have next : document.version = old.version + 1 := by rw [made]
  have entered : (t.put document).get? old.uri = some document := by
    rw [get?_put, if_pos named]
  have struck : (t.put document).version? old.uri = some document.version :=
    version?_of_get? entered
  have unchanged : ((t.put document).follow steps).revert old.uri old.content old.version =
      (t.put document).follow steps ↔
        versionAfter old.uri (some document.version) steps ≠ some document.version := by
    rw [revert_eq_self_iff, version?_follow, struck, next]
  constructor
  · intro spares
    have latest := get?_follow_of_spares entered spares
    exact restored_of_latest (latest.trans (congrArg some made))
  constructor
  · exact unchanged
  · intro onward touched
    exact unchanged.mpr (versionAfter_ne_of_onward onward touched)

/-! ### A version that comes back -/

def single : Tracker :=
  ({} : Tracker).put { uri := "a", version := 1, content := "x", languageId := .str "python" }

/-- Every document gets its first version again, and the document is updated once more. -/
def comeback : List Step :=
  [.resetVersions, .update "a" [{ text := "xyz" }]]

theorem revert_undoes_iff_of_comeback :
    ∃ old reached document, single.get? "a" = some old ∧
      single.update "a" [{ text := "xy" }] = .ok (reached, document) ∧
      (∃ step ∈ comeback, ¬step.Spares "a" document.version) ∧
      (reached.follow comeback).revert "a" old.content old.version ≠ reached.follow comeback := by
  refine ⟨_, _, _, rfl, rfl, ⟨.resetVersions, List.mem_cons_self, id⟩, ?_⟩
  intro unchanged
  have found : single.get? "a" = some _ := rfl
  have updated : single.update "a" [{ text := "xy" }] = .ok _ := rfl
  have differs := (revert_undoes_iff found updated comeback).2.1.mp unchanged
  exact differs (by decide)

end Scalpel.Tracker
