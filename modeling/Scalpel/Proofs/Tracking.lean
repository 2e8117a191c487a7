import Scalpel.Document.Tracker

/-!
What the operations on open documents do to the document of each uri. A document is put in the place
of the one with its uri and no other document changes; no operation lets a uri occur twice.
-/

set_option autoImplicit false

namespace Scalpel.Tracker

def Distinct (t : Tracker) : Prop :=
  t.uris.Nodup

variable {t after : Tracker} {uri : String} {document : OpenDocument}

theorem uri_of_get? (found : t.get? uri = some document) : document.uri = uri := by
  have named := List.find?_some found
  exact of_decide_eq_true named

theorem isOpen_iff : t.isOpen uri = true ↔ uri ∈ t.uris := by
  unfold isOpen get? uris
  rw [List.find?_isSome]
  constructor
  · rintro ⟨document, member, named⟩
    exact List.mem_map.mpr ⟨document, member, of_decide_eq_true named⟩
  · intro member
    obtain ⟨document, member, named⟩ := List.mem_map.mp member
    exact ⟨document, member, decide_eq_true named⟩

private theorem find?_replace (documents : List OpenDocument) (document : OpenDocument)
    (uri : String) :
    (documents.map fun old => if old.uri = document.uri then document else old).find?
        (fun old => old.uri = uri) =
      if document.uri = uri then (documents.find? fun old => old.uri = uri).map fun _ => document
      else documents.find? fun old => old.uri = uri := by
  induction documents with
  | nil => simp only [List.map_nil, List.find?_nil, Option.map_none, ite_self]
  | cons first rest ih =>
      rw [List.map_cons, List.find?_cons, List.find?_cons, ih]
      by_cases here : first.uri = document.uri
      · by_cases same : document.uri = uri
        · simp only [here, same, if_true, decide_true, Option.map_some]
        · simp only [here, same, if_true, if_false, decide_false]
      · by_cases same : document.uri = uri
        · have other : ¬first.uri = uri := same ▸ here
          simp only [same, other, if_true, if_false, decide_false]
        · simp only [here, same, if_false]

theorem get?_put (t : Tracker) (document : OpenDocument) (uri : String) :
    (t.put document).get? uri = if document.uri = uri then some document else t.get? uri := by
  unfold put
  split
  · next isHere =>
    change (t.documents.map _).find? _ = _
    rw [find?_replace]
    split
    · next same =>
      obtain ⟨old, found⟩ := Option.isSome_iff_exists.mp isHere
      rw [same] at found
      change (t.get? uri).map _ = _
      rw [found]
      rfl
    · rfl
  · next isNew =>
    change (t.documents ++ [document]).find? _ = _
    rw [List.find?_append]
    change (t.get? uri).or _ = _
    by_cases same : document.uri = uri
    · have absent : t.get? uri = none := by
        rw [← same]
        exact Option.not_isSome_iff_eq_none.mp isNew
      rw [absent, if_pos same, Option.none_or, List.find?_cons]
      simp only [same, decide_true]
    · rw [if_neg same, List.find?_cons]
      simp only [same, decide_false, List.find?_nil, Option.or_none]

theorem uris_put (t : Tracker) (document : OpenDocument) :
    (t.put document).uris =
      if t.isOpen document.uri then t.uris else t.uris ++ [document.uri] := by
  unfold put uris
  split
  · rw [List.map_map]
    refine List.map_congr_left fun old _ => ?_
    change (if old.uri = document.uri then document else old).uri = old.uri
    split
    · next same => exact same.symm
    · rfl
  · exact List.map_append

theorem distinct_put (distinct : t.Distinct) (document : OpenDocument) :
    (t.put document).Distinct := by
  unfold Distinct
  rw [uris_put]
  split
  · exact distinct
  · next isNew =>
    refine List.nodup_append.mpr ⟨distinct,
      List.nodup_cons.mpr ⟨List.not_mem_nil, List.nodup_nil⟩, ?_⟩
    intro uri member other single same
    rw [List.mem_singleton.mp single] at same
    exact isNew (isOpen_iff.mpr (same ▸ member))

theorem get?_remove (t : Tracker) (uri other : String) :
    (t.remove uri).get? other = if other = uri then none else t.get? other := by
  change (t.documents.filter _).find? _ = _
  rw [List.find?_filter]
  split
  · next same =>
    refine List.find?_eq_none.mpr fun document _ kept => ?_
    have both := of_decide_eq_true kept
    exact of_decide_eq_true both.1 ((of_decide_eq_true both.2).trans same)
  · next different =>
    refine congrArg (t.documents.find? ·) (funext fun document => ?_)
    refine decide_eq_decide.mpr ⟨fun both => of_decide_eq_true both.2, fun here => ?_⟩
    exact ⟨decide_eq_true fun same => different (here.symm.trans same), decide_eq_true here⟩

theorem isOpen_put (document : OpenDocument) (known : t.isOpen uri = true) :
    (t.put document).isOpen uri = true := by
  unfold isOpen
  rw [get?_put]
  split
  · rfl
  · exact known

theorem distinct_remove (distinct : t.Distinct) (uri : String) : (t.remove uri).Distinct := by
  unfold Distinct remove uris
  exact distinct.sublist (List.Sublist.map _ List.filter_sublist)

theorem get?_resetVersions (t : Tracker) (uri : String) :
    t.resetVersions.get? uri = (t.get? uri).map fun document => { document with version := 1 } := by
  change (t.documents.map _).find? _ = _
  rw [List.find?_map]
  rfl

theorem isOpen_resetVersions (known : t.isOpen uri = true) : t.resetVersions.isOpen uri = true := by
  unfold isOpen
  rw [get?_resetVersions, Option.isSome_map]
  exact known

theorem uris_resetVersions (t : Tracker) : t.resetVersions.uris = t.uris := by
  unfold resetVersions uris
  rw [List.map_map]
  rfl

theorem require_eq_ok (known : t.require uri = .ok document) : t.get? uri = some document := by
  unfold require at known
  split at known
  · cases known
    assumption
  · cases known

theorem require_eq_error {failure : Failure} (unknown : t.require uri = .error failure) :
    t.get? uri = none := by
  unfold require at unknown
  split at unknown
  · cases unknown
  · assumption

theorem update_of_get? (found : t.get? uri = some document) (changes : List ContentChange) :
    t.update uri changes = .ok
      (t.put { document with
        content := Document.applyChanges document.content changes
        version := document.version + 1 },
      { document with
        content := Document.applyChanges document.content changes
        version := document.version + 1 }) := by
  unfold update require
  rw [found]
  rfl

theorem update_eq_ok {changes : List ContentChange}
    (updated : t.update uri changes = .ok (after, document)) :
    ∃ old, t.get? uri = some old ∧
      document = { old with
        content := Document.applyChanges old.content changes
        version := old.version + 1 } ∧
      after = t.put document := by
  unfold update require at updated
  cases found : t.get? uri with
  | none =>
      rw [found] at updated
      cases updated
  | some old =>
      rw [found] at updated
      cases updated
      exact ⟨old, rfl, rfl, rfl⟩

theorem isOpen_update {changes : List ContentChange} {other : String}
    (updated : t.update uri changes = .ok (after, document)) (known : t.isOpen other = true) :
    after.isOpen other = true := by
  obtain ⟨old, _, _, rfl⟩ := update_eq_ok updated
  exact isOpen_put document known

theorem get?_update_other {changes : List ContentChange} {other : String}
    (updated : t.update uri changes = .ok (after, document)) (different : other ≠ uri) :
    after.get? other = t.get? other := by
  obtain ⟨old, found, rfl, rfl⟩ := update_eq_ok updated
  have named := uri_of_get? found
  rw [get?_put]
  apply if_neg
  intro same
  exact different (same.symm.trans named)

theorem distinct_update {changes : List ContentChange} (distinct : t.Distinct)
    (updated : t.update uri changes = .ok (after, document)) : after.Distinct := by
  obtain ⟨old, _, _, rfl⟩ := update_eq_ok updated
  exact distinct_put distinct document

theorem get?_revert_update {changes : List ContentChange} {old : OpenDocument}
    (found : t.get? uri = some old) (updated : t.update uri changes = .ok (after, document))
    (other : String) : (after.revert uri old.content old.version).get? other = t.get? other := by
  obtain ⟨same, was, rfl, rfl⟩ := update_eq_ok updated
  rw [found] at was
  cases was
  have named := uri_of_get? found
  unfold revert
  rw [get?_put, if_pos named]
  dsimp only
  rw [if_pos rfl, get?_put, get?_put]
  dsimp only
  split
  · next here =>
    rw [← here.symm.trans named] at found
    exact found.symm
  · rfl

theorem get?_revert_other {content : String} {version : Int} {other : String}
    (different : other ≠ uri) : (t.revert uri content version).get? other = t.get? other := by
  unfold revert
  split
  · rfl
  · next document found =>
    have named := uri_of_get? found
    split
    · rw [get?_put]
      apply if_neg
      intro same
      exact different (same.symm.trans named)
    · rfl

theorem isOpen_revert {content : String} {version : Int} {other : String}
    (known : t.isOpen other = true) : (t.revert uri content version).isOpen other = true := by
  unfold revert
  split
  · exact known
  · split
    · exact isOpen_put _ known
    · exact known

theorem distinct_revert (distinct : t.Distinct) (content : String) (version : Int) :
    (t.revert uri content version).Distinct := by
  unfold revert
  split
  · exact distinct
  · split
    · exact distinct_put distinct _
    · exact distinct

end Scalpel.Tracker
