import Mathlib.Data.List.Basic
import Scalpel.Document.Edit

/-!
Edits of several documents, gathered by document. Each document stands where it was named first, with
the edits of everything that names it, in order; no edit is lost, and none is there twice. Reading a
table of edits gathers what its entries say, so a table in which no document is named twice is read
back as it was written.
-/

set_option autoImplicit false

namespace Scalpel

theorem TextEdit.ofJson_toJson (e : TextEdit Json) : TextEdit.ofJson e.toJson = .ok e := rfl

theorem DocumentName.same_uri_iff {name : DocumentName} {uri : String} :
    name.same (.uri uri) = true ↔ name = .uri uri := by
  cases name with
  | uri text => simp only [DocumentName.same, decide_eq_true_eq, DocumentName.uri.injEq]
  | stray value => cases value <;> simp [DocumentName.same]

theorem DocumentName.uri_same_iff {name : DocumentName} {uri : String} :
    (DocumentName.uri uri).same name = true ↔ name = .uri uri := by
  cases name with
  | uri text => rw [DocumentName.same, decide_eq_true_eq, DocumentName.uri.injEq, eq_comm]
  | stray value => simp [DocumentName.same]

namespace WorkspaceEdit

abbrev Part := DocumentName × List (TextEdit Json)

/-! ### Parts that are gathered -/

def about (name : DocumentName) (parts : List Part) : List Part :=
  parts.filter fun part => name.same part.1

def besides (name : DocumentName) (parts : List Part) : List Part :=
  parts.filter fun part => !name.same part.1

/-- What the parts hold for each document, in the order in which the documents are named first. -/
def gathered : List Part → List Part
  | [] => []
  | (name, edits) :: rest =>
    (name, edits ++ (about name rest).flatMap (·.2)) :: gathered (besides name rest)
termination_by parts => parts.length
decreasing_by exact Nat.lt_succ_of_le (List.length_filter_le _ _)

def editsOf (uri : String) (parts : List Part) : List (TextEdit Json) :=
  (about (.uri uri) parts).flatMap (·.2)

def Separate (parts : List Part) : Prop :=
  parts.Pairwise fun part later => part.1.same later.1 = false

def add (changes : List Part) (part : Part) : List Part :=
  extend changes part.1 part.2

theorem foldl_add_cons (name : DocumentName) (edits : List (TextEdit Json)) (others parts : List Part) :
    parts.foldl add ((name, edits) :: others) =
      (name, edits ++ (about name parts).flatMap (·.2)) :: (besides name parts).foldl add others := by
  induction parts generalizing edits others with
  | nil => simp [about, besides]
  | cons part rest ih =>
      rw [List.foldl_cons, add, extend]
      cases same : name.same part.1 with
      | true =>
          rw [if_pos rfl, ih]
          simp [about, besides, same]
      | false =>
          rw [if_neg Bool.false_ne_true, ih]
          simp [about, besides, same, add]

theorem foldl_add_nil (parts : List Part) : parts.foldl add [] = gathered parts := by
  induction parts using gathered.induct with
  | case1 => rw [List.foldl_nil, gathered]
  | case2 name edits rest ih =>
      rw [List.foldl_cons, gathered, ← ih]
      exact foldl_add_cons name edits [] rest

theorem names_gathered (parts : List Part) :
    (gathered parts).map (·.1) =
      (parts.map (·.1)).eraseDupsBy fun later name => name.same later := by
  induction parts using gathered.induct with
  | case1 =>
      rw [gathered]
      rfl
  | case2 name edits rest ih =>
      rw [gathered, List.map_cons, ih, List.map_cons, List.eraseDupsBy_cons, List.filter_map]
      simp [besides, Function.comp_def]

theorem mem_of_gathered {parts : List Part} {part : Part} (member : part ∈ gathered parts) :
    ∃ other ∈ parts, other.1 = part.1 := by
  induction parts using gathered.induct with
  | case1 =>
      rw [gathered] at member
      cases member
  | case2 name edits rest ih =>
      rw [gathered] at member
      rcases List.mem_cons.mp member with rfl | later
      · exact ⟨_, List.mem_cons_self, rfl⟩
      · obtain ⟨other, among, named⟩ := ih later
        exact ⟨other, List.mem_cons_of_mem _ (List.mem_of_mem_filter among), named⟩

theorem not_same_of_gathered_besides {name : DocumentName} {rest : List Part} {part : Part}
    (member : part ∈ gathered (besides name rest)) : name.same part.1 = false := by
  obtain ⟨other, among, named⟩ := mem_of_gathered member
  have unlike := (List.mem_filter.mp among).2
  rw [named] at unlike
  simpa using unlike

theorem separate_gathered (parts : List Part) : Separate (gathered parts) := by
  induction parts using gathered.induct with
  | case1 =>
      rw [gathered]
      exact .nil
  | case2 name edits rest ih =>
      rw [gathered]
      exact .cons (fun part member => not_same_of_gathered_besides member) ih

theorem gathered_of_separate {parts : List Part} (separate : Separate parts) :
    gathered parts = parts := by
  induction parts with
  | nil => rw [gathered]
  | cons part rest ih =>
      obtain ⟨unlike, others⟩ := List.pairwise_cons.mp separate
      have none : about part.1 rest = [] :=
        List.filter_eq_nil_iff.mpr fun later member => by simp [unlike later member]
      have all : besides part.1 rest = rest :=
        List.filter_eq_self.mpr fun later member => by simp [unlike later member]
      rw [gathered, none, all, ih others]
      simp

/-- A uri that another document does not share is named by parts besides that document only. -/
theorem editsOf_besides {name : DocumentName} {uri : String} (unlike : name.same (.uri uri) = false)
    (parts : List Part) : editsOf uri (besides name parts) = editsOf uri parts := by
  unfold editsOf about besides
  rw [List.filter_filter]
  congr 1
  apply List.filter_congr
  intro part _
  cases found : (DocumentName.uri uri).same part.1 with
  | false => rfl
  | true => simp [DocumentName.uri_same_iff.mp found, unlike]

theorem edits_gathered {parts : List Part} {part : Part} {uri : String}
    (member : part ∈ gathered parts) (named : part.1 = .uri uri) : part.2 = editsOf uri parts := by
  induction parts using gathered.induct with
  | case1 =>
      rw [gathered] at member
      cases member
  | case2 name edits rest ih =>
      rw [gathered] at member
      rcases List.mem_cons.mp member with rfl | later
      · change name = .uri uri at named
        subst named
        have own : (DocumentName.uri uri).same (.uri uri) = true := DocumentName.same_uri_iff.mpr rfl
        simp [editsOf, about, own]
      · have unlike := not_same_of_gathered_besides later
        rw [named] at unlike
        have other : ¬(DocumentName.uri uri).same name = true := by
          rw [DocumentName.uri_same_iff, ← DocumentName.same_uri_iff, unlike]
          exact Bool.false_ne_true
        rw [ih later, editsOf_besides unlike, editsOf, editsOf, about, about, List.filter_cons,
          if_neg other]

theorem gathered_perm (parts : List Part) :
    ((gathered parts).flatMap (·.2)).Perm (parts.flatMap (·.2)) := by
  induction parts using gathered.induct with
  | case1 => rw [gathered]
  | case2 name edits rest ih =>
      rw [gathered, List.flatMap_cons, List.flatMap_cons, List.append_assoc]
      apply List.Perm.append_left
      refine (ih.append_left _).trans ?_
      rw [← List.flatMap_append]
      exact (List.filter_append_perm _ rest).flatMap_right _

theorem editsOf_append (uri : String) (parts more : List Part) :
    editsOf uri (parts ++ more) = editsOf uri parts ++ editsOf uri more := by
  rw [editsOf, about, List.filter_append, List.flatMap_append]
  rfl

/-! ### Edits that are read back -/

/-- The documents of an edit with the edits of each as they are written. -/
def table (edit : WorkspaceEdit) : List (DocumentName × Json) :=
  edit.changes.map fun change => (change.1, .arr (change.2.map TextEdit.toJson))

def ofTable (entries : List (DocumentName × Json)) : Outcome WorkspaceEdit := do
  let changes ← entries.foldlM (fun changes (name, edits) => do
    return extend changes name (← editsOfJson edits)) []
  return { changes }

theorem editsOfJson_map (edits : List (TextEdit Json)) :
    editsOfJson (.arr (edits.map TextEdit.toJson)) = .ok edits := by
  change (edits.map TextEdit.toJson).mapM TextEdit.ofJson = .ok edits
  induction edits with
  | nil => rfl
  | cons edit rest ih =>
      rw [List.map_cons, List.mapM_cons, TextEdit.ofJson_toJson, ih]
      rfl

private theorem readTable_map (done parts : List Part) :
    (parts.map fun change => (change.1, Json.arr (change.2.map TextEdit.toJson))).foldlM
      (fun changes (name, edits) => do
        return extend changes name (← editsOfJson edits)) done =
      (.ok (parts.foldl add done) : Outcome _) := by
  induction parts generalizing done with
  | nil => rfl
  | cons part rest ih =>
      rw [List.map_cons, List.foldlM_cons]
      change ((do
        return extend done part.1 (← editsOfJson (.arr (part.2.map TextEdit.toJson))) :
          Outcome (List Part)) >>= _) = _
      rw [editsOfJson_map]
      exact ih (extend done part.1 part.2)

theorem ofTable_table {edit : WorkspaceEdit} (separate : Separate edit.changes) :
    ofTable edit.table = .ok edit := by
  unfold ofTable table
  rw [readTable_map, foldl_add_nil, gathered_of_separate separate]
  rfl

/-- The documents of an edit are named by different uris. -/
structure Distinct (edit : WorkspaceEdit) : Prop where
  uris : ∀ name ∈ edit.names, ∃ uri, name = .uri uri
  names : edit.names.Nodup

theorem Distinct.separate {edit : WorkspaceEdit} (distinct : edit.Distinct) :
    Separate edit.changes := by
  have different : edit.changes.Pairwise fun change later => change.1 ≠ later.1 :=
    List.pairwise_map.mp distinct.names
  refine different.imp_of_mem ?_
  intro change later _ member unlike
  obtain ⟨uri, named⟩ := distinct.uris later.1 (List.mem_map_of_mem member)
  rw [named] at unlike ⊢
  rw [← Bool.not_eq_true, DocumentName.same_uri_iff]
  exact unlike

theorem ofJson_changes (fields : Json.Fields) :
    ofJson (.obj [("changes", .obj fields)]) =
      ofTable (fields.map fun field => (.uri field.1, field.2)) := by
  have given : (Json.obj fields).orElse (.obj []) = .obj fields := by
    cases fields <;> rfl
  change (do
    let plain ← ((Json.obj fields).orElse (.obj [])).entries
    let changes ← plain.foldlM (fun changes entry => do
      return extend changes (.uri entry.1) (← editsOfJson entry.2)) []
    let changes ← [].foldlM addDocument changes
    return { changes } : Outcome WorkspaceEdit) = _
  rw [given]
  unfold ofTable
  rw [List.foldlM_map]
  rfl

theorem ofJson_toJson [Halves] {edit : WorkspaceEdit} (distinct : edit.Distinct) :
    ofJson edit.toJson = .ok edit := by
  have named : (edit.table.map fun entry => (DocumentName.uri entry.1.written, entry.2)) = edit.table := by
    unfold table
    rw [List.map_map]
    apply List.map_congr_left
    intro change member
    obtain ⟨uri, same⟩ := distinct.uris change.1 (List.mem_map_of_mem member)
    simp [same, DocumentName.written]
  have written : edit.toJson =
      .obj [("changes", .obj (edit.table.map fun entry => (entry.1.written, entry.2)))] := by
    simp [toJson, editsJson, table]
  rw [written, ofJson_changes, List.map_map]
  exact (congrArg ofTable named).trans (ofTable_table distinct.separate)

end WorkspaceEdit

end Scalpel
