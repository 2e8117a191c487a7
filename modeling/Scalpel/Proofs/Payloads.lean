import Scalpel.Proofs.Gathering
import Scalpel.Proofs.Layers

/-!
Workspace edits as they are sent. A payload names documents in a table of changes and in a list of
versioned documents, in which there may also be operations on files. What it says is told here part by
part, without a table in the making. Reading it gathers the parts by document, those of the table of
changes first; and what was read is read back from what it is written as.
-/

set_option autoImplicit false

namespace Scalpel

/-- Where the items alone say whether a step fails and what it adds, a run over them adds what each of
them says. -/
theorem foldlM_eq_ok_iff {ε α β γ : Type} {step : γ → α → Except ε γ} {tells : α → β → Prop}
    {change : γ → β → γ}
    (one : ∀ state item next,
      step state item = .ok next ↔ ∃ value, tells item value ∧ next = change state value)
    {items : List α} {state last : γ} :
    items.foldlM step state = .ok last ↔
      ∃ values, List.Forall₂ tells items values ∧ last = values.foldl change state := by
  induction items generalizing state with
  | nil =>
      constructor
      · intro done
        exact ⟨[], .nil, (Except.ok.inj done).symm⟩
      · rintro ⟨values, none, rfl⟩
        cases none
        rfl
  | cons item rest ih =>
      rw [List.foldlM_cons]
      constructor
      · intro done
        obtain ⟨next, first, others⟩ := exists_of_bind_ok done
        obtain ⟨value, said, rfl⟩ := (one state item next).mp first
        obtain ⟨values, all, rfl⟩ := ih.mp others
        exact ⟨value :: values, .cons said all, rfl⟩
      · rintro ⟨values, all, rfl⟩
        cases all with
        | cons said others =>
            rw [(one state item _).mpr ⟨_, said, rfl⟩]
            exact ih.mpr ⟨_, others, rfl⟩

namespace WorkspaceEdit

/-! ### What a payload says -/

def Lists (value : Json) (edits : List (TextEdit Json)) : Prop :=
  ∃ items, value.listed = .ok items ∧
    List.Forall₂ (fun item edit => TextEdit.ofJson item = .ok edit) items edits

def TellsPlainly (entry : String × Json) (part : Part) : Prop :=
  part.1 = .uri entry.1 ∧ Lists entry.2 part.2

/-- What an entry of the list of documents says: the edits of a document; and an operation on files,
which mentions no document, says nothing. -/
inductive TellsVersioned : Json → List Part → Prop where
  | operation {entry : Json} (unmentioned : entry.mentions "textDocument" = .ok false) :
      TellsVersioned entry []
  | document {fields document : Json.Fields} {given : Json} {name : DocumentName}
      {edits : List (TextEdit Json)} (found : fields.lookup "textDocument" = some (.obj document))
      (uri : document.lookup "uri" = some given) (named : DocumentName.ofJson given = .ok name)
      (listed : Lists ((fields.lookup "edits").getD (.arr [])) edits) :
      TellsVersioned (.obj fields) [(name, edits)]

/-- A field of a payload; another value stands for one that is missing, null or empty. -/
def field (fields : Json.Fields) (name : String) (other : Json) : Json :=
  ((fields.lookup name).getD .null).orElse other

/-- What a payload says: the parts of its table of changes, and those of its list of documents. -/
inductive Tells : Json → List Part → List Part → Prop where
  | nothing {value : Json} (absent : value.isTruthy = false) : Tells value [] []
  | parts {fields entries : Json.Fields} {items : List Json} {plain : List Part}
      {versioned : List (List Part)} (changes : field fields "changes" (.obj []) = .obj entries)
      (documents : (field fields "documentChanges" (.arr [])).listed = .ok items)
      (plainly : List.Forall₂ TellsPlainly entries plain)
      (each : List.Forall₂ TellsVersioned items versioned) :
      Tells (.obj fields) plain versioned.flatten

/-! ### Reading the parts -/

theorem editsOfJson_eq_ok_iff {value : Json} {edits : List (TextEdit Json)} :
    editsOfJson value = .ok edits ↔ Lists value edits := by
  constructor
  · intro read
    obtain ⟨items, listed, all⟩ := exists_of_bind_ok read
    exact ⟨items, listed, mapM_eq_ok_iff.mp all⟩
  · rintro ⟨items, listed, all⟩
    unfold editsOfJson
    rw [listed]
    exact mapM_eq_ok_iff.mpr all

def addPlain (changes : List Part) (entry : String × Json) : Outcome (List Part) := do
  return extend changes (.uri entry.1) (← editsOfJson entry.2)

theorem addPlain_eq_ok_iff (changes : List Part) (entry : String × Json) (next : List Part) :
    addPlain changes entry = .ok next ↔
      ∃ part, TellsPlainly entry part ∧ next = add changes part := by
  constructor
  · intro done
    obtain ⟨edits, read, same⟩ := exists_of_bind_ok done
    cases same
    exact ⟨(.uri entry.1, edits), ⟨rfl, editsOfJson_eq_ok_iff.mp read⟩, rfl⟩
  · rintro ⟨⟨name, edits⟩, ⟨named, listed⟩, rfl⟩
    cases named
    unfold addPlain
    rw [editsOfJson_eq_ok_iff.mpr listed]
    rfl

theorem mentions_of_lookup {fields : Json.Fields} {name : String} {found : Json}
    (looked : fields.lookup name = some found) : (Json.obj fields).mentions name = .ok true := by
  obtain ⟨front, back, rfl, -⟩ := List.lookup_eq_some_iff.mp looked
  simp [Json.mentions]

theorem addDocument_eq_ok_iff (changes : List Part) (entry : Json) (next : List Part) :
    addDocument changes entry = .ok next ↔
      ∃ parts, TellsVersioned entry parts ∧ next = parts.foldl add changes := by
  constructor
  · intro done
    unfold addDocument at done
    obtain ⟨mentioned, sought, done⟩ := exists_of_bind_ok done
    cases mentioned with
    | false =>
        cases done
        exact ⟨[], .operation sought, rfl⟩
    | true =>
        obtain ⟨document, needed, done⟩ := exists_of_bind_ok done
        obtain ⟨given, uri, done⟩ := exists_of_bind_ok done
        obtain ⟨name, named, done⟩ := exists_of_bind_ok done
        obtain ⟨listing, optional, done⟩ := exists_of_bind_ok done
        obtain ⟨edits, read, done⟩ := exists_of_bind_ok done
        obtain rfl := Except.ok.inj done
        obtain ⟨fields, rfl, found⟩ := Json.need_eq_ok_iff.mp needed
        obtain ⟨inner, rfl, looked⟩ := Json.need_eq_ok_iff.mp uri
        obtain rfl := Except.ok.inj optional
        exact ⟨_, .document found looked named (editsOfJson_eq_ok_iff.mp read), rfl⟩
  · rintro ⟨parts, said, rfl⟩
    unfold addDocument
    cases said with
    | operation unmentioned =>
        rw [unmentioned]
        rfl
    | document found uri named listed =>
        rw [mentions_of_lookup found, Json.need_of_lookup found]
        dsimp only [bind, Except.bind]
        rw [Json.need_of_lookup uri]
        dsimp only
        rw [named]
        dsimp only [Json.optional]
        rw [editsOfJson_eq_ok_iff.mpr listed]
        rfl

/-! ### Reading a payload -/

theorem ofJson_of_absent {value : Json} (absent : value.isTruthy = false) : ofJson value = .ok {} := by
  unfold ofJson
  rw [absent]
  rfl

theorem not_ofJson_of_other {value : Json} (present : value.isTruthy = true)
    (other : ∀ fields, value ≠ .obj fields) (edit : WorkspaceEdit) : ofJson value ≠ .ok edit := by
  unfold ofJson
  rw [present]
  cases value with
  | obj fields => exact absurd rfl (other fields)
  | _ => exact nofun

theorem ofJson_obj (fields : Json.Fields) :
    ofJson (.obj fields) = (do
      let entries ← (field fields "changes" (.obj [])).entries
      let changes ← entries.foldlM addPlain []
      let items ← (field fields "documentChanges" (.arr [])).listed
      let changes ← items.foldlM addDocument changes
      return { changes }) := by
  cases fields <;> rfl

theorem entries_eq_ok_iff {value : Json} {entries : Json.Fields} :
    value.entries = .ok entries ↔ value = .obj entries := by
  cases value <;> simp [Json.entries]

theorem tells_of_ofJson_obj {fields : Json.Fields} {edit : WorkspaceEdit}
    (read : ofJson (.obj fields) = .ok edit) :
    ∃ plain versioned, Tells (.obj fields) plain versioned ∧
      edit.changes = gathered (plain ++ versioned) := by
  rw [ofJson_obj] at read
  obtain ⟨entries, changes, read⟩ := exists_of_bind_ok read
  obtain ⟨early, plainly, read⟩ := exists_of_bind_ok read
  obtain ⟨items, documents, read⟩ := exists_of_bind_ok read
  obtain ⟨last, each, read⟩ := exists_of_bind_ok read
  obtain rfl := Except.ok.inj read
  obtain ⟨plain, tables, rfl⟩ := (foldlM_eq_ok_iff addPlain_eq_ok_iff).mp plainly
  obtain ⟨versioned, lists, rfl⟩ := (foldlM_eq_ok_iff addDocument_eq_ok_iff).mp each
  refine ⟨plain, versioned.flatten, .parts (entries_eq_ok_iff.mp changes) documents tables lists, ?_⟩
  rw [← foldl_add_nil, List.foldl_append, List.foldl_flatten]

theorem ofJson_of_tells {value : Json} {plain versioned : List Part}
    (told : Tells value plain versioned) :
    ofJson value = .ok { changes := gathered (plain ++ versioned) } := by
  cases told with
  | nothing absent =>
      rw [ofJson_of_absent absent, List.append_nil, gathered]
  | @parts fields entries items plain versioned changes documents plainly each =>
      have early : entries.foldlM addPlain [] = .ok (plain.foldl add []) :=
        (foldlM_eq_ok_iff addPlain_eq_ok_iff).mpr ⟨plain, plainly, rfl⟩
      have late : items.foldlM addDocument (plain.foldl add []) =
          .ok (gathered (plain ++ versioned.flatten)) := by
        rw [← foldl_add_nil, List.foldl_append, List.foldl_flatten]
        exact (foldlM_eq_ok_iff addDocument_eq_ok_iff).mpr ⟨versioned, each, rfl⟩
      rw [ofJson_obj, entries_eq_ok_iff.mpr changes]
      dsimp only [bind, Except.bind]
      rw [early, documents]
      dsimp only
      rw [late]
      rfl

/-- A payload is read exactly if it tells something, and then to the parts that it tells, gathered. -/
theorem ofJson_eq_ok_iff {value : Json} {edit : WorkspaceEdit} :
    ofJson value = .ok edit ↔
      ∃ plain versioned, Tells value plain versioned ∧
        edit.changes = gathered (plain ++ versioned) := by
  constructor
  · intro read
    by_cases object : ∃ fields, value = .obj fields
    · obtain ⟨fields, rfl⟩ := object
      exact tells_of_ofJson_obj read
    · cases present : value.isTruthy with
      | false =>
          rw [ofJson_of_absent present] at read
          obtain rfl := Except.ok.inj read
          refine ⟨[], [], .nothing present, ?_⟩
          rw [List.append_nil, gathered]
      | true =>
          exact absurd read
            (not_ofJson_of_other present (fun fields same => object ⟨fields, same⟩) edit)
  · rintro ⟨plain, versioned, told, same⟩
    rw [ofJson_of_tells told, ← same]

/-! ### What becomes of the parts -/

/-- An edit holds the parts of a payload: the documents in the order in which they are named first, those
of the table of changes before those of the list of documents; each uri with all edits that the table
has for it, and behind them all that the list has; and altogether the edits of all parts and no others.
It is read back from what it is written as. -/
structure HoldsParts (plain versioned : List Part) (edit : WorkspaceEdit) : Prop where
  changes : edit.changes = gathered (plain ++ versioned)
  names : edit.names = ((plain ++ versioned).map (·.1)).eraseDupsBy fun later name => name.same later
  edits : ∀ change ∈ edit.changes, ∀ uri, change.1 = .uri uri →
    change.2 = editsOf uri plain ++ editsOf uri versioned
  conserved : (edit.changes.flatMap (·.2)).Perm ((plain ++ versioned).flatMap (·.2))
  again : ofTable edit.table = .ok edit

theorem holdsParts_iff {plain versioned : List Part} {edit : WorkspaceEdit} :
    HoldsParts plain versioned edit ↔ edit.changes = gathered (plain ++ versioned) := by
  constructor
  · exact HoldsParts.changes
  · intro changes
    refine ⟨changes, ?_, ?_, ?_, ?_⟩
    · rw [names, changes]
      exact names_gathered _
    · intro change member uri named
      rw [changes] at member
      rw [edits_gathered member named, editsOf_append]
    · rw [changes]
      exact gathered_perm _
    · apply ofTable_table
      rw [changes]
      exact separate_gathered _

theorem distinct_of_separate {edit : WorkspaceEdit} (separate : Separate edit.changes)
    (uris : ∀ name ∈ edit.names, ∃ uri, name = .uri uri) : edit.Distinct := by
  refine ⟨uris, List.pairwise_map.mpr (separate.imp_of_mem ?_)⟩
  intro change later _ member unlike same
  obtain ⟨uri, named⟩ := uris later.1 (List.mem_map_of_mem member)
  rw [same, named, DocumentName.same_uri_iff.mpr rfl] at unlike
  contradiction

variable [Halves]

/-- An edit is read back from what it is written as, with its documents and their edits in order. A
payload is read exactly if it tells parts, and then to an edit that holds these; and if that edit names
its documents by uris, it is sent and read again without a change. -/
theorem payload_gathered :
    (∀ edit : WorkspaceEdit, Separate edit.changes → ofTable edit.table = .ok edit) ∧
    (∀ edit : WorkspaceEdit, edit.Distinct → ofJson edit.toJson = .ok edit) ∧
    ∀ (value : Json) (edit : WorkspaceEdit),
      (ofJson value = .ok edit ↔
        ∃ plain versioned, Tells value plain versioned ∧ HoldsParts plain versioned edit) ∧
      (ofJson value = .ok edit → (∀ name ∈ edit.names, ∃ uri, name = .uri uri) →
        ofJson edit.toJson = .ok edit) := by
  refine ⟨fun edit => ofTable_table, fun edit => ofJson_toJson, ?_⟩
  intro value edit
  constructor
  · simp only [holdsParts_iff]
    exact ofJson_eq_ok_iff
  · intro read uris
    obtain ⟨plain, versioned, -, changes⟩ := ofJson_eq_ok_iff.mp read
    have separate : Separate edit.changes := by
      rw [changes]
      exact separate_gathered _
    exact ofJson_toJson (distinct_of_separate separate uris)

end WorkspaceEdit

end Scalpel

/-! ### A payload that uses both ways -/

namespace Scalpel.WorkspaceEdit

local instance payloadHalves : Halves :=
  Halves.trial

def lineEdit (line : Int) (text : String) : TextEdit Json :=
  { range := .point line, newText := .str text }

def documentEntry (uri : String) (edits : List (TextEdit Json)) : Json :=
  .obj [("textDocument", .obj [("uri", .str uri)]), ("edits", .arr (edits.map TextEdit.toJson))]

/-- A payload that names one document in both ways, another one twice in the list, and a third one
without an edit; between them a file is renamed. -/
def mixedPayload : Json :=
  .obj [
    ("changes", .obj [("a", .arr [(lineEdit 0 "p").toJson]), ("b", .arr [])]),
    ("documentChanges", .arr [
      documentEntry "c" [lineEdit 1 "q"],
      .obj [("kind", .str "rename"), ("oldUri", .str "d"), ("newUri", .str "e")],
      documentEntry "a" [lineEdit 2 "r", lineEdit 0 "s"],
      documentEntry "c" [lineEdit 0 "t"]])]

def mixedEdit : WorkspaceEdit :=
  { changes := [
      (.uri "a", [lineEdit 0 "p", lineEdit 2 "r", lineEdit 0 "s"]),
      (.uri "b", []),
      (.uri "c", [lineEdit 1 "q", lineEdit 0 "t"])] }

theorem payload_gathered_of_mixed :
    ofJson mixedPayload = .ok mixedEdit ∧
      (∃ plain versioned, Tells mixedPayload plain versioned ∧ HoldsParts plain versioned mixedEdit) ∧
      mixedEdit.Distinct ∧ Separate mixedEdit.changes ∧
      ofTable mixedEdit.table = .ok mixedEdit ∧ ofJson mixedEdit.toJson = .ok mixedEdit := by
  have read : ofJson mixedPayload = .ok mixedEdit := rfl
  have distinct : mixedEdit.Distinct := by
    constructor
    · simp [mixedEdit, names]
    · simp [mixedEdit, names]
  obtain ⟨tables, -, payloads⟩ := payload_gathered
  refine ⟨read, (payloads mixedPayload mixedEdit).1.mp read, distinct, distinct.separate,
    tables mixedEdit distinct.separate, ?_⟩
  exact (payloads mixedPayload mixedEdit).2 read distinct.uris

end Scalpel.WorkspaceEdit
