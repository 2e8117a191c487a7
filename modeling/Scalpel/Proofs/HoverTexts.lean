import Mathlib.Data.List.Basic
import Scalpel.Report

/-!
The text of a hover. Contents are texts, objects with a text, nulls, and lists of contents. Their text
is made of the texts at the leaves that are not empty, from left to right and joined by blank lines,
however the lists are nested, as long as they do not nest more deeply than a reader can follow them.
-/

set_option autoImplicit false

namespace Scalpel.Hover

/-! ### Contents -/

inductive Contents : Json → Prop where
  | null : Contents .null
  | text (text : String) : Contents (.str text)
  | unvalued {fields : Json.Fields} (absent : (fields.lookup "value").getD .null = .null) :
      Contents (.obj fields)
  | valued {fields : Json.Fields} {text : String} (found : fields.lookup "value" = some (.str text)) :
      Contents (.obj fields)
  | list {items : List Json} (all : ∀ item ∈ items, Contents item) : Contents (.arr items)

mutual

def leaves : Json → List String
  | .str text => [text]
  | .obj fields =>
    match fields.lookup "value" with
    | some (.str text) => [text]
    | _ => []
  | .arr items => leavesOf items
  | _ => []

def leavesOf : List Json → List String
  | [] => []
  | item :: rest => leaves item ++ leavesOf rest

end

mutual

def depth : Json → Nat
  | .arr items => depthOf items + 1
  | _ => 0

def depthOf : List Json → Nat
  | [] => 0
  | item :: rest => max (depth item) (depthOf rest)

end

def shown (texts : List String) : List String :=
  texts.filter fun text => !text.isEmpty

/-- What texts come to: those that are not empty, joined by blank lines, or null if there are none. -/
def told (texts : List String) : Json :=
  if shown texts = [] then .null else .str ("\n\n".intercalate (shown texts))

theorem leavesOf_eq_flatten (items : List Json) : leavesOf items = (items.map leaves).flatten := by
  induction items with
  | nil => rfl
  | cons item rest ih => rw [leavesOf, ih, List.map_cons, List.flatten_cons]

theorem depthOf_le_iff {items : List Json} {levels : Nat} :
    depthOf items ≤ levels ↔ ∀ item ∈ items, depth item ≤ levels := by
  induction items with
  | nil => simp [depthOf]
  | cons item rest ih => rw [depthOf, Nat.max_le, ih, List.forall_mem_cons]

/-! ### Joining -/

theorem intercalate_flatten (separator : String) {groups : List (List String)}
    (filled : ∀ group ∈ groups, group ≠ []) :
    separator.intercalate (groups.map separator.intercalate) =
      separator.intercalate groups.flatten := by
  induction groups with
  | nil => rfl
  | cons group rest ih =>
      have first : group ≠ [] := filled group List.mem_cons_self
      have others := ih fun other member => filled other (List.mem_cons_of_mem _ member)
      cases rest with
      | nil => simp
      | cons next rest =>
          have more : (next :: rest).flatten ≠ [] := by
            have := filled next (List.mem_cons_of_mem _ List.mem_cons_self)
            simp [this]
          rw [List.map_cons, String.intercalate_cons_of_ne_nil (by simp), others,
            ← String.intercalate_append_of_ne_nil first more, ← List.flatten_cons]

theorem intercalate_ne_empty (separator : String) {texts : List String} (filled : texts ≠ [])
    (each : ∀ text ∈ texts, text ≠ "") : separator.intercalate texts ≠ "" := by
  cases texts with
  | nil => exact absurd rfl filled
  | cons text rest =>
      have first : text ≠ "" := each text List.mem_cons_self
      cases rest with
      | nil => simpa using first
      | cons next rest =>
          rw [String.intercalate_cons_cons]
          simp [first]

theorem ne_empty_of_shown {texts : List String} {text : String} (member : text ∈ shown texts) :
    text ≠ "" := by
  have kept := (List.mem_filter.mp member).2
  simpa using kept

theorem told_of_none {texts : List String} (none : shown texts = []) : told texts = .null :=
  if_pos none

theorem told_of_some {texts : List String} (some : shown texts ≠ []) :
    told texts = .str ("\n\n".intercalate (shown texts)) :=
  if_neg some

theorem told_singleton (text : String) : told [text] = if text.isEmpty then .null else .str text := by
  cases empty : text.isEmpty <;> simp [told, shown, empty]

theorem isTruthy_told (texts : List String) : (told texts).isTruthy = !(shown texts).isEmpty := by
  by_cases none : shown texts = []
  · rw [told_of_none none, none]
    rfl
  · have filled := intercalate_ne_empty "\n\n" none fun text => ne_empty_of_shown
    rw [told_of_some none, Json.isTruthy, List.isEmpty_eq_false_iff.mpr none]
    simpa using filled

theorem filter_told (groups : List (List String)) :
    (groups.map told).filter Json.isTruthy =
      (((groups.map shown).filter fun texts => !texts.isEmpty).map "\n\n".intercalate).map .str := by
  induction groups with
  | nil => rfl
  | cons group rest ih =>
      rw [List.map_cons, List.map_cons, List.filter_cons, List.filter_cons, isTruthy_told, ih]
      by_cases none : shown group = []
      · simp [none]
      · simp [none, told_of_some none]

theorem mapM_texts {check : Json × Nat → Outcome String}
    (accepts : ∀ text index, check (.str text, index) = .ok text) (texts : List String) (start : Nat) :
    ((texts.map Json.str).zipIdx start).mapM check = .ok texts := by
  induction texts generalizing start with
  | nil => rfl
  | cons text rest ih =>
      rw [List.map_cons, List.zipIdx_cons, List.mapM_cons, accepts, ih]
      rfl

theorem joined_eq {parts : List Json} {texts : List String}
    (present : parts.filter Json.isTruthy = texts.map .str) :
    joined parts = .ok (if texts.isEmpty then .null else .str ("\n\n".intercalate texts)) := by
  unfold joined
  rw [present, mapM_texts fun _ _ => rfl]
  rfl

theorem joined_told (groups : List (List String)) :
    joined (groups.map told) = .ok (told groups.flatten) := by
  have all : shown groups.flatten =
      ((groups.map shown).filter fun texts => !texts.isEmpty).flatten := by
    rw [List.flatten_filter_not_isEmpty]
    exact List.filter_flatten
  have filled : ∀ texts ∈ (groups.map shown).filter fun texts => !texts.isEmpty, texts ≠ [] := by
    intro texts member
    simpa using (List.mem_filter.mp member).2
  rw [joined_eq (filter_told groups), intercalate_flatten _ filled, told, all]
  congr 1
  generalize (groups.map shown).filter (fun texts => !texts.isEmpty) = kept at filled
  cases kept with
  | nil => rfl
  | cons texts rest =>
      have first := filled texts List.mem_cons_self
      simp [first]

/-! ### Contents that are read -/

theorem ofParts_eq {levels : Nat} {items : List Json}
    (each : ∀ item ∈ items, ofContents levels item =
      if depth item ≤ levels then .ok (told (leaves item)) else .error .tooDeep) :
    ofParts levels items =
      if depthOf items ≤ levels then .ok ((items.map leaves).map told) else .error .tooDeep := by
  induction items with
  | nil => rfl
  | cons item rest ih =>
      have others := ih fun other member => each other (List.mem_cons_of_mem _ member)
      rw [ofParts, each item List.mem_cons_self, others, depthOf]
      by_cases first : depth item ≤ levels
      · by_cases more : depthOf rest ≤ levels
        · rw [if_pos first, if_pos more, if_pos (Nat.max_le.mpr ⟨first, more⟩)]
          rfl
        · rw [if_pos first, if_neg more, if_neg fun deep => more (Nat.max_le.mp deep).2]
          rfl
      · rw [if_neg first, if_neg fun deep => first (Nat.max_le.mp deep).1]
        rfl

theorem ofContents_of_flat (levels : Nat) {contents : Json} (given : Contents contents)
    (flat : ∀ items, contents ≠ .arr items) :
    depth contents = 0 ∧ ofContents levels contents = .ok (told (leaves contents)) := by
  cases given with
  | null => exact ⟨rfl, by cases levels <;> rfl⟩
  | text text =>
      refine ⟨rfl, ?_⟩
      rw [ofContents, leaves, told_singleton]
  | unvalued absent =>
      refine ⟨rfl, ?_⟩
      rw [ofContents, absent, leaves]
      split
      · next found => simp [found] at absent
      · rfl
  | @valued fields text found =>
      have held : leaves (.obj fields) = [text] := by
        rw [leaves, found]
      refine ⟨rfl, ?_⟩
      rw [ofContents, found, held, told_singleton]
      cases empty : text.isEmpty <;> simp [Json.orElse, Json.isTruthy, empty]
  | list all => exact absurd rfl (flat _)

theorem ofContents_eq (levels : Nat) {contents : Json} (given : Contents contents) :
    ofContents levels contents =
      if depth contents ≤ levels then .ok (told (leaves contents)) else .error .tooDeep := by
  induction levels generalizing contents with
  | zero =>
      by_cases listed : ∃ items, contents = .arr items
      · obtain ⟨items, rfl⟩ := listed
        rw [if_neg (by simp [depth])]
        rfl
      · obtain ⟨none, read⟩ := ofContents_of_flat 0 given fun items same => listed ⟨items, same⟩
        rw [read, none, if_pos (Nat.le_refl 0)]
  | succ levels ih =>
      by_cases listed : ∃ items, contents = .arr items
      · obtain ⟨items, rfl⟩ := listed
        cases given with
        | list all =>
            rw [ofContents, ofParts_eq fun item member => ih (all item member), leaves, depth,
              leavesOf_eq_flatten]
            by_cases shallow : depthOf items ≤ levels
            · rw [if_pos shallow, if_pos (Nat.succ_le_succ shallow)]
              exact joined_told _
            · rw [if_neg shallow, if_neg fun deep => shallow (Nat.le_of_succ_le_succ deep)]
              rfl
      · obtain ⟨none, read⟩ := ofContents_of_flat (levels + 1) given fun items same => listed ⟨items, same⟩
        rw [read, none, if_pos (Nat.zero_le _)]

/-! ### Hovers -/

/-- The contents of an answer: those of an object, or the answer itself. -/
def contentsOf : Json → Json
  | .obj fields => (fields.lookup "contents").getD .null
  | answer => answer

theorem text_eq {answer : Json} (given : Contents (contentsOf answer)) :
    text answer =
      if depth (contentsOf answer) ≤ levelLimit then .ok (told (leaves (contentsOf answer)))
      else .error .tooDeep := by
  rw [← ofContents_eq levelLimit given]
  unfold text
  cases answer with
  | obj fields => cases fields <;> rfl
  | str text =>
      simp only [contentsOf, ofContents]
      cases empty : text.isEmpty <;> simp [Json.isTruthy, empty]
  | arr items => cases items <;> rfl
  | null => rfl
  | _ => cases given

/-! ### Nesting -/

/-- One list, at any place in contents, whose items take its place. -/
inductive Unwrapped : Json → Json → Prop where
  | alone (item : Json) : Unwrapped (.arr [item]) item
  | among (front inner back : List Json) :
      Unwrapped (.arr (front ++ .arr inner :: back)) (.arr (front ++ inner ++ back))
  | within (front back : List Json) {item other : Json} (inside : Unwrapped item other) :
      Unwrapped (.arr (front ++ item :: back)) (.arr (front ++ other :: back))

theorem contents_arr_iff {items : List Json} :
    Contents (.arr items) ↔ ∀ item ∈ items, Contents item := by
  constructor
  · intro given
    cases given with
    | list all => exact all
  · exact .list

theorem Contents.unwrapped {before after : Json} (given : Contents before)
    (unwrapped : Unwrapped before after) : Contents after := by
  induction unwrapped with
  | alone item => exact contents_arr_iff.mp given item List.mem_cons_self
  | among front inner back =>
      simp only [contents_arr_iff, List.forall_mem_append, List.forall_mem_cons] at given ⊢
      exact ⟨⟨given.1, given.2.1⟩, given.2.2⟩
  | within front back inside ih =>
      simp only [contents_arr_iff, List.forall_mem_append, List.forall_mem_cons] at given ⊢
      exact ⟨given.1, ih given.2.1, given.2.2⟩

theorem leaves_of_unwrapped {before after : Json} (unwrapped : Unwrapped before after) :
    leaves after = leaves before := by
  induction unwrapped with
  | alone item => simp [leaves, leavesOf]
  | among front inner back => simp [leaves, leavesOf_eq_flatten]
  | within front back inside ih => simp [leaves, leavesOf_eq_flatten, ih]

theorem depth_arr_le_iff {items : List Json} {levels : Nat} :
    depth (.arr items) ≤ levels + 1 ↔ ∀ item ∈ items, depth item ≤ levels := by
  rw [depth, Nat.succ_le_succ_iff, depthOf_le_iff]

theorem depth_of_unwrapped {before after : Json} (unwrapped : Unwrapped before after) {levels : Nat}
    (shallow : depth before ≤ levels) : depth after ≤ levels := by
  induction unwrapped generalizing levels with
  | alone item =>
      cases levels with
      | zero => simp [depth] at shallow
      | succ levels =>
          exact Nat.le_succ_of_le (depth_arr_le_iff.mp shallow item List.mem_cons_self)
  | among front inner back =>
      cases levels with
      | zero => simp [depth] at shallow
      | succ levels =>
          simp only [depth_arr_le_iff, List.forall_mem_append, List.forall_mem_cons] at shallow ⊢
          have inside := depth_arr_le_iff.mp (Nat.le_succ_of_le shallow.2.1)
          exact ⟨⟨shallow.1, inside⟩, shallow.2.2⟩
  | within front back inside ih =>
      cases levels with
      | zero => simp [depth] at shallow
      | succ levels =>
          simp only [depth_arr_le_iff, List.forall_mem_append, List.forall_mem_cons] at shallow ⊢
          exact ⟨shallow.1, ih shallow.2.1, shallow.2.2⟩

/-- The text of a hover whose lists can be followed is made of the texts at its leaves that are not
empty, from left to right and joined by blank lines, and null if there are none; it is the same where
the items of a list take the place of that list. A hover whose lists nest more deeply has no text. -/
theorem text_joins_leaves {answer : Json} (given : Contents (contentsOf answer)) :
    (depth (contentsOf answer) ≤ levelLimit →
      text answer = .ok (told (leaves (contentsOf answer))) ∧
      ∀ other, Unwrapped (contentsOf answer) (contentsOf other) → text other = text answer) ∧
    (levelLimit < depth (contentsOf answer) → text answer = .error .tooDeep) := by
  constructor
  · intro shallow
    have read : text answer = .ok (told (leaves (contentsOf answer))) := by
      rw [text_eq given, if_pos shallow]
    refine ⟨read, ?_⟩
    intro other unwrapped
    have same : Contents (contentsOf other) := given.unwrapped unwrapped
    rw [read, text_eq same, if_pos (depth_of_unwrapped unwrapped shallow),
      leaves_of_unwrapped unwrapped]
  · intro deep
    rw [text_eq given, if_neg (Nat.not_le.mpr deep)]

/-! ### A hover of several parts, and one that nests too deeply -/

def severalParts : Json :=
  .arr [.str "", .arr [.obj [("language", .str "py"), ("value", .str "int")], .null, .arr [.str "doc"]],
    .obj [("kind", .str "markdown")]]

def fewerLists : Json :=
  .arr [.str "", .obj [("language", .str "py"), ("value", .str "int")], .null, .arr [.str "doc"],
    .obj [("kind", .str "markdown")]]

theorem text_joins_leaves_of_several :
    Contents severalParts ∧ depth severalParts ≤ levelLimit ∧ Unwrapped severalParts fewerLists ∧
      text (.obj [("contents", severalParts)]) = .ok (.str "int\n\ndoc") ∧
      text (.obj [("contents", fewerLists)]) = .ok (.str "int\n\ndoc") := by
  have given : Contents severalParts := by
    simp only [severalParts, contents_arr_iff, List.forall_mem_cons]
    exact ⟨.text "", ⟨.valued rfl, .null, ⟨.text "doc", nofun⟩, nofun⟩, .unvalued rfl, nofun⟩
  have shallow : depth severalParts ≤ levelLimit := by decide
  have unwrapped : Unwrapped severalParts fewerLists := .among [.str ""] _ _
  have hover : Contents (contentsOf (.obj [("contents", severalParts)])) := given
  obtain ⟨read, same⟩ := (text_joins_leaves hover).1 shallow
  have several : text (.obj [("contents", severalParts)]) = .ok (.str "int\n\ndoc") := read
  refine ⟨given, shallow, unwrapped, several, ?_⟩
  rw [same (.obj [("contents", fewerLists)]) unwrapped, several]

def nested : Nat → Json
  | 0 => .str "x"
  | n + 1 => .arr [nested n]

theorem contents_nested (n : Nat) : Contents (nested n) := by
  induction n with
  | zero => exact .text "x"
  | succ n ih => exact .list fun item member => List.mem_singleton.mp member ▸ ih

theorem depth_nested (n : Nat) : depth (nested n) = n := by
  induction n with
  | zero => rfl
  | succ n ih => simp [nested, depth, depthOf, ih]

theorem leaves_nested (n : Nat) : leaves (nested n) = ["x"] := by
  induction n with
  | zero => rfl
  | succ n ih => simp [nested, leaves, leavesOf, ih]

/-- A text that is not empty is not told where too many lists are around it. -/
theorem nested_text_untold :
    Contents (nested 900) ∧ told (leaves (nested 900)) = .str "x" ∧
      text (.obj [("contents", nested 900)]) = .error .tooDeep := by
  have deep : ¬depth (nested 900) ≤ levelLimit := by
    rw [depth_nested]
    decide
  refine ⟨contents_nested 900, ?_, ?_⟩
  · rw [leaves_nested]
    rfl
  · have given : Contents (contentsOf (.obj [("contents", nested 900)])) := contents_nested 900
    rw [text_eq given]
    exact if_neg deep

end Scalpel.Hover
