import Mathlib.Data.List.Basic
import Mathlib.Data.List.Lex
import Scalpel.Proofs.Clerk
import Scalpel.Proofs.Fallback
import Scalpel.Symbol.NamePath

/-!
Outlines as trees. A server that answers with a tree of symbols gets each of them listed once, before
those within it and before those that come after, with the names from the root to it as its name path.
Names that are not empty and hold no slash are told from their name path, so that a pattern of such
names finds the first symbol whose names it asks for.
-/

set_option autoImplicit false

/-! ### Names and name paths -/

namespace Scalpel.NamePath

structure Plain (name : String) : Prop where
  given : name ≠ ""
  single : '/' ∉ name.toList

instance : DecidablePred Plain := fun name =>
  decidable_of_iff (name ≠ "" ∧ '/' ∉ name.toList)
    ⟨fun both => ⟨both.1, both.2⟩, fun plain => ⟨plain.given, plain.single⟩⟩

variable {names : List String} {name : String}

theorem intercalate_concat (given : names ≠ []) (name : String) :
    "/".intercalate (names ++ [name]) = "/".intercalate names ++ "/" ++ name := by
  rw [String.intercalate_append_of_ne_nil given (List.cons_ne_nil _ _),
    String.intercalate_singleton]

theorem intercalate_ne_empty (plain : ∀ name ∈ names, Plain name) (given : names ≠ []) :
    "/".intercalate names ≠ "" := by
  rcases List.eq_nil_or_concat' names with none | ⟨before, last, rfl⟩
  · exact absurd none given
  have fits : last ≠ "" := (plain last (List.mem_append_right _ List.mem_cons_self)).given
  by_cases alone : before = []
  · rw [alone, List.nil_append, String.intercalate_singleton]
    exact fits
  · rw [intercalate_concat alone]
    intro empty
    exact fits (String.append_eq_empty_iff.mp empty).2

theorem parts_intercalate (plain : ∀ name ∈ names, Plain name) (given : names ≠ []) :
    parts ("/".intercalate names) = names := by
  have single : ∀ text ∈ names.map String.toList, '/' ∉ text := by
    intro text member
    obtain ⟨name, named, rfl⟩ := List.mem_map.mp member
    exact (plain name named).single
  have parted : (("/".intercalate names).toList).splitOn '/' = names.map String.toList := by
    rw [String.toList_intercalate]
    exact List.splitOn_intercalate '/' single (by simpa using given)
  unfold parts
  rw [parted, List.map_map]
  exact (List.map_congr_left fun name _ => String.ofList_toList).trans (List.map_id _)

/-! ### Patterns -/

def written (whole : Bool) (names : List String) : String :=
  (if whole then "/" else "") ++ "/".intercalate names

theorem parts_slash (text : String) : parts ("/" ++ text) = "" :: parts text := by
  have parted : ('/' :: text.toList).splitOn '/' = [] :: text.toList.splitOn '/' :=
    List.splitOn_append_cons_self_of_not_mem List.not_mem_nil _
  unfold parts
  rw [String.toList_append]
  change (('/' :: text.toList).splitOn '/').map String.ofList = _
  rw [parted]
  rfl

theorem head?_intercalate (plain : ∀ name ∈ names, Plain name) (given : names ≠ []) :
    ("/".intercalate names).toList.head? ≠ some '/' := by
  intro slash
  obtain ⟨rest, spelled⟩ := List.head?_eq_some_iff.mp slash
  have whole : "/".intercalate names = "/" ++ String.ofList rest := by
    apply String.toList_inj.mp
    rw [spelled, String.toList_append]
    exact congrArg ('/' :: ·) String.toList_ofList.symm
  have parted := parts_intercalate plain given
  rw [whole, parts_slash] at parted
  have empty : "" ∈ names := parted ▸ List.mem_cons_self
  exact (plain "" empty).given rfl

theorem ofText_written (whole : Bool) (plain : ∀ name ∈ names, Plain name) (given : names ≠ []) :
    ofText (written whole names) = { names, whole } := by
  have kept : (names.filter fun part => !part.isEmpty) = names := by
    rw [List.filter_eq_self]
    intro name member
    simpa using (plain name member).given
  unfold ofText written
  cases whole with
  | true =>
      rw [if_pos rfl, parts_slash, parts_intercalate plain given, List.filter_cons_of_neg (by decide),
        kept, String.toList_append]
      rfl
  | false =>
      rw [if_neg Bool.false_ne_true, String.empty_append, parts_intercalate plain given, kept,
        decide_eq_false (head?_intercalate plain given)]

end Scalpel.NamePath

namespace Scalpel.Outline

structure Part where
  name : String
  kind : Json
  range : Range
  selection : Range
  detail : Json

inductive Tree where
  | node (part : Part) (children : List Tree)

/-- A symbol of a tree, with the names above it from the root on. -/
structure Node where
  above : List String
  part : Part

def Node.names (node : Node) : List String :=
  node.above ++ [node.part.name]

/-! ### Nodes and their addresses -/

mutual

/-- The nodes of a tree: its root, and then those of its children. -/
def Tree.nodes (above : List String) : Tree → List Node
  | .node part children => ⟨above, part⟩ :: nodes (above ++ [part.name]) children

def nodes (above : List String) : List Tree → List Node
  | [] => []
  | tree :: rest => tree.nodes above ++ nodes above rest

end

/-- The node that is reached from the root of a tree by the address, which says at each step which child
is next. -/
def Tree.nodeAt? (above : List String) : Tree → List Nat → Option Node
  | .node part _, [] => some ⟨above, part⟩
  | .node part children, index :: rest =>
    children[index]?.bind fun child => child.nodeAt? (above ++ [part.name]) rest

def nodeAt? (above : List String) (forest : List Tree) : List Nat → Option Node
  | [] => none
  | index :: rest => forest[index]?.bind fun tree => tree.nodeAt? above rest

/-- All nodes of a forest in order, each once: their addresses ascend, an address before those that it
begins, and every address that leads to a node is among them. -/
def InPreorder (forest : List Tree) (listed : List Node) : Prop :=
  ∃ addresses : List (List Nat), addresses.Pairwise (· < ·) ∧
    addresses.map (nodeAt? [] forest) = listed.map some ∧
    ∀ address, (nodeAt? [] forest address).isSome = true → address ∈ addresses

mutual

def Tree.addresses : Tree → List (List Nat)
  | .node _ children => [] :: addressesFrom 0 children

def addressesFrom (index : Nat) : List Tree → List (List Nat)
  | [] => []
  | tree :: rest => tree.addresses.map (index :: ·) ++ addressesFrom (index + 1) rest

end

variable {forest : List Tree} {index : Nat}

theorem exists_cons_of_mem_addressesFrom {address : List Nat}
    (member : address ∈ addressesFrom index forest) :
    ∃ first rest, address = first :: rest ∧ index ≤ first := by
  induction forest generalizing index with
  | nil => cases member
  | cons tree rest ih =>
      rw [addressesFrom] at member
      rcases List.mem_append.mp member with here | later
      · obtain ⟨below, _, rfl⟩ := List.mem_map.mp here
        exact ⟨index, below, rfl, Nat.le_refl index⟩
      · obtain ⟨first, below, same, least⟩ := ih later
        exact ⟨first, below, same, Nat.le_of_succ_le least⟩

mutual

/-- Addresses ascend: the root comes before what is below it, and what is below one child before what is
below the next. -/
theorem Tree.pairwise_addresses : (tree : Tree) → tree.addresses.Pairwise (· < ·)
  | .node part children => by
      rw [Tree.addresses, List.pairwise_cons]
      constructor
      · intro address member
        obtain ⟨first, below, rfl, _⟩ := exists_cons_of_mem_addressesFrom member
        exact List.nil_lt_cons first below
      · exact pairwise_addressesFrom 0 children

theorem pairwise_addressesFrom (index : Nat) :
    (forest : List Tree) → (addressesFrom index forest).Pairwise (· < ·)
  | [] => List.Pairwise.nil
  | tree :: rest => by
      rw [addressesFrom, List.pairwise_append]
      refine ⟨?_, pairwise_addressesFrom (index + 1) rest, ?_⟩
      · rw [List.pairwise_map]
        exact tree.pairwise_addresses.imp fun less => List.cons_lt_cons_self.mpr less
      · intro address here other later
        obtain ⟨below, _, rfl⟩ := List.mem_map.mp here
        obtain ⟨first, _, rfl, least⟩ := exists_cons_of_mem_addressesFrom later
        exact List.cons_lt_cons_iff.mpr (.inl least)

end

mutual

theorem Tree.map_addresses (above : List String) :
    (tree : Tree) → tree.addresses.map (tree.nodeAt? above) = (tree.nodes above).map some
  | .node part children => by
      rw [Tree.addresses, Tree.nodes, List.map_cons, List.map_cons]
      refine congrArg₂ List.cons rfl ?_
      have listed := map_addressesFrom (above ++ [part.name]) [] children
      rw [← listed]
      apply List.map_congr_left
      intro address member
      obtain ⟨first, below, rfl, _⟩ := exists_cons_of_mem_addressesFrom member
      rfl

theorem map_addressesFrom (above : List String) (before : List Tree) :
    (rest : List Tree) → (addressesFrom before.length rest).map (nodeAt? above (before ++ rest)) =
      (nodes above rest).map some
  | [] => rfl
  | tree :: rest => by
      rw [addressesFrom, nodes, List.map_append, List.map_append]
      refine congrArg₂ (· ++ ·) ?_ ?_
      · rw [List.map_map, ← tree.map_addresses above]
        apply List.map_congr_left
        intro address _
        have here : (before ++ tree :: rest)[before.length]? = some tree := by simp
        change ((before ++ tree :: rest)[before.length]?).bind _ = _
        rw [here]
        rfl
      · have later := map_addressesFrom above (before ++ [tree]) rest
        rw [List.length_append, List.append_assoc] at later
        exact later

end

mutual

theorem Tree.mem_addresses (above : List String) : (tree : Tree) → {address : List Nat} →
    (tree.nodeAt? above address).isSome = true → address ∈ tree.addresses
  | .node part children, [], _ => by
      rw [Tree.addresses]
      exact List.mem_cons_self
  | .node part children, index :: below, found => by
      rw [Tree.addresses]
      have member := mem_addressesFrom (above ++ [part.name]) 0 children found
      rw [Nat.zero_add] at member
      exact List.mem_cons_of_mem _ member

theorem mem_addressesFrom (above : List String) (start : Nat) : (forest : List Tree) →
    {index : Nat} → {below : List Nat} →
    (nodeAt? above forest (index :: below)).isSome = true →
    (start + index) :: below ∈ addressesFrom start forest
  | [], _, _, found => by cases found
  | tree :: rest, 0, below, found => by
      rw [addressesFrom]
      have here : below ∈ tree.addresses := tree.mem_addresses above found
      exact List.mem_append_left _ (List.mem_map_of_mem here)
  | tree :: rest, index + 1, below, found => by
      rw [addressesFrom]
      have deeper : (nodeAt? above rest (index :: below)).isSome = true := found
      have later := mem_addressesFrom above (start + 1) rest deeper
      rw [Nat.add_right_comm] at later
      exact List.mem_append_right _ later

end

theorem inPreorder_nodes (forest : List Tree) : InPreorder forest (nodes [] forest) := by
  refine ⟨addressesFrom 0 forest, pairwise_addressesFrom 0 forest, ?_, ?_⟩
  · exact map_addressesFrom [] [] forest
  · intro address found
    cases address with
    | nil => cases found
    | cons index below =>
        have member := mem_addressesFrom [] 0 forest found
        rw [Nat.zero_add] at member
        exact member

mutual

theorem Tree.forall_names {good : String → Prop} : {tree : Tree} → {above : List String} →
    (∀ name ∈ above, good name) → (∀ node ∈ tree.nodes above, good node.part.name) →
    ∀ node ∈ tree.nodes above, ∀ name ∈ node.names, good name
  | .node part children, above, high, each => by
      rw [Tree.nodes] at each ⊢
      obtain ⟨here, deeper⟩ := List.forall_mem_cons.mp each
      have higher : ∀ name ∈ above ++ [part.name], good name := by
        rw [List.forall_mem_append, List.forall_mem_singleton]
        exact ⟨high, here⟩
      rw [List.forall_mem_cons]
      exact ⟨higher, forall_names higher deeper⟩

theorem forall_names {good : String → Prop} : {forest : List Tree} → {above : List String} →
    (∀ name ∈ above, good name) → (∀ node ∈ nodes above forest, good node.part.name) →
    ∀ node ∈ nodes above forest, ∀ name ∈ node.names, good name
  | [], _, _, _ => fun _ member => absurd member List.not_mem_nil
  | tree :: rest, above, high, each => by
      rw [nodes] at each ⊢
      obtain ⟨here, later⟩ := List.forall_mem_append.mp each
      rw [List.forall_mem_append]
      exact ⟨Tree.forall_names high here, forall_names high later⟩

end

/-! ### Nodes that patterns ask for -/

/-- A pattern asks for a node: the names from the root to the node end with its names, or if it asks for
the whole path they are its names. -/
def Asked (whole : Bool) (names : List String) (node : Node) : Prop :=
  if whole then node.names = names else names <:+ node.names

instance (whole : Bool) (names : List String) (node : Node) : Decidable (Asked whole names node) :=
  inferInstanceAs (Decidable (if whole then _ else _))

theorem asked_singleton {name : String} {node : Node} :
    Asked false [name] node ↔ node.part.name = name := by
  unfold Asked Node.names
  rw [if_neg Bool.false_ne_true]
  constructor
  · rintro ⟨before, same⟩
    have last := List.append_inj_right' same rfl
    exact (List.singleton_inj.mp last).symm
  · rintro rfl
    exact List.suffix_append _ _

/-! ### Symbols of nodes -/

def containerBelow (above : List String) : Json :=
  if above = [] then .null else .str ("/".intercalate above)

def Node.symbol (node : Node) : Symbol :=
  { name := .str node.part.name
    kind := node.part.kind
    range := node.part.range
    selection := node.part.selection
    container := containerBelow node.above
    detail := node.part.detail }

/-! ### Items that describe trees -/

/-- The fields of an item say what is said of a symbol. There need be no range of the name alone. -/
structure Part.Given (part : Part) (fields : Json.Fields) : Prop where
  unlocated : fields.lookup "location" = none
  name : fields.lookup "name" = some (.str part.name)
  kind : (fields.lookup "kind").getD (.int 0) = part.kind
  ranges : ∃ range, fields.lookup "range" = some range ∧ Range.ofJson range = .ok part.range ∧
    Range.ofJson (((fields.lookup "selectionRange").getD .null).orElse range) = .ok part.selection
  detail : (fields.lookup "detail").getD .null = part.detail

mutual

/-- An item of a server's answer describes a tree: it tells of the root, and the items that it lists as
its children describe the children. -/
inductive Describes : Json → Tree → Prop
  | item {fields part items children} : part.Given fields →
    ((fields.lookup "children").getD .null).orElse (.arr []) = .arr items →
    DescribeAll items children → Describes (.obj fields) (.node part children)

inductive DescribeAll : List Json → List Tree → Prop
  | nil : DescribeAll [] []
  | cons {item tree items forest} : Describes item tree → DescribeAll items forest →
    DescribeAll (item :: items) (tree :: forest)

end

/-- The fields that a server gives for a symbol, with all that may be missing. -/
def Part.fields (part : Part) : Json.Fields :=
  [("name", .str part.name), ("kind", part.kind), ("range", part.range.toJson),
    ("selectionRange", part.selection.toJson), ("detail", part.detail)]

mutual

def Tree.toJson : Tree → Json
  | .node part children => .obj (part.fields ++ [("children", .arr (itemsOf children))])

def itemsOf : List Tree → List Json
  | [] => []
  | tree :: rest => tree.toJson :: itemsOf rest

end

mutual

theorem Tree.describes_toJson : (tree : Tree) → Describes tree.toJson tree
  | .node part children => by
      have given : part.Given (part.fields ++ [("children", .arr (itemsOf children))]) :=
        ⟨rfl, rfl, rfl, ⟨part.range.toJson, rfl, rfl, rfl⟩, rfl⟩
      have listed : (Json.arr (itemsOf children)).orElse (.arr []) = .arr (itemsOf children) := by
        cases children with
        | nil => rfl
        | cons child rest => rfl
      rw [Tree.toJson]
      exact .item given listed (describeAll_itemsOf children)

theorem describeAll_itemsOf : (forest : List Tree) → DescribeAll (itemsOf forest) forest
  | [] => by
      rw [itemsOf]
      exact .nil
  | tree :: rest => by
      rw [itemsOf]
      exact .cons tree.describes_toJson (describeAll_itemsOf rest)

end

/-! ### Items that are read -/

variable {part : Part} {fields : Json.Fields} {container : Json} {items : List Json}

theorem nested_of_given (given : part.Given fields) (above : List String) :
    nested (.obj fields) (containerBelow above) = .ok (Node.symbol ⟨above, part⟩) := by
  obtain ⟨range, ranged, covers, selects⟩ := given.ranges
  unfold nested
  simp only [Json.need, Json.optional, given.name, ranged, given.kind, given.detail]
  by_cases chosen : ((fields.lookup "selectionRange").getD .null).isTruthy = true
  · rw [Json.orElse, if_pos chosen] at selects
    simp only [bind, Except.bind, pure, Except.pure, covers, if_pos chosen, selects]
    rfl
  · rw [Json.orElse, if_neg chosen] at selects
    have same : part.selection = part.range := Except.ok.inj (selects.symm.trans covers)
    simp only [bind, Except.bind, pure, Except.pure, covers, if_neg chosen]
    rw [Node.symbol, same]

theorem mentions_location (given : part.Given fields) :
    (Json.obj fields).mentions "location" = .ok false := by
  rw [Json.mentions]
  refine congrArg Except.ok (List.any_eq_false.mpr ?_)
  intro field member named
  have other := List.lookup_eq_none_iff.mp given.unlocated field member
  rw [of_decide_eq_true named] at other
  cases other

/-! ### Name paths of symbols -/

variable [Halves]

theorem Node.namePath_symbol {node : Node} (plain : ∀ name ∈ node.above, NamePath.Plain name) :
    node.symbol.namePath = .str ("/".intercalate node.names) := by
  unfold Symbol.namePath Node.symbol containerBelow Node.names
  dsimp only
  by_cases root : node.above = []
  · rw [if_pos root, root, List.nil_append, String.intercalate_singleton]
    rfl
  · have given : "/".intercalate node.above ≠ "" := NamePath.intercalate_ne_empty plain root
    have present : (Json.str ("/".intercalate node.above)).isTruthy = true := by
      simpa [Json.isTruthy] using given
    rw [if_neg root, if_pos present, NamePath.intercalate_concat root]
    rfl

theorem Node.namePath_eq_containerBelow {node : Node}
    (plain : ∀ name ∈ node.above, NamePath.Plain name) :
    node.symbol.namePath = containerBelow (node.above ++ [node.part.name]) := by
  rw [Node.namePath_symbol plain, containerBelow, if_neg (List.append_ne_nil_of_right_ne_nil _ (by simp))]
  rfl

/-! ### Listings -/

theorem ofChildren_eq (container : Json) (fields : Json.Fields) :
    ofChildren container fields = ofListing container ((fields.lookup "children").getD .null) := by
  induction fields with
  | nil =>
      rw [ofChildren, List.lookup_nil, Option.getD_none, ofListing]
      · rfl
      · intro items same
        cases same
  | cons field rest ih =>
      obtain ⟨name, value⟩ := field
      rw [ofChildren, List.lookup_cons]
      by_cases here : name = "children"
      · rw [if_pos here, here]
        rfl
      · have other : ("children" == name) = false := beq_false_of_ne (Ne.symm here)
        rw [if_neg here, other, ih]

theorem ofListing_of_orElse {value : Json} (listed : value.orElse (.arr []) = .arr items) :
    ofListing container value = ofEntries container items := by
  unfold Json.orElse at listed
  split at listed
  · rw [listed, ofListing]
  · next absent =>
    cases listed
    cases value with
    | arr others =>
        have none : others = [] := by simpa [Json.isTruthy] using absent
        rw [none, ofListing]
    | _ =>
        rw [ofListing, if_neg absent, ofEntries]
        · rfl
        · intro items same
          cases same

mutual

theorem ofEntry_of_describes : {tree : Tree} → {item : Json} → {above : List String} →
    Describes item tree → (∀ name ∈ above, NamePath.Plain name) →
    (∀ node ∈ tree.nodes above, NamePath.Plain node.part.name) →
    ofEntry item (containerBelow above) = .ok ((tree.nodes above).map Node.symbol)
  | _, _, above, @Describes.item fields part items children given listed below, proper, plain => by
      rw [Tree.nodes] at plain ⊢
      obtain ⟨here, deeper⟩ := List.forall_mem_cons.mp plain
      have properBelow : ∀ name ∈ above ++ [part.name], NamePath.Plain name := by
        intro name member
        rcases List.mem_append.mp member with higher | own
        · exact proper name higher
        · rw [List.mem_singleton.mp own]
          exact here
      have children := ofEntries_of_describeAll below properBelow deeper
      have named : (Node.symbol ⟨above, part⟩).namePath = containerBelow (above ++ [part.name]) :=
        Node.namePath_eq_containerBelow proper
      rw [ofEntry, mentions_location given, nested_of_given given above]
      change (ofChildren (Node.symbol ⟨above, part⟩).namePath fields).bind _ = _
      rw [named, ofChildren_eq, ofListing_of_orElse listed, children]
      rfl

theorem ofEntries_of_describeAll : {forest : List Tree} → {items : List Json} →
    {above : List String} → DescribeAll items forest →
    (∀ name ∈ above, NamePath.Plain name) →
    (∀ node ∈ nodes above forest, NamePath.Plain node.part.name) →
    ofEntries (containerBelow above) items = .ok ((nodes above forest).map Node.symbol)
  | _, _, _, .nil, _, _ => by
      rw [ofEntries]
      rfl
  | _, _, _, .cons first others, proper, plain => by
      rw [nodes] at plain ⊢
      obtain ⟨here, later⟩ := List.forall_mem_append.mp plain
      rw [ofEntries, ofEntry_of_describes first proper here,
        ofEntries_of_describeAll others proper later, List.map_append]
      rfl

end

theorem ofJson_of_describeAll {forest : List Tree} (described : DescribeAll items forest)
    (plain : ∀ node ∈ nodes [] forest, NamePath.Plain node.part.name) :
    ofJson (.arr items) = .ok ((nodes [] forest).map Node.symbol) := by
  have listed := ofEntries_of_describeAll described
    (fun _ member => absurd member List.not_mem_nil) plain
  have asked : ofJson (.arr items) = ofListing (containerBelow []) (.arr items) := rfl
  rw [asked, ofListing, listed]

/-! ### Patterns that find symbols -/

theorem accepts_symbol {whole : Bool} {names : List String} {node : Node} (given : names ≠ [])
    (plain : ∀ name ∈ node.names, NamePath.Plain name) :
    NamePath.accepts { names, whole } node.symbol = .ok (decide (Asked whole names node)) := by
  have proper : ∀ name ∈ node.above, NamePath.Plain name := fun name member =>
    plain name (List.mem_append_left _ member)
  have parted : NamePath.parts ("/".intercalate node.names) = node.names :=
    NamePath.parts_intercalate plain (List.append_ne_nil_of_right_ne_nil _ (List.cons_ne_nil _ _))
  unfold NamePath.accepts
  split
  · next none => exact absurd none given
  · next name single anywhere =>
    dsimp only at single anywhere
    subst single anywhere
    refine congrArg Except.ok ?_
    rw [Bool.eq_iff_iff, Json.beq_str_iff, decide_eq_true_iff, asked_singleton]
    exact ⟨Json.str.inj, congrArg Json.str⟩
  · rw [Node.namePath_symbol proper]
    dsimp only
    rw [parted]
    refine congrArg Except.ok ?_
    cases whole with
    | true => rfl
    | false =>
        rw [Bool.eq_iff_iff, decide_eq_true_iff]
        exact List.isSuffixOf_iff_suffix

theorem first?_map_symbol {p : NamePath} {asked : Node → Prop} [DecidablePred asked]
    {listed : List Node} (accepts : ∀ node ∈ listed, p.accepts node.symbol = .ok (decide (asked node))) :
    p.first? (listed.map Node.symbol) = .ok ((listed.find? fun node => asked node).map Node.symbol) := by
  induction listed with
  | nil => rfl
  | cons node rest ih =>
      obtain ⟨here, later⟩ := List.forall_mem_cons.mp accepts
      rw [List.map_cons, NamePath.first?, here, ih later, List.find?_cons]
      by_cases found : asked node
      · simp only [found, decide_true]
        rfl
      · simp only [found, decide_false]
        rfl

end Scalpel.Outline

/-! ### Symbols of a session -/

namespace Scalpel.Client

open Outline

section

variable [Halves] {σ : Type} [Peer σ] {s after : Session σ Client} {uri : String}
  {items : List Json} {forest : List Tree}

theorem ends_symbols_of_answer {listed : List Symbol}
    (answered : Ends (request "textDocument/documentSymbol" (.obj [documentParam uri])) s
      (.ok (.arr items)) after)
    (read : Outline.ofJson (.arr items) = .ok listed) :
    Ends (symbols uri) s (.ok listed) after := by
  have kept : (Json.arr items).orElse (.arr []) = .arr items := by
    cases items with
    | nil => rfl
    | cons item rest => rfl
  have outlined : Ends (outline uri) s (.ok (.arr items)) after :=
    (Ends.bind answered).mpr (ends_pure.mpr ⟨congrArg Except.ok kept.symm, rfl⟩)
  have gentle : Ends (softly (.arr []) (outline uri)) s (.ok (.arr items)) after :=
    (Ends.bind (Session.ends_attempt.mpr ⟨_, rfl, outlined⟩)).mpr (ends_pure.mpr ⟨rfl, rfl⟩)
  refine (Ends.bind gentle).mpr (Session.ends_settle.mpr ⟨?_, rfl⟩)
  exact read.symm

/-- When a server answers with items that describe a forest whose names are not empty and hold no slash,
the symbols of the document are those of its nodes, each once and in order, and the name path of each
is made of the names from the root to it. A pattern of such names finds the first node whose names from
the root end with its names, or are its names if it begins with a slash, and nothing where there is no
such node. -/
theorem symbols_of_forest (described : DescribeAll items forest)
    (plain : ∀ node ∈ nodes [] forest, NamePath.Plain node.part.name)
    (answered : Ends (request "textDocument/documentSymbol" (.obj [documentParam uri])) s
      (.ok (.arr items)) after) :
    InPreorder forest (nodes [] forest) ∧
      Ends (symbols uri) s (.ok ((nodes [] forest).map Node.symbol)) after ∧
      (∀ node ∈ nodes [] forest, node.symbol.namePath = .str ("/".intercalate node.names)) ∧
      ∀ (whole : Bool) (names : List String), names ≠ [] →
        (∀ name ∈ names, NamePath.Plain name) →
        Ends (findSymbol uri (NamePath.written whole names)) s
          (.ok (((nodes [] forest).find? fun node => Asked whole names node).map Node.symbol))
          after := by
  have proper : ∀ node ∈ nodes [] forest, ∀ name ∈ node.names, NamePath.Plain name :=
    forall_names (fun _ member => absurd member List.not_mem_nil) plain
  have listed := ends_symbols_of_answer answered (ofJson_of_describeAll described plain)
  refine ⟨inPreorder_nodes forest, listed, ?_, ?_⟩
  · intro node member
    apply Node.namePath_symbol
    exact fun name above => proper node member name (List.mem_append_left _ above)
  · intro whole names given fits
    have accepts : ∀ node ∈ nodes [] forest, NamePath.accepts { names, whole } node.symbol =
        .ok (decide (Asked whole names node)) := fun node member =>
      accepts_symbol given (proper node member)
    refine (Ends.bind listed).mpr (Session.ends_settle.mpr ⟨?_, rfl⟩)
    rw [NamePath.ofText_written whole fits given, first?_map_symbol accepts]

end

/-! ### A class and a function with a name in common -/

local instance outlineHalves : Halves :=
  Halves.trial

def partAt (name : String) (line : Int) : Part :=
  { name
    kind := .int 12
    range := ⟨⟨line, 0⟩, ⟨line, 9⟩⟩
    selection := ⟨⟨line, 4⟩, ⟨line, 5⟩⟩
    detail := .null }

/-- A class with a method, in a class of the same name, and a function named like the method. -/
def classes : List Tree :=
  [.node (partAt "A" 0) [.node (partAt "A" 1) [.node (partAt "f" 2) []]], .node (partAt "f" 3) []]

def outlined : Session Clerk Client :=
  { world := { server := { answers :=
      [("textDocument/documentSymbol", .arr (itemsOf classes))] } }
    owner := { make { language := "py", command := .str "py-server" } "/w" {} 0.0 with
      state := .ready
      attached := true } }

theorem attuned_outlined : Attuned outlined where
  free := rfl
  idle := {
    opened := rfl
    carrying := rfl
    handled := rfl
    sound := {
      waiting := fun _ member => absurd member List.not_mem_nil
      outcomes := fun _ member => absurd member List.not_mem_nil
      awake := fun _ => rfl } }

def askedOfClasses (whole : Bool) (names : List String) : Option Symbol :=
  ((nodes [] classes).find? fun node => Asked whole names node).map Node.symbol

def lineOf (symbol : Symbol) : Int :=
  symbol.range.start.line

theorem symbols_of_forest_of_classes : ∃ after method function,
    Ends (findSymbol "a.py" "f") outlined (.ok (some method)) after ∧ lineOf method = 2 ∧
      Ends (findSymbol "a.py" "/f") outlined (.ok (some function)) after ∧ lineOf function = 3 ∧
      Ends (findSymbol "a.py" "/A/f") outlined (.ok none) after := by
  obtain ⟨after, answered, _⟩ := request_answered .null (by decide +kernel) attuned_outlined
    (Clerk.answersNext outlined "textDocument/documentSymbol" (.obj [documentParam "a.py"]))
  have plain : ∀ node ∈ nodes [] classes, NamePath.Plain node.part.name := by
    decide +kernel
  have found {whole : Bool} {names : List String} {text : String} {answer : Option Symbol}
      (given : names ≠ []) (proper : ∀ name ∈ names, NamePath.Plain name)
      (spelled : NamePath.written whole names = text)
      (asked : askedOfClasses whole names = answer) :
      Ends (findSymbol "a.py" text) outlined (.ok answer) after := by
    subst spelled asked
    exact (symbols_of_forest (describeAll_itemsOf classes) plain answered).2.2.2 _ _ given proper
  obtain ⟨method, first, second⟩ : ∃ symbol, askedOfClasses false ["f"] = some symbol ∧
      lineOf symbol = 2 :=
    Option.map_eq_some_iff.mp (by decide +kernel)
  obtain ⟨function, top, last⟩ : ∃ symbol, askedOfClasses true ["f"] = some symbol ∧
      lineOf symbol = 3 :=
    Option.map_eq_some_iff.mp (by decide +kernel)
  have nothing : askedOfClasses true ["A", "f"] = none :=
    Option.isNone_iff_eq_none.mp (by decide +kernel)
  refine ⟨after, method, function, ?_, second, ?_, last, ?_⟩
  · exact found (by decide) (by decide) (by decide +kernel) first
  · exact found (by decide) (by decide) (by decide +kernel) top
  · exact found (by decide) (by decide) (by decide +kernel) nothing

end Scalpel.Client
