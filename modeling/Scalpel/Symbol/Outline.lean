import Scalpel.Document.Position

/-!
Named parts of a program, as a language server reports them. The range of a symbol covers its whole
definition, the selection only its name. What a server says of a symbol besides its ranges is kept as
it came. The name path of a symbol is the name path of its container, a slash and its name.
-/

set_option autoImplicit false

namespace Scalpel

variable [Halves]

structure Symbol where
  name : Json
  kind : Json
  range : Range
  selection : Range
  container : Json := .null
  detail : Json := .null

namespace Symbol

def kindNames : List String :=
  ["file", "module", "namespace", "package", "class", "method", "property", "field", "constructor",
    "enum", "interface", "function", "variable", "constant", "string", "number", "boolean", "array",
    "object", "key", "null", "enum_member", "struct", "event", "operator", "type_parameter"]

def kindLabel (kind : Json) : String :=
  match kind.index? with
  | some (.ofNat (n + 1)) => kindNames.getD n "unknown"
  | _ => "unknown"

def kindName (s : Symbol) : String :=
  kindLabel s.kind

def namePath (s : Symbol) : Json :=
  if s.container.isTruthy then .str (s.container.shown ++ "/" ++ s.name.shown) else s.name

def fields (s : Symbol) : Json.Fields :=
  [("name", s.name), ("kind", .str s.kindName), ("name_path", s.namePath), ("range", s.range.toJson)]
    ++ (if s.container.isTruthy then [("container_name", s.container)] else [])
    ++ (if s.detail.isTruthy then [("detail", s.detail)] else [])

def toJson (s : Symbol) : Json :=
  .obj s.fields

end Symbol

end Scalpel

/-! ### Outlines

A server answers the outline of a document either as a tree, in which every symbol holds its
children, or as a flat list, in which every symbol names its container. Both are listed in the order of
the server, a symbol before its children, each with the name path of its container.
-/

namespace Scalpel.Outline

open Scalpel

variable [Halves]

def located (entry container : Json) : Outcome Symbol := do
  let range ← Range.ofJson (← (← entry.need "location").need "range")
  let name ← entry.need "name"
  let kind ← entry.optional "kind" (.int 0)
  let own ← entry.optional "containerName" .null
  return { name, kind, range, selection := range, container := own.orElse container }

def nested (entry container : Json) : Outcome Symbol := do
  let range ← Range.ofJson (← entry.need "range")
  let name ← entry.need "name"
  let kind ← entry.optional "kind" (.int 0)
  let given ← entry.optional "selectionRange" .null
  let selected ← if given.isTruthy then pure given else entry.need "range"
  let selection ← Range.ofJson selected
  let detail ← entry.optional "detail" .null
  return { name, kind, range, selection, container, detail }

mutual

/-- The symbols of an entry and of those below it. No limit of levels is needed here: a symbol with children
is an object in a list, two levels of the answer, so an answer that could be read has at most half of
`Json.levelLimit` levels of symbols, and these stay within the calls that can be under way. -/
def ofEntry : Json → Json → Outcome (List Symbol)
  | .obj fields, container => do
    if ← (Json.obj fields).mentions "location" then
      return [← located (.obj fields) container]
    let symbol ← nested (.obj fields) container
    let below ← ofChildren symbol.namePath fields
    return symbol :: below
  | entry, container => do
    if ← entry.mentions "location" then
      return [← located entry container]
    return [← nested entry container]

def ofChildren (container : Json) : List (String × Json) → Outcome (List Symbol)
  | [] => .ok []
  | (name, value) :: rest =>
    if name = "children" then ofListing container value else ofChildren container rest

def ofListing (container : Json) : Json → Outcome (List Symbol)
  | .arr items => ofEntries container items
  | value => do
    if value.isTruthy then
      -- names and characters are no entries
      let _ ← value.listed
      .error (.misuse (.indexed (.str "")))
    else return []

def ofEntries (container : Json) : List Json → Outcome (List Symbol)
  | [] => .ok []
  | entry :: rest => do
    let first ← ofEntry entry container
    let more ← ofEntries container rest
    return first ++ more

end

def ofJson (answer : Json) : Outcome (List Symbol) := do
  let _ ← answer.listed
  ofListing .null answer

end Scalpel.Outline
