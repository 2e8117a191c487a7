import Scalpel.Document.Position

/-!
What a server tells about a document: locations, diagnostics, proposals for completion and the text
shown for a place. Everything but ranges is passed on as the server gave it.
-/

set_option autoImplicit false

namespace Scalpel

structure Location where
  uri : Json
  range : Range

/-- The location that a message gives, as a location or as a link with a target. -/
def Location.ofJson (value : Json) : Outcome Location := do
  if ← value.mentions "targetUri" then
    return { uri := ← value.need "targetUri", range := ← Range.ofJson (← value.need "targetRange") }
  return { uri := ← value.need "uri", range := ← Range.ofJson (← value.need "range") }

def Location.toJson (l : Location) : Json :=
  .obj [("uri", l.uri), ("range", l.range.toJson)]

/-- A remark on a range of a document. -/
structure Diagnostic where
  range : Range
  message : Json
  severity : Json
  source : Json
  code : Json

def Diagnostic.ofJson (value : Json) : Outcome Diagnostic := do
  let range ← Range.ofJson (← value.need "range")
  return {
    range
    message := ← value.optional "message" (.str "")
    severity := ← value.optional "severity" .null
    source := ← value.optional "source" .null
    code := ← value.optional "code" .null }

def Diagnostic.toJson (d : Diagnostic) : Json :=
  .obj [("range", d.range.toJson), ("message", d.message), ("severity", d.severity),
    ("source", d.source), ("code", d.code)]

structure Completion where
  label : Json
  kind : Json
  detail : Json
  insertText : Json

def Completion.ofJson (value : Json) : Outcome Completion := do
  return {
    label := ← value.optional "label" (.str "")
    kind := ← value.optional "kind" .null
    detail := ← value.optional "detail" .null
    insertText := ← value.optional "insertText" .null }

def Completion.toJson (c : Completion) : Json :=
  .obj [("label", c.label), ("kind", c.kind), ("detail", c.detail), ("insert_text", c.insertText)]

namespace Hover

/-- Values that count as present, joined by blank lines; each must be a text. -/
def joined (parts : List Json) : Outcome Json := do
  let texts ← (parts.filter Json.isTruthy).zipIdx.mapM fun (part, index) =>
    match part with
    | .str text => .ok text
    | value => .error (.misuse (.item index value))
  return if texts.isEmpty then .null else .str ("\n\n".intercalate texts)

mutual

/-- The text of the contents of a hover: a text, an object with a value, or a list of contents whose
texts are joined by blank lines. Empty texts do not count. Lists nest so many levels at most. -/
def ofContents : Nat → Json → Outcome Json
  | _, .str text => .ok (if text.isEmpty then .null else .str text)
  | _, .obj fields => .ok (((fields.lookup "value").getD .null).orElse .null)
  | 0, .arr _ => .error .tooDeep
  | levels + 1, .arr items => do joined (← ofParts levels items)
  | _, _ => .ok .null

def ofParts : Nat → List Json → Outcome (List Json)
  | _, [] => .ok []
  | levels, item :: rest => do
    let first ← ofContents levels item
    let more ← ofParts levels rest
    return first :: more

end

/-- How deep lists may lie in lists. At most a thousand calls can be under way at a time: each level of
lists takes two of them, and what asks for a hover takes the other ten. -/
def levelLimit : Nat := 495

def text (answer : Json) : Outcome Json :=
  if !answer.isTruthy then .ok .null
  else
    match answer with
    | .obj fields => ofContents levelLimit ((fields.lookup "contents").getD .null)
    | contents => ofContents levelLimit contents

end Hover

end Scalpel
