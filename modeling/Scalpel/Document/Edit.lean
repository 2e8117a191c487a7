import Scalpel.Document.Position
import Scalpel.Json.Writer

/-!
Edits of texts. A text edit puts a new text in the place of a range. The edits that a server sends
carry their new text unchecked, so the type of new texts is a parameter: `String` for the edits made
here, `Json` for the edits as they were received. A workspace edit holds the text edits of several
documents in the order in which the documents were named first. A server may name a document by a
value that is no text; such an edit can be shown and not applied.
-/

set_option autoImplicit false

namespace Scalpel

variable [Halves]

structure TextEdit (τ : Type) where
  range : Range
  newText : τ
deriving DecidableEq, Repr

namespace TextEdit

def toJson (e : TextEdit Json) : Json :=
  .obj [("range", e.range.toJson), ("newText", e.newText)]

/-- The text edit that a message gives; its new text is empty unless given. -/
def ofJson (value : Json) : Outcome (TextEdit Json) := do
  let range ← Range.ofJson (← value.need "range")
  let newText ← value.optional "newText" (.str "")
  .ok { range, newText }

def received (e : TextEdit String) : TextEdit Json :=
  { range := e.range, newText := .str e.newText }

def checked (e : TextEdit Json) : Outcome (TextEdit String) :=
  match e.newText with
  | .str text => .ok { range := e.range, newText := text }
  | value => .error (.misuse (.joined value))

end TextEdit

/-- A change of an open document: a new text for a range, or for the whole document. -/
structure ContentChange where
  text : String
  range : Option Range := none
deriving DecidableEq, Repr

def ContentChange.toJson (change : ContentChange) : Json :=
  match change.range with
  | none => .obj [("text", .str change.text)]
  | some range => .obj [("range", range.toJson), ("text", .str change.text)]

/-- What names a document in a workspace edit: a uri, or a null, a Boolean or a number that was sent
in the place of one. -/
inductive DocumentName where
  | uri (text : String)
  | stray (value : Json)

namespace DocumentName

/-- The name that a value makes, if it can be the key of a table. -/
def ofJson (value : Json) : Outcome DocumentName := do
  match ← value.asKey with
  | .str text => return .uri text
  | value => return .stray value

/-- Whether two names are the same. Numbers that are equal are the same name. -/
def same : DocumentName → DocumentName → Bool
  | .uri text, .uri other => text = other
  | .stray .null, .stray .null => true
  | .stray value, .stray other =>
    match value.index?, other.index? with
    | some n, some m => n = m
    | none, none =>
      match value, other with
      | .float x, .float y => x == y
      | _, _ => false
    | _, _ => false
  | _, _ => false

def toJson : DocumentName → Json
  | .uri text => .str text
  | .stray value => value

/-- The name of a field that stands for the document in JSON text. -/
def written : DocumentName → String
  | .uri text => text
  | .stray value => Json.writtenLeaf true value

def shown (name : DocumentName) : String :=
  name.toJson.shown

def textual : DocumentName → Outcome String
  | .uri text => .ok text
  | .stray value => .error (.misuse (.member value "startswith"))

end DocumentName

/-- The text edits of several documents, by name. -/
structure WorkspaceEdit where
  changes : List (DocumentName × List (TextEdit Json)) := []

namespace WorkspaceEdit

def names (e : WorkspaceEdit) : List DocumentName :=
  e.changes.map (·.1)

def editCount (e : WorkspaceEdit) : Nat :=
  (e.changes.map fun change => change.2.length).sum

def isEmpty (e : WorkspaceEdit) : Bool :=
  e.editCount = 0

def single (uri : String) (edit : TextEdit String) : WorkspaceEdit :=
  { changes := [(.uri uri, [edit.received])] }

def extend : List (DocumentName × List (TextEdit Json)) → DocumentName → List (TextEdit Json) →
    List (DocumentName × List (TextEdit Json))
  | [], name, edits => [(name, edits)]
  | (key, old) :: rest, name, edits =>
    if key.same name then (key, old ++ edits) :: rest else (key, old) :: extend rest name edits

def editsJson (e : WorkspaceEdit) (naming : DocumentName → String := DocumentName.written) : Json :=
  .obj (e.changes.map fun change => (naming change.1, .arr (change.2.map TextEdit.toJson)))

def toJson (e : WorkspaceEdit) (naming : DocumentName → String := DocumentName.written) : Json :=
  .obj [("changes", e.editsJson naming)]

def editsOfJson (value : Json) : Outcome (List (TextEdit Json)) := do
  (← value.listed).mapM TextEdit.ofJson

/-- The edits of one versioned document, added to those read before; entries without a document are
operations on files and add nothing. -/
def addDocument (changes : List (DocumentName × List (TextEdit Json))) (entry : Json) :
    Outcome (List (DocumentName × List (TextEdit Json))) := do
  if !(← entry.mentions "textDocument") then return changes
  let name ← DocumentName.ofJson (← (← entry.need "textDocument").need "uri")
  return extend changes name (← editsOfJson (← entry.optional "edits" (.arr [])))

/-- The workspace edit that a message gives, by `changes` and by `documentChanges`. -/
def ofJson (value : Json) : Outcome WorkspaceEdit := do
  if !value.isTruthy then return {}
  let plain ← ((← value.optional "changes" .null).orElse (.obj [])).entries
  let changes ← plain.foldlM (fun changes (uri, edits) => do
    return extend changes (.uri uri) (← editsOfJson edits)) []
  let versioned ← ((← value.optional "documentChanges" .null).orElse (.arr [])).listed
  let changes ← versioned.foldlM addDocument changes
  return { changes }

end WorkspaceEdit

end Scalpel
