import Scalpel.Session.Lifecycle

/-!
The documents of a client from outside: they are opened, changed, saved and closed, and edits of
several documents are applied through the server. A server that does not know how to apply edits is
told the changes one by one.
-/

set_option autoImplicit false

namespace Scalpel.Client

variable [Halves]

variable {σ : Type}

def change [Peer σ] (uri : String) (changes : List ContentChange) : Action σ Client OpenDocument :=
  changeDocument (Session.notify handlers) uri changes

/-- A document is opened. For one that is open already, its new text is a change. -/
def openDocument [Peer σ] (uri content : String) (languageId : Json := .null) :
    Action σ Client OpenDocument := do
  needSession
  let c ← current
  if c.documents.isOpen uri then change uri [{ text := content }]
  else
    let id := languageId.orElse (c.config.languageId.orElse (.str c.language))
    let (documents, document) := c.documents.openNew uri content id
    setDocuments documents
    notify "textDocument/didOpen" (openParams document)
    return ((← current).documents.get? uri).getD document

/-- The client has a text for a document: it opens the document, or changes it where its text is
another. -/
def adopt [Peer σ] (uri content : String) : Action σ Client Unit := do
  match (← current).documents.get? uri with
  | none => do
    let _ ← openDocument uri content
  | some document =>
    if document.content ≠ content then
      let _ ← change uri [{ text := content }]

/-- A document is saved. A new text that differs from the known one is a change first. -/
def save [Peer σ] (uri : String) (content : Option String := none) :
    Action σ Client OpenDocument := do
  needSession
  let document ← Session.settle ((← current).documents.require uri)
  let document ←
    match content with
    | some text => if text = document.content then pure document else change uri [{ text }]
    | none => pure document
  notify "textDocument/didSave" (.obj [("textDocument", .obj [("uri", .str uri)]),
    ("text", .str document.content)])
  return ((← current).documents.get? uri).getD document

def closeDocument [Peer σ] (uri : String) : Action σ Client Unit := do
  if (← current).documents.isOpen uri then
    notify "textDocument/didClose" (.obj [("textDocument", .obj [("uri", .str uri)])])
    update fun c => { c with documents := c.documents.remove uri }.withoutDiagnostics uri

/-! ### Edits -/

/-- The server takes the edit of one document as changes from the bottom up. -/
def sendChanges [Peer σ] (uri : String) (edits : List (TextEdit Json)) : Action σ Client Unit := do
  needSession
  let _ ← Session.settle ((← current).documents.require uri)
  let edits ← Session.settle ((Document.bottomUp edits).mapM TextEdit.checked)
  let _ ← change uri (edits.map fun edit => { text := edit.newText, range := some edit.range })

/-- The edit of one document, which the server has taken, is applied to its text here. -/
def applyHere (uri : String) (edits : List (TextEdit Json)) : Action σ Client Unit := do
  let document ← Session.settle ((← current).documents.require uri)
  let text ← Session.settle (Document.applyReceived document.content edits)
  let (documents, _) ← Session.settle ((← current).documents.update uri [{ text }])
  setDocuments documents

def isRejection (answer : Json) : Bool :=
  match answer with
  | .obj fields => !((fields.lookup "applied").getD .null).isTruthy
  | _ => false

/-- The uris of an edit with their text edits. All documents of the edit must be open. -/
def openTargets (edit : WorkspaceEdit) :
    Action σ Client (List (String × List (TextEdit Json))) := do
  let documents := (← current).documents
  edit.changes.mapM fun (name, edits) => do
    match name with
    | .uri uri =>
      let _ ← Session.settle (documents.require uri)
      return (uri, edits)
    | name => Session.raise (.documentNotOpen name.shown)

def applyEdit [Peer σ] (edit : WorkspaceEdit) (label : String := "Workspace Edit") :
    Action σ Client Unit := do
  let targets ← openTargets edit
  let params : Json := .obj [("label", .str label), ("edit", edit.toJson)]
  match ← Session.attempt (request "workspace/applyEdit" params) with
  | .error (.problem problem) =>
    if problem.kind = .protocol && problem.isMethodNotFound then
      for (uri, edits) in targets do
        sendChanges uri edits
    else Session.raise problem
  | .error failure => throw failure
  | .ok answer =>
    if isRejection answer then
      Session.raise (.applyEditRejected ((answer.field? "failureReason").getD .null)
        { operation := some "apply_edit", language := some (← current).language })
    for (uri, edits) in targets do
      applyHere uri edits

end Scalpel.Client
