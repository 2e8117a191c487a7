import Scalpel.Proofs.Gathering
import Scalpel.Proofs.Quiet
import Scalpel.Session.Documents

/-!
A server that executes the messages of its client. It is laid over any other server, which goes on to
decide what is answered, and keeps a desk for each language. A desk holds the documents that were
opened on it, each with the text and the version that the messages give, and the edits that it was
asked to apply and has not answered. The documents of an answered edit change as the answer says.
-/

set_option autoImplicit false

namespace Scalpel

structure Held where
  version : Int
  text : String
deriving DecidableEq, Repr

def Tracker.view (t : Tracker) (uri : String) : Option Held :=
  (t.get? uri).map fun document => { version := document.version, text := document.content }

/-! ### Reading messages -/

namespace Desk

def subject? (params : Json) : Option (String × Json) :=
  match params.field? "textDocument" with
  | some document =>
    match document.field? "uri" with
    | some (.str uri) => some (uri, document)
    | _ => none
  | none => none

def opened? (params : Json) : Option (String × Held) :=
  match subject? params with
  | some (uri, document) =>
    match document.field? "version", document.field? "text" with
    | some (.int version), some (.str text) => some (uri, { version, text })
    | _, _ => none
  | none => none

def changeOf? (value : Json) : Option ContentChange :=
  match value.field? "text", value.field? "range" with
  | some (.str text), none => some { text }
  | some (.str text), some range =>
    match Range.ofJson range with
    | .ok range => some { text, range := some range }
    | .error _ => none
  | _, _ => none

def changed? (params : Json) : Option (String × Int × List ContentChange) :=
  match subject? params, params.field? "contentChanges" with
  | some (uri, document), some (.arr items) =>
    match document.field? "version", items.mapM changeOf? with
    | some (.int version), some changes => some (uri, version, changes)
    | _, _ => none
  | _, _ => none

def requested? (message : Json) : Option (Int × WorkspaceEdit) :=
  match message.field? "id", message.field? "params" with
  | some (.int number), some params =>
    match params.field? "edit" with
    | some value =>
      match WorkspaceEdit.ofJson value with
      | .ok edit => some (number, edit)
      | .error _ => none
    | none => none
  | _, _ => none

/-- Whether an answer says that an edit was applied: it is no error, and it does not say that the edit
was not applied. -/
def affirms (answer : Json) : Bool :=
  match (answer.field? "error").getD .null, (answer.field? "result").getD .null with
  | .null, .obj fields => ((fields.lookup "applied").getD .null).isTruthy
  | .null, _ => true
  | _, _ => false

end Desk

/-! ### Desks -/

/-- What a server holds: documents, and the edits that it has not answered. -/
structure Desk where
  texts : String → Option Held := fun _ => none
  asked : List (Int × WorkspaceEdit) := []

namespace Desk

def replace (texts : String → Option Held) (uri : String) (held : Option Held) :
    String → Option Held :=
  fun other => if other = uri then held else texts other

/-- Documents after an edit. Each one named takes its text edits and the next version; the edit ends
where a document is not held or a new text is no text. -/
def applied (texts : String → Option Held) :
    List (DocumentName × List (TextEdit Json)) → String → Option Held
  | [] => texts
  | (.stray _, _) :: _ => texts
  | (.uri uri, edits) :: rest =>
    match texts uri with
    | none => texts
    | some held =>
      match Document.applyReceived held.text edits with
      | .error _ => texts
      | .ok text => applied (replace texts uri (some { version := held.version + 1, text })) rest

/-- The desk after a message of the client. A message that makes no sense changes nothing. -/
def hear (desk : Desk) (message : Json) : Desk :=
  let params := (message.field? "params").getD .null
  match message.field? "method" with
  | some (.str method) =>
    if method = "textDocument/didOpen" then
      match opened? params with
      | some (uri, held) => { desk with texts := replace desk.texts uri (some held) }
      | none => desk
    else if method = "textDocument/didChange" then
      match changed? params with
      | some (uri, version, changes) =>
        { desk with
          texts := replace desk.texts uri ((desk.texts uri).map fun held =>
            { version, text := Document.applyChanges held.text changes }) }
      | none => desk
    else if method = "textDocument/didClose" then
      match subject? params with
      | some (uri, _) => { desk with texts := replace desk.texts uri none }
      | none => desk
    else if method = "workspace/applyEdit" then
      match requested? message with
      | some request => { desk with asked := desk.asked ++ [request] }
      | none => desk
    else desk
  | _ => desk

def answered? (message : Json) : Option Int :=
  match (message.field? "method").getD .null with
  | .null => (message.field? "id").bind Json.index?
  | _ => none

def send (desk : Desk) : Inbound → Desk
  | .closure _ => desk
  | .message message =>
    match answered? message with
    | none => desk
    | some number =>
      match desk.asked.lookup number with
      | none => desk
      | some edit =>
        { texts := if affirms message then applied desk.texts edit.changes else desk.texts
          asked := desk.asked.filter fun entry => entry.1 ≠ number }

end Desk

structure Reference (σ : Type) where
  server : σ
  desks : String → Desk := fun _ => {}

def Reference.withDesk {σ : Type} (r : Reference σ) (language : String) (desk : Desk) : Reference σ :=
  { r with desks := fun other => if other = language then desk else r.desks other }

def Reference.launched {σ : Type} (r : Reference σ) (language : String) :
    Outcome Launched × σ → Outcome Launched × Reference σ
  | (.ok launched, server) => (.ok launched, ({ r with server } : Reference σ).withDesk language {})
  | (.error failure, server) => (.error failure, { r with server })

def Reference.reacted {σ : Type} (r : Reference σ) (language : String) (message : Json)
    (reaction : Reaction) (server : σ) : Reference σ :=
  match reaction.refusal with
  | some _ => { r with server }
  | none => ({ r with server } : Reference σ).withDesk language
      (reaction.arrivals.foldl Desk.send ((r.desks language).hear message))

instance {σ : Type} [Peer σ] : Peer (Reference σ) where
  launch config root settings files r :=
    r.launched config.language (Peer.launch config root settings files r.server)
  react language message files r :=
    let (reaction, server) := Peer.react language message files r.server
    (reaction, r.reacted language message reaction server)

/-! ### The messages of a client

What a desk makes of the messages that a client writes. The client's own writing of ranges, edits and
changes is read back unchanged, so each message about a document does to the desk what it says, and
all other messages are ignored.
-/

theorem Desk.changeOf?_toJson (change : ContentChange) :
    changeOf? change.toJson = some change := by
  rcases change with ⟨text, none | range⟩ <;> rfl

/-! ### Messages about documents -/

namespace Desk

theorem hear_didOpen (desk : Desk) (document : OpenDocument) :
    desk.hear (Connection.notificationMessage "textDocument/didOpen" (Client.openParams document)) =
      { desk with
        texts := replace desk.texts document.uri
          (some { version := document.version, text := document.content }) } :=
  rfl

theorem hear_didClose (desk : Desk) (uri : String) :
    desk.hear (Connection.notificationMessage "textDocument/didClose"
        (.obj [("textDocument", .obj [("uri", .str uri)])])) =
      { desk with texts := replace desk.texts uri none } :=
  rfl

theorem mapM_changeOf? (changes : List ContentChange) :
    (changes.map ContentChange.toJson).mapM changeOf? = some changes := by
  induction changes with
  | nil => rfl
  | cons change rest ih =>
      rw [List.map_cons, List.mapM_cons, changeOf?_toJson, ih]
      rfl

def changeParams (uri : String) (version : Int) (changes : List ContentChange) : Json :=
  .obj [("textDocument", .obj [("uri", .str uri), ("version", .int version)]),
    ("contentChanges", .arr (changes.map ContentChange.toJson))]

private theorem changed?_changeParams (uri : String) (version : Int) (changes : List ContentChange) :
    changed? (changeParams uri version changes) = some (uri, version, changes) := by
  have subject : subject? (changeParams uri version changes) =
      some (uri, .obj [("uri", .str uri), ("version", .int version)]) := rfl
  have listed : (changeParams uri version changes).field? "contentChanges" =
      some (.arr (changes.map ContentChange.toJson)) := rfl
  have numbered : (Json.obj [("uri", .str uri), ("version", .int version)]).field? "version" =
      some (.int version) := rfl
  simp only [changed?, subject, listed, numbered, mapM_changeOf?]

theorem hear_didChange (desk : Desk) (uri : String) (version : Int) (changes : List ContentChange) :
    desk.hear (Connection.notificationMessage "textDocument/didChange"
        (changeParams uri version changes)) =
      { desk with
        texts := replace desk.texts uri ((desk.texts uri).map fun held =>
          { version, text := Document.applyChanges held.text changes }) } := by
  have named : (Connection.notificationMessage "textDocument/didChange"
      (changeParams uri version changes)).field? "method" =
        some (.str "textDocument/didChange") := rfl
  have given : (Connection.notificationMessage "textDocument/didChange"
      (changeParams uri version changes)).field? "params" =
        some (changeParams uri version changes) := rfl
  have later : "textDocument/didChange" ≠ "textDocument/didOpen" := by decide
  simp only [hear, named, given, if_neg later, if_true, Option.getD_some, changed?_changeParams]

/-! ### Other messages -/

def Ignores (message : Json) : Prop :=
  ∀ desk : Desk, desk.hear message = desk

def methods : List String :=
  ["textDocument/didOpen", "textDocument/didChange", "textDocument/didClose", "workspace/applyEdit"]

private theorem ignores_of_method {message : Json} {method : String}
    (named : message.field? "method" = some (.str method)) (other : method ∉ methods) :
    Ignores message := by
  intro desk
  simp only [methods, List.mem_cons, List.not_mem_nil, or_false, not_or] at other
  obtain ⟨notOpen, notChange, notClose, notEdit⟩ := other
  simp only [hear, named, if_neg notOpen, if_neg notChange, if_neg notClose, if_neg notEdit]

theorem ignores_notification {method : String} (other : method ∉ methods) :
    Client.FitNotice Ignores method :=
  fun _ => ignores_of_method rfl other

theorem ignores_request {method : String} (other : method ∉ methods) :
    Client.FitRequest Ignores method :=
  fun _ _ => ignores_of_method rfl other

/-! ### What the server sends -/

theorem send_of_asked_nil {desk : Desk} (settled : desk.asked = []) (arrival : Inbound) :
    desk.send arrival = desk := by
  cases arrival with
  | closure closure => rfl
  | message message =>
      unfold send
      dsimp only
      split
      · rfl
      · rw [settled]
        rfl

theorem foldl_send_of_asked_nil {desk : Desk} (settled : desk.asked = [])
    (arrivals : List Inbound) : arrivals.foldl send desk = desk := by
  induction arrivals with
  | nil => rfl
  | cons arrival rest ih =>
      rw [List.foldl_cons, send_of_asked_nil settled]
      exact ih

end Desk

/-! ### Requests to apply an edit -/

variable [Halves]

namespace Desk

def editParams (edit : WorkspaceEdit) (label : String) : Json :=
  .obj [("label", .str label), ("edit", edit.toJson)]

theorem hear_applyEdit (desk : Desk) (number : Int) {edit : WorkspaceEdit}
    (distinct : edit.Distinct) (label : String) :
    desk.hear (Connection.requestMessage number "workspace/applyEdit" (editParams edit label)) =
      { desk with asked := desk.asked ++ [(number, edit)] } := by
  have numbered : (Connection.requestMessage number "workspace/applyEdit"
      (editParams edit label)).field? "id" = some (.int number) := rfl
  have named : (Connection.requestMessage number "workspace/applyEdit"
      (editParams edit label)).field? "method" = some (.str "workspace/applyEdit") := rfl
  have given : (Connection.requestMessage number "workspace/applyEdit"
      (editParams edit label)).field? "params" = some (editParams edit label) := rfl
  have meant : (editParams edit label).field? "edit" = some edit.toJson := rfl
  have requested : requested? (Connection.requestMessage number "workspace/applyEdit"
      (editParams edit label)) = some (number, edit) := by
    simp only [requested?, numbered, given, meant, WorkspaceEdit.ofJson_toJson distinct]
  have notOpen : "workspace/applyEdit" ≠ "textDocument/didOpen" := by decide
  have notChange : "workspace/applyEdit" ≠ "textDocument/didChange" := by decide
  have notClose : "workspace/applyEdit" ≠ "textDocument/didClose" := by decide
  simp only [hear, named, if_neg notOpen, if_neg notChange, if_neg notClose, if_true, requested]

theorem ignores_reply (number : Json) (outcome : Outcome Json) :
    Ignores (Connection.replyMessage number outcome) := by
  intro desk
  cases outcome <;> rfl

end Desk

end Scalpel
