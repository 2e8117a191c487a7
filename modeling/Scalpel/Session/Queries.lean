import Scalpel.Session.Documents
import Scalpel.Symbol.Outline
import Scalpel.Symbol.NamePath

/-!
What a client asks its server about documents. An answer that has not the promised shape ends the
query with a failure. Three kinds of problems are soft: a query that comes to nothing in one of these
ways is as good as one without an answer.
-/

set_option autoImplicit false

namespace Scalpel.Client

variable [Halves]

variable {σ : Type}

def documentParam (uri : String) : String × Json :=
  ("textDocument", .obj [("uri", .str uri)])

def placeParams (uri : String) (place : Position) : Json.Fields :=
  [documentParam uri, ("position", place.toJson)]

def outline [Peer σ] (uri : String) : Action σ Client Json := do
  let answer ← request "textDocument/documentSymbol" (.obj [documentParam uri])
  return answer.orElse (.arr [])

def hover [Peer σ] (uri : String) (place : Position) : Action σ Client Json := do
  let answer ← request "textDocument/hover" (.obj (placeParams uri place))
  Session.settle (Hover.text answer)

def listedOrNone (answer : Json) : Outcome (List Json) :=
  if answer.isTruthy then answer.listed else .ok []

def completion [Peer σ] (uri : String) (place : Position) : Action σ Client (List Completion) := do
  let answer ← request "textDocument/completion" (.obj (placeParams uri place))
  Session.settle do
    let items ←
      match answer with
      | .obj (field :: rest) => (← (Json.obj (field :: rest)).optional "items" (.arr [])).listed
      | answer => listedOrNone answer
    items.mapM Completion.ofJson

def definition [Peer σ] (uri : String) (place : Position) : Action σ Client (List Location) := do
  let answer ← request "textDocument/definition" (.obj (placeParams uri place))
  Session.settle do
    let items ←
      match answer with
      | .obj (field :: rest) => pure [Json.obj (field :: rest)]
      | answer => listedOrNone answer
    items.mapM Location.ofJson

def references [Peer σ] (uri : String) (place : Position) (declaration : Json := .bool true) :
    Action σ Client (List Location) := do
  let answer ← request "textDocument/references" (.obj (placeParams uri place
    ++ [("context", .obj [("includeDeclaration", declaration)])]))
  Session.settle do (← listedOrNone answer).mapM Location.ofJson

def rename [Peer σ] (uri : String) (place : Position) (newName : Json) :
    Action σ Client WorkspaceEdit := do
  let answer ← request "textDocument/rename"
    (.obj (placeParams uri place ++ [("newName", newName)]))
  Session.settle (WorkspaceEdit.ofJson answer)

/-- The diagnostics of a document: asked for if the server can be asked, else those it published
last. -/
def diagnosticsOf [Peer σ] (uri : String) : Action σ Client (List Diagnostic) := do
  if (((← current).capabilities.field? "diagnosticProvider").getD .null).isTruthy then
    match ← Session.attempt (request "textDocument/diagnostic" (.obj [documentParam uri])) with
    | .error (.problem problem) =>
      if problem.kind = .protocol then pure () else Session.raise problem
    | .error failure => throw failure
    | .ok answer =>
      if (answer.field? "kind").getD .null == .str "full" then
        let diagnostics ← Session.settle do
          (← (← answer.optional "items" (.arr [])).listed).mapM Diagnostic.ofJson
        update (·.withDiagnostics uri diagnostics)
  return (← current).published uri

/-! ### Soft failures and symbols -/

def isSoft : Failure → Bool
  | .problem problem =>
    problem.kind = .requestTimeout || problem.kind = .protocol || problem.kind = .connectionClosed
  | _ => false

def softly {α : Type} (default : α) (query : Action σ Client α) : Action σ Client α := do
  match ← Session.attempt query with
  | .ok value => return value
  | .error failure => if isSoft failure then return default else throw failure

def symbols [Peer σ] (uri : String) : Action σ Client (List Symbol) := do
  let outline ← softly (.arr []) (outline uri)
  Session.settle (Outline.ofJson outline)

def findSymbol [Peer σ] (uri : String) (name : String) : Action σ Client (Option Symbol) := do
  let symbols ← symbols uri
  Session.settle ((NamePath.ofText name).first? symbols)

def findSymbols [Peer σ] (uri : String) (name : String) : Action σ Client (List Symbol) := do
  let symbols ← symbols uri
  Session.settle ((NamePath.ofText name).every symbols)

def symbolAt [Peer σ] (uri : String) (place : Position) : Action σ Client (Option Symbol) := do
  return Symbol.innermost? (← symbols uri) place

end Scalpel.Client
