import Scalpel.Workspace.Files
import Scalpel.Session.Queries

/-!
Questions about the documents of a workspace. Before a question is asked, the client of the document
runs and has the text that the file has now. A question that comes to nothing for one of the soft
problems has an empty answer.
-/

set_option autoImplicit false

namespace Scalpel.Workspace

variable [Halves]

variable {σ : Type} [Peer σ]

/-- The client of a language has the text that a document's file has now. -/
def synchronize (language uri : String) : Operation σ Unit := do
  let content ← readText uri
  onClient language (Client.adopt uri content)

/-- The client of a document runs and has its text; the result is the language and the uri. -/
def prepare (uri : String) : Operation σ (String × String) := do
  let (uri, _) ← locate uri
  let language ← needClientFor uri
  synchronize language uri
  return (language, uri)

def ask {α : Type} (uri : String) (question : String → Action σ Client α) : Operation σ α := do
  let (language, uri) ← prepare uri
  onClient language (question uri)

def findSymbol (uri name : String) : Operation σ (Option Symbol) :=
  ask uri fun uri => Client.findSymbol uri name

def symbols (uri : String) : Operation σ (List Symbol) :=
  ask uri Client.symbols

def symbolAt (uri : String) (place : Position) : Operation σ (Option Symbol) :=
  ask uri fun uri => Client.symbolAt uri place

def references (uri name : String) (declaration : Json := .bool true) :
    Operation σ (List Location) :=
  ask uri fun uri => do
    match ← Client.findSymbol uri name with
    | none => return []
    | some symbol =>
      Client.softly [] (Client.references uri symbol.selection.start declaration)

def definition (uri : String) (place : Position) : Operation σ (List Location) :=
  ask uri fun uri => Client.softly [] (Client.definition uri place)

def hover (uri : String) (place : Position) : Operation σ Json :=
  ask uri fun uri => Client.softly .null (Client.hover uri place)

def completion (uri : String) (place : Position) : Operation σ (List Completion) :=
  ask uri fun uri => Client.softly [] (Client.completion uri place)

def diagnostics (uri : String) : Operation σ (List Diagnostic) :=
  ask uri Client.diagnosticsOf

end Scalpel.Workspace
