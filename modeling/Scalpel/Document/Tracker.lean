import Scalpel.Document.Text

/-!
The open documents of a client: for each uri the text that the server should have now and the version
last sent to it, in the order in which the documents were opened. A document opened again keeps its
place.
-/

set_option autoImplicit false

namespace Scalpel

structure OpenDocument where
  uri : String
  version : Int
  content : String
  languageId : Json

/-- The open documents, at most one for each uri. -/
structure Tracker where
  documents : List OpenDocument := []

namespace Tracker

def get? (t : Tracker) (uri : String) : Option OpenDocument :=
  t.documents.find? fun document => document.uri = uri

def isOpen (t : Tracker) (uri : String) : Bool :=
  (t.get? uri).isSome

def require (t : Tracker) (uri : String) : Outcome OpenDocument :=
  match t.get? uri with
  | some document => .ok document
  | none => fail (.documentNotOpen uri)

def uris (t : Tracker) : List String :=
  t.documents.map (·.uri)

/-- A document in the place of the one with its uri, or at the end. -/
def put (t : Tracker) (document : OpenDocument) : Tracker :=
  if t.isOpen document.uri then
    { documents := t.documents.map fun old => if old.uri = document.uri then document else old }
  else { documents := t.documents ++ [document] }

def openNew (t : Tracker) (uri content : String) (languageId : Json) : Tracker × OpenDocument :=
  let document : OpenDocument := { uri, version := 1, content, languageId }
  (t.put document, document)

def update (t : Tracker) (uri : String) (changes : List ContentChange) :
    Outcome (Tracker × OpenDocument) := do
  let document ← t.require uri
  let document := { document with
    content := Document.applyChanges document.content changes
    version := document.version + 1 }
  return (t.put document, document)

/-- The latest update of a document undone, if nothing has updated it since. -/
def revert (t : Tracker) (uri content : String) (version : Int) : Tracker :=
  match t.get? uri with
  | none => t
  | some document =>
    if document.version = version + 1 then t.put { document with content, version } else t

def remove (t : Tracker) (uri : String) : Tracker :=
  { documents := t.documents.filter fun document => document.uri ≠ uri }

def resetVersions (t : Tracker) : Tracker :=
  { documents := t.documents.map fun document => { document with version := 1 } }

end Tracker

end Scalpel
