import Scalpel.Workspace.Basic

/-!
The files of a workspace. A document is named by a uri or by a path below the root, and must lie
within the root when all links are followed. Files are read and written in the encoding of the
settings. A file that is written is emptied when it is opened, before its new text is encoded.
-/

set_option autoImplicit false

namespace Scalpel.Workspace

variable [Halves]

variable {σ : Type}

def locate (uri : String) : Operation σ (String × String) := do
  let w ← get
  let files := w.world.files
  let uri ← settle (Uri.normalize files.workingDirectory uri w.root)
  return (uri, ← settle (files.resolveDocument uri w.root))

/-- The encoding that the settings name; UTF-8 unless one is named. -/
def charsetOf (encoding : Json) : Outcome Charset :=
  match encoding with
  | .null => .ok .utf8
  | .str name => Charset.find name
  | value => .error (.misuse (.option "encoding" value))

/-- A name of an encoding must be a text, whole and without the character that ends texts. -/
def checkEncoding (encoding : Json) : Outcome Unit :=
  match encoding with
  | .null => .ok ()
  | .str name => do
    let _ ← Charset.utf8.encode name
    if name.toList.contains '\x00' then .error (.invalid "embedded null character")
  | value => .error (.misuse (.option "encoding" value))

/-- The text of a file: the file is opened, then the encoding is looked up, then the bytes are
read. -/
def textOf (files : FileTree) (encoding : Json) (uri path : String) : Outcome String := do
  checkEncoding encoding
  match files.readFile path with
  | .error fault => fail (.fileAccess uri path (fault.about path))
  | .ok bytes => do (← charsetOf encoding).decode bytes

def noted (w : Workspace σ) (path : String) : Workspace σ :=
  { w with opened := path :: w.opened }

def note (path : String) : Operation σ Unit :=
  modify (·.noted path)

def readText (uri : String) : Operation σ String := do
  let settings ← needSettings
  let (uri, path) ← locate uri
  note path
  settle (textOf (← get).world.files settings.encoding uri path)

/-- A file gets a new text; the failure to open it is told apart from all later ones. -/
def putText (encoding : Json) (path text : String) : Operation σ (Option OsError) := do
  note path
  settle (checkEncoding encoding)
  match (← get).world.files.openForWriting path with
  | .error fault => return some (fault.about path)
  | .ok (files, place, mode) => do
    modifyWorld fun world => { world with files }
    let charset ← settle (charsetOf encoding)
    let bytes ← settle (charset.encode text)
    modifyWorld fun world => { world with files := world.files.put place (.file bytes mode) }
    return none

/-- Directories with missing ones above them, for names from the outermost on. -/
def makeDirectories (files : FileTree) : List String → FileTree × Option OsError
  | [] => (files, none)
  | path :: rest =>
    if files.exists? path && !rest.isEmpty then makeDirectories files rest
    else
      match files.makeDirectory path with
      | .ok files => makeDirectories files rest
      | .error fault =>
        if (fault = .exists && !rest.isEmpty) || files.isDirectory path then
          makeDirectories files rest
        else (files, some (fault.about path))

/-- The directories on the way to an absolute path without detours, the path included, the outermost
first. -/
def waysTo (path : String) : List String :=
  let names := (Path.Parts.of path.toList).names
  let ways := (List.range (names.length + 1)).map fun count =>
    String.ofList (Path.Parts.text { root := ['/'], names := names.take count })
  if names.isEmpty then ways else ways.drop 1

/-- A document's file gets a new text; missing directories are made. -/
def writeText (uri text : String) : Operation σ Unit := do
  let settings ← needSettings
  let (uri, path) ← locate uri
  let directory := String.ofList (Path.directory path.toList)
  let (files, error) := makeDirectories (← get).world.files (waysTo directory)
  modifyWorld fun world => { world with files }
  match error with
  | some error => raise (.fileAccess uri path error "write")
  | none =>
    match ← putText settings.encoding path text with
    | some error => raise (.fileAccess uri path error "write")
    | none => pure ()

end Scalpel.Workspace
