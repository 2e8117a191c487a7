import Scalpel.Workspace.Navigation
import Scalpel.Edit.Operation

/-!
Edits of named symbols. An operation is checked, its document is brought up to date, its symbol is
looked up and its edit is worked out; then the edit is applied through the server, and only when that
has succeeded every touched document is written to its file. An operation never fails: what goes wrong
is its result. A batch ends with its first operation that does not succeed.
-/

set_option autoImplicit false

namespace Scalpel.Workspace

variable [Halves]

variable {σ : Type} [Peer σ]

/-- The text that a value must be, where its beginning is looked at. -/
def textual : Json → Outcome String
  | .str text => .ok text
  | value => .error (.misuse (.member value "startswith"))

def insertion (text : String) (symbol : Range) (code : Json) : Outcome (TextEdit String) :=
  match code with
  | .str code => .ok (Document.insertionAfter text symbol code)
  | code =>
    if (Document.placeAfter text symbol).2 then .error (.misuse (.joined code))
    else .error (.misuse (.extended code))

/-- The edit that an operation comes to for the symbol that it names. -/
def workOut (op : EditOperation) (uri : String) (symbol : Symbol) :
    Action σ Client WorkspaceEdit := do
  let code := op.code.orElse (.str "")
  match op.kind with
  | .insertAfter => do
    let document ← Session.settle ((← Client.current).documents.require uri)
    return .single uri (← Session.settle (insertion document.content symbol.range code))
  | .replace => return { changes := [(.uri uri, [{ range := symbol.range, newText := code }])] }
  | .delete => return .single uri { range := symbol.range, newText := "" }
  | .refactor => Client.rename uri symbol.selection.start (op.newName.orElse (.str ""))

/-- The text of an open document is written to its file. Where the file cannot be opened, the client
gets the text that the file has. -/
def writeMirror (language : String) (encoding : Json) (uri path : String) : Operation σ Unit := do
  let document ← onClient language do Session.settle ((← Client.current).documents.require uri)
  match ← putText encoding path document.content with
  | none => pure ()
  | some error => do
    match ← attempt (synchronize language uri) with
    | .ok _ | .error (.problem _) => raise (.mirrorDesync path uri error)
    | .error failure => throw failure

/-- The documents of an edit have the texts that their files have now; the result is their uris and the
paths of their files. -/
def bringUpToDate (language : String) (edit : WorkspaceEdit) :
    Operation σ (List (String × String)) := do
  let targets ← edit.names.mapM fun name => do
    let uri ← settle name.textual
    return (uri, (← locate uri).2)
  for (uri, _) in targets do
    synchronize language uri
  return targets

def writeMirrors (language : String) (encoding : Json) (targets : List (String × String)) :
    Operation σ Unit := do
  for (uri, path) in targets do
    writeMirror language encoding uri path

/-- An edit is applied through the server; the result is what is to be written. -/
def submit (language : String) (edit : WorkspaceEdit) (label : String) :
    Operation σ (List (String × String)) := do
  let targets ← bringUpToDate language edit
  onClient language (Client.applyEdit edit label)
  return targets

/-- An edit is applied through the server and written to the files. -/
def applyEdit (language : String) (edit : WorkspaceEdit) (label : String) : Operation σ Unit := do
  let settings ← needSettings
  let targets ← submit language edit label
  writeMirrors language settings.encoding targets

def extent (edit : WorkspaceEdit) : String :=
  toString edit.editCount ++ " edit(s) in " ++ toString edit.names.length ++ " file(s)"

def describe (op : EditOperation) (file : String) (edit : WorkspaceEdit) : String :=
  let symbol := "'" ++ op.symbol.shown ++ "'"
  match op.kind with
  | .insertAfter => "Inserted code after " ++ symbol ++ " in " ++ file
  | .replace => "Replaced " ++ symbol ++ " in " ++ file
  | .delete => "Deleted " ++ symbol ++ " from " ++ file
  | .refactor =>
    "Renamed " ++ symbol ++ " to '" ++ op.newName.shown ++ "': " ++ extent edit

def symbolOf (op : EditOperation) (language uri : String) : Operation σ Symbol := do
  let name ← settle (textual op.symbol)
  match ← onClient language (Client.findSymbol uri name) with
  | some symbol => return symbol
  | none => raise (.symbolNotFound name uri)

/-- The symbol that an operation is about, with the language and the uri of its document, which has the
text that its file has now. -/
def findTarget (op : EditOperation) : Operation σ (String × String × Symbol) := do
  settle op.check
  let (language, uri) ← prepare (← settle (textual op.uri))
  return (language, uri, ← symbolOf op language uri)

def tryPerform (op : EditOperation) : Operation σ EditResult := do
  let (language, uri, symbol) ← findTarget op
  let edit ← onClient language (workOut op uri symbol)
  let file ← settle (Uri.toRelative uri (← get).root)
  if op.dryRun then
    return { success := true, message := "Dry run: " ++ extent edit, edits := some edit,
             dryRun := true }
  if edit.isEmpty then
    return { success := true, message := "No changes for '" ++ op.symbol.shown ++ "'",
             edits := some edit }
  applyEdit language edit (op.kind.name ++ " " ++ op.symbol.shown)
  return { success := true, message := describe op file edit, edits := some edit }

def failed (op : EditOperation) : Failure → EditResult
  | .problem problem =>
    { success := false, message := problem.message, error := some problem.kind.code
      dryRun := op.dryRun }
  | failure =>
    { success := false, message := "Unexpected error: " ++ failure.message
      error := some Problem.Kind.general.code, dryRun := op.dryRun }

def perform (op : EditOperation) : Operation σ EditResult := do
  match ← attempt (tryPerform op) with
  | .ok result => return result
  | .error failure => return failed op failure

/-- Operations are performed in order, up to and including the first one that does not succeed. -/
def performAll : List EditOperation → Operation σ (List EditResult)
  | [] => return []
  | op :: rest => do
    let result ← perform op
    if result.success then return result :: (← performAll rest)
    return [result]

end Scalpel.Workspace
