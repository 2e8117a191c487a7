import Scalpel.Document.Edit

/-!
What a caller asks for: an edit of one named symbol; and what the caller is told afterwards. The
parts of an operation are kept as they were given, because they may come from a file.
-/

set_option autoImplicit false

namespace Scalpel

variable [Halves]

inductive EditKind where
  | insertAfter
  | replace
  | delete
  | refactor
deriving DecidableEq, Repr

namespace EditKind

def name : EditKind → String
  | .insertAfter => "insert_after"
  | .replace => "replace"
  | .delete => "delete"
  | .refactor => "refactor"

def ofName? (name : String) : Option EditKind :=
  [.insertAfter, .replace, .delete, .refactor].find? fun kind => kind.name = name

def ofJson (value : Json) : Outcome EditKind :=
  let unknown : Outcome EditKind := .error (.notNamed value "EditOperationType")
  match value with
  | .str name =>
    match ofName? name with
    | some kind => .ok kind
    | none => unknown
  | _ => unknown

end EditKind

structure EditOperation where
  kind : EditKind
  uri : Json
  symbol : Json
  code : Json := .null
  newName : Json := .null
  dryRun : Bool := false

namespace EditOperation

/-- The operation that an entry of a batch gives. The symbol may be given as a target. -/
def ofJson (entry : Json) : Outcome EditOperation := do
  let kind ← EditKind.ofJson (← entry.need "type")
  let uri ← entry.need "uri"
  let symbol ← entry.optional "symbol_name" .null
  let target ← if symbol.isTruthy then pure .null else entry.optional "target" .null
  let code ← entry.optional "code" .null
  let newName ← entry.optional "new_name" .null
  let dryRun ← entry.optional "dry_run" (.bool false)
  return {
    kind, uri, code, newName
    symbol := symbol.orElse (target.orElse (.str ""))
    dryRun := dryRun.isTruthy }

def toJson (op : EditOperation) : Json :=
  .obj [("type", .str op.kind.name), ("uri", op.uri), ("symbol_name", op.symbol), ("code", op.code),
    ("new_name", op.newName), ("dry_run", .bool op.dryRun)]

def check (op : EditOperation) : Outcome Unit := do
  let refuse (message : String) : Outcome Unit :=
    fail (.invalidOperation message
      { operation := some op.kind.name, uri := if op.uri.isGiven then some op.uri.shown else none })
  if !op.uri.isTruthy then refuse "Edit operation has no uri"
  if !op.symbol.isTruthy then refuse "Edit operation has no symbol name"
  if (op.kind = .insertAfter || op.kind = .replace) && !op.code.isGiven then
    refuse (op.kind.name ++ " requires code")
  if op.kind = .refactor && !op.newName.isTruthy then refuse "refactor requires new_name"

end EditOperation

structure EditResult where
  success : Bool
  message : String
  edits : Option WorkspaceEdit := none
  error : Option String := none
  dryRun : Bool := false

def EditResult.toJson (r : EditResult) (naming : DocumentName → String := DocumentName.written) :
    Json :=
  .obj ([("success", .bool r.success), ("message", .str r.message)]
    ++ (match r.edits with
      | some edits => [("edits", edits.editsJson naming)]
      | none => [])
    ++ (match r.error with
      | some code => [("error", .str code)]
      | none => [])
    ++ (if r.dryRun then [("dry_run", .bool true)] else []))

end Scalpel
