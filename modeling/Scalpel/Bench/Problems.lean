import Scalpel.Bench.Files
import Scalpel.Json.Access

/-!
Problems put together on a bench from given parts. The parts of each kind have names and an order; a
part may be given in its place or by name. What is given need not have the type that a part should
have, so an answer shows the parts as they were given and only the texts made of them are texts.
-/

set_option autoImplicit false

namespace Scalpel.Bench

open Scalpel

variable [Halves]

/-! ### Parts -/

/-- Parts by name, from those given in their places and those given by name. The first `needed` names
must have a part; no name has two. -/
def bound (names : List String) (needed : Nat) (places : List Json) (named : Json.Fields) :
    Outcome Json.Fields := do
  let placed := names.zip places
  let refuse (name : String) : Outcome Json.Fields := .error (.misuse (.unknownName name))
  if names.length < places.length then refuse "too many"
  else
    match named.find? fun part => !names.contains part.1 || (placed.lookup part.1).isSome with
    | some part => refuse part.1
    | none =>
      match (names.take needed).find? fun name =>
        (placed.lookup name).isNone && (named.lookup name).isNone with
      | some name => refuse name
      | none => return placed ++ named

def partNames : Problem.Kind → List String × Nat
  | .binaryNotFound => (["command", "context"], 1)
  | .requestTimeout => (["method", "timeout", "context"], 2)
  | .protocol => (["message", "rpc_code", "data", "context"], 1)
  | .documentNotOpen => (["uri"], 1)
  | .symbolNotFound => (["name", "uri"], 2)
  | .applyEditRejected => (["reason", "context"], 0)
  | .fileAccess => (["uri", "path", "error", "operation"], 3)
  | .unsupportedLanguage => (["language"], 1)
  | _ => (["message", "context", "recovery_actions", "original_error"], 1)

/-- An object all of whose fields are known, and some of which must be there. -/
def record (known needed : List String) (value : Json) : Outcome Json.Fields := do
  match value with
  | .obj given => bound known 0 [] given >>= fun given =>
    match needed.find? fun name => (given.lookup name).isNone with
    | some name => .error (.misuse (.unknownName name))
    | none => .ok given
  | value => .error (.misuse (.listed value))

/-! ### Errors of the operating system -/

def waitingNumbers : List Int := [11, 114, 115]

/-- An error of the operating system from its parts: its full text, and its words if it has any. With
two to five parts these are a number, words, a path, a part without meaning and a second path. -/
def osError (parts : List Json) : Outcome (String × Json) :=
  let head (number words : Json) : String := "[Errno " ++ number.shown ++ "] " ++ words.shown
  let waiting (number : Json) : Bool :=
    match number with
    | .int n => waitingNumbers.contains n
    | _ => false
  match parts with
  | [] => .ok ("", .null)
  | [text] => .ok (text.shown, .null)
  | number :: words :: rest =>
    if 3 < rest.length then
      .ok ("(" ++ ", ".intercalate (parts.map Json.quoted) ++ ")", .null)
    else
      let path := rest.headD .null
      let second := (rest.drop 2).headD .null
      match path with
      | .null => .ok (head number words, words)
      | path =>
        let counted := waiting number &&
          (match path with
            | .int _ | .bool _ | .float _ => true
            | _ => false)
        if counted then
          match path with
          | .float x => .error (.misuse (.whole (.float x)))
          | _ => .ok (head number words, words)
        else
          let more := if second.isGiven then " -> " ++ second.quoted else ""
          .ok (head number words ++ ": " ++ path.quoted ++ more, words)

/-! ### Problems -/

def mark (value : Json) : Option String :=
  if value.isTruthy then some value.shown else none

def secondsOf : Json → Outcome Float
  | .str _ => .error (.invalid "Unknown format code 'f' for object of type 'str'")
  | value => value.number

/-- The fields of a context: an object with known fields when it was given by name. A value given in
its place is no context. -/
def contextFields (inPlace : Bool) (parts : Json.Fields) : Outcome Json.Fields :=
  match parts.lookup "context" with
  | none => .ok []
  | some given =>
    if !inPlace then
      record ["operation", "uri", "language", "component", "timestamp", "additional_info"] [] given
    else if given.isTruthy then .error (.misuse (.member given "timestamp"))
    else .ok []

def displayed (context : Json.Fields) : Problem.Context :=
  let part (name : String) : Option String := mark ((context.lookup name).getD .null)
  { operation := part "operation", uri := part "uri", language := part "language"
    component := part "component" }

def adviceFields (parts : Json.Fields) : Outcome (List Json.Fields) := do
  let given := ((parts.lookup "recovery_actions").getD .null).orElse (.arr [])
  let listed ← given.listed
  listed.mapM (record ["description", "command", "automated"] ["description"])

/-- A problem, and the parts of its object that are to be shown as they were given. -/
structure Told where
  problem : Problem
  given : Json.Fields := []
  context : Json.Fields := []

def Told.about (problem : Problem) (name : String) (value : Json) : Told :=
  let context := [(name, value)]
  { problem := { problem with context := displayed context }, context }

/-- A problem with a message of its own, from its parts. The cause is the text of an error when it was
given by name. -/
def plainlyTold (kind : Problem.Kind) (causeInPlace : Bool) (parts context : Json.Fields) :
    Outcome Told := do
  let part (fields : Json.Fields) (name : String) : Json := (fields.lookup name).getD .null
  let cause := part parts "original_error"
  let advice ← adviceFields parts
  let command (fields : Json.Fields) : Option String := mark (part fields "command")
  let problem : Problem :=
    { kind, message := (part parts "message").shown, context := displayed context
      cause := if causeInPlace then mark cause
        else if cause.isGiven then some cause.shown else none
      advice := advice.map fun fields =>
        { description := (part fields "description").shown, command := command fields } }
  let actions := advice.map fun fields =>
    Json.obj [("description", part fields "description"), ("command", part fields "command"),
      ("automated", (fields.lookup "automated").getD (.bool false))]
  return {
    problem, context
    given := [("message", part parts "message"), ("recovery_actions", .arr actions)] }

def fileTold (parts : Json.Fields) : Outcome Told := do
  let part (name : String) (default : Json) : Json := (parts.lookup name).getD default
  match part "error" .null with
  | .arr error =>
    let (full, words) ← osError error
    let operation := (part "operation" (.str "read")).shown
    let uri := part "uri" .null
    let problem := Problem.fileAccess uri.shown (part "path" .null).shown
      { number := none, text := (words.orElse (.str full)).shown } operation
    return {
      problem := { problem with cause := some full, context := { problem.context with uri := mark uri } }
      context := [("uri", uri)] }
  | value => .error (.misuse (.member value "strerror"))

def told (kind : Problem.Kind) (places : List Json) (named : Json) : Outcome Told := do
  let (names, needed) := partNames kind
  let inPlace (name : String) : Bool := (names.take places.length).contains name
  let parts ← bound names needed places ((fields named).map fun (name, value) =>
    (if name = "os_error" then "error" else name, value))
  let fields ← contextFields (inPlace "context") parts
  let context := displayed fields
  let part (name : String) : Json := (parts.lookup name).getD .null
  let shown (name : String) : String := (part name).shown
  match kind with
  | .binaryNotFound =>
    return { problem := .binaryNotFound (shown "command") context, context := fields }
  | .requestTimeout =>
    let seconds ← secondsOf (part "timeout")
    return { problem := .requestTimeout (shown "method") seconds context, context := fields }
  | .protocol =>
    return {
      problem := .answered (shown "message") (part "rpc_code") (part "data") context
      given := [("message", part "message")]
      context := fields }
  | .documentNotOpen => return .about (.documentNotOpen (shown "uri")) "uri" (part "uri")
  | .symbolNotFound =>
    return .about (.symbolNotFound (shown "name") (shown "uri")) "uri" (part "uri")
  | .applyEditRejected =>
    return { problem := .applyEditRejected (part "reason") context, context := fields }
  | .fileAccess =>
    if inPlace "error" then .error (.misuse (.member (part "error") "strerror")) else fileTold parts
  | .unsupportedLanguage =>
    return .about (.unsupportedLanguage (shown "language")) "language" (part "language")
  | kind => plainlyTold kind (inPlace "original_error") parts fields

def replacing (given : Json.Fields) (value : Json) : Json :=
  .obj ((fields value).map fun (name, old) => (name, (given.lookup name).getD old))

def Told.toJson (told : Told) (time : String) : Json :=
  let object := told.problem.toJson time
  let context := replacing (told.context.filter fun part => part.1 ≠ "timestamp")
    (get object "context")
  replacing (told.given ++ [("context", context)]) object

end Scalpel.Bench
