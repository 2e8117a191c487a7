import Scalpel.Decimal.Shortest
import Scalpel.Json.Basic
import Scalpel.Json.Writer

/-!
The problems that a caller is told about. Each has a kind with a stable code and a severity, a
message, and the context in which it arose. The second half of the file lists the problems that the
library reports, one function for each cause; all wording is here.
-/

set_option autoImplicit false

namespace Scalpel

variable [Halves]

/-- An error of the operating system: its number, its words and the path it is about. -/
structure OsError where
  number : Option Int
  text : String
  path : Option String := none
deriving DecidableEq, Repr

def OsError.message (e : OsError) : String :=
  match e.number, e.path with
  | none, _ => e.text
  | some n, none => "[Errno " ++ toString n ++ "] " ++ e.text
  | some n, some path => "[Errno " ++ toString n ++ "] " ++ e.text ++ ": " ++ Text.quoted path

def OsError.reason (e : OsError) : String :=
  if e.number.isSome && !e.text.isEmpty then e.text else e.message

namespace Problem

inductive Kind where
  | general
  | binaryNotFound
  | securityViolation
  | processSpawn
  | restartInProgress
  | handshake
  | handshakeTimeout
  | notInitialized
  | requestTimeout
  | connectionClosed
  | protocol
  | documentNotOpen
  | symbolNotFound
  | applyEditRejected
  | mirrorDesync
  | invalidOperation
  | fileAccess
  | configuration
  | unsupportedLanguage
deriving DecidableEq, Repr

def Kind.name : Kind → String
  | .general => "TomosError"
  | .binaryNotFound => "BinaryNotFoundError"
  | .securityViolation => "SecurityViolationError"
  | .processSpawn => "ProcessSpawnError"
  | .restartInProgress => "RestartInProgressError"
  | .handshake => "HandshakeError"
  | .handshakeTimeout => "HandshakeTimeoutError"
  | .notInitialized => "NotInitializedError"
  | .requestTimeout => "RequestTimeoutError"
  | .connectionClosed => "ConnectionClosedError"
  | .protocol => "ProtocolError"
  | .documentNotOpen => "DocumentNotOpenError"
  | .symbolNotFound => "SymbolNotFoundError"
  | .applyEditRejected => "ApplyEditRejectedError"
  | .mirrorDesync => "MirrorDesyncError"
  | .invalidOperation => "InvalidOperationError"
  | .fileAccess => "FileAccessError"
  | .configuration => "ConfigurationError"
  | .unsupportedLanguage => "UnsupportedLanguageError"

def Kind.all : List Kind :=
  [.general, .binaryNotFound, .securityViolation, .processSpawn, .restartInProgress, .handshake,
    .handshakeTimeout, .notInitialized, .requestTimeout, .connectionClosed, .protocol,
    .documentNotOpen, .symbolNotFound, .applyEditRejected, .mirrorDesync, .invalidOperation,
    .fileAccess, .configuration, .unsupportedLanguage]

def Kind.ofName? (name : String) : Option Kind :=
  Kind.all.find? fun kind => kind.name = name

def Kind.code : Kind → String
  | .general => "INTERNAL_ERROR"
  | .binaryNotFound => "BINARY_NOT_FOUND"
  | .securityViolation => "SECURITY_VIOLATION"
  | .processSpawn => "PROCESS_SPAWN_FAILURE"
  | .restartInProgress => "RESTART_IN_PROGRESS"
  | .handshake => "HANDSHAKE_FAILED"
  | .handshakeTimeout => "HANDSHAKE_TIMEOUT"
  | .notInitialized => "NOT_INITIALIZED"
  | .requestTimeout => "REQUEST_TIMEOUT"
  | .connectionClosed => "CONNECTION_CLOSED"
  | .protocol => "PROTOCOL_ERROR"
  | .documentNotOpen => "DOCUMENT_NOT_OPEN"
  | .symbolNotFound => "SYMBOL_NOT_FOUND"
  | .applyEditRejected => "APPLY_EDIT_REJECTED"
  | .mirrorDesync => "MIRROR_DESYNC"
  | .invalidOperation => "INVALID_OPERATION"
  | .fileAccess => "FILE_ACCESS_ERROR"
  | .configuration => "INVALID_CONFIG"
  | .unsupportedLanguage => "UNSUPPORTED_LANGUAGE"

def Kind.severity : Kind → String
  | .securityViolation => "critical"
  | .binaryNotFound | .processSpawn | .handshake | .handshakeTimeout | .mirrorDesync
  | .configuration => "high"
  | .restartInProgress | .requestTimeout | .symbolNotFound | .invalidOperation => "low"
  | _ => "medium"

def Kind.lineage (kind : Kind) : List Kind :=
  match kind with
  | .general => [.general]
  | .handshakeTimeout => [.handshakeTimeout, .handshake, .general]
  | kind => [kind, .general]

/-- A way out that is suggested with a problem. -/
structure Advice where
  description : String
  command : Option String := none
  automated : Bool := false

structure Context where
  operation : Option String := none
  uri : Option String := none
  language : Option String := none
  component : Option String := none
  additional : Json.Fields := []

end Problem

/-- A problem that a caller is told about. For an error answered by a server, `rpcCode` and `data`
are the code and the data of that answer. -/
structure Problem where
  kind : Problem.Kind
  message : String
  context : Problem.Context := {}
  advice : List Problem.Advice := []
  cause : Option String := none
  rpcCode : Json := .null
  data : Json := .null

namespace Problem

def methodNotFound : Int := -32601

def internalError : Int := -32603

/-- Whether a server answered that it does not know the method. The code may be written as a
floating-point number. -/
def isMethodNotFound (p : Problem) : Bool :=
  match p.rpcCode with
  | .int n => n = methodNotFound
  | .float x => x == Float.ofInt methodNotFound
  | _ => false

private def adviceLines : Nat → List Advice → List String
  | _, [] => []
  | n, advice :: rest =>
    let line := "   " ++ toString n ++ ". " ++ advice.description
    let run :=
      match advice.command with
      | some command => if command.isEmpty then [] else ["      Run: " ++ command]
      | none => []
    line :: run ++ adviceLines (n + 1) rest

private def contextLine (label : String) : Option String → List String
  | some text => if text.isEmpty then [] else ["   " ++ label ++ ": " ++ text]
  | none => []

def formatted (p : Problem) : String :=
  let advice := if p.advice.isEmpty then [] else "" :: "Suggested actions:" :: adviceLines 1 p.advice
  "\n".intercalate
    (["[Error] " ++ p.message, "   Code: " ++ p.kind.code]
      ++ contextLine "Operation" p.context.operation
      ++ contextLine "Document" p.context.uri
      ++ contextLine "Language" p.context.language
      ++ advice)

def toJson (time : String) (p : Problem) : Json :=
  .obj [
    ("name", .str p.kind.name),
    ("code", .str p.kind.code),
    ("message", .str p.message),
    ("severity", .str p.kind.severity),
    ("context", .obj [
      ("operation", .ofText? p.context.operation),
      ("uri", .ofText? p.context.uri),
      ("language", .ofText? p.context.language),
      ("component", .ofText? p.context.component),
      ("timestamp", .str time),
      ("additional_info", .obj p.context.additional)]),
    ("recovery_actions", .arr (p.advice.map fun advice => .obj [
      ("description", .str advice.description),
      ("command", .ofText? advice.command),
      ("automated", .bool advice.automated)])),
    ("original_error", .ofText? p.cause)]

/-! ### The problems that are reported -/

def binaryNotFound (command : String) (context : Context := {}) : Problem :=
  { kind := .binaryNotFound
    message := "Language server binary '" ++ command ++ "' not found. Please install it first."
    context
    advice := [
      { description := "Install '" ++ command ++ "' or put it on PATH" },
      { description := "Point the server command at an absolute path in .tomos/config.json" }] }

def shellCharacters (command : Json) (found : List Char) (context : Context) : Problem :=
  { kind := .securityViolation
    message := "Refusing language server command " ++ command.quoted
      ++ ": contains shell metacharacters "
      ++ Json.quoted (.arr (found.map fun c => .str (String.singleton c)))
    context }

def emptyPath : Problem :=
  { kind := .securityViolation, message := "relative_path must not be empty" }

def nullInPath : Problem :=
  { kind := .securityViolation, message := "relative_path must not contain null bytes" }

def outsideRoot (path root : String) (context : Context) : Problem :=
  { kind := .securityViolation
    message := "Path traversal denied: '" ++ path ++ "' resolves outside '" ++ root ++ "'"
    context }

def spawnFailed (language binary : String) (e : OsError) : Problem :=
  { kind := .processSpawn
    message := "Failed to start " ++ language ++ " language server '" ++ binary ++ "': " ++ e.message
    context :=
      { operation := some "spawn", language := some language, component := some "process" }
    cause := some e.message }

def restarting (language : String) : Problem :=
  { kind := .restartInProgress
    message := language ++ " language server is restarting"
    context := { language := some language } }

def handshakeContext (language : String) : Context :=
  { operation := some "initialize", language := some language, component := some "client" }

def handshakeTimeout (language : String) (seconds : Float) (cause : Problem) : Problem :=
  { kind := .handshakeTimeout
    message := language ++ " language server did not answer initialize within "
      ++ Decimal.fixedText 1 seconds ++ "s"
    context := handshakeContext language
    cause := some cause.message }

def handshakeFailed (language : String) (cause : Problem) : Problem :=
  { kind := .handshake
    message := language ++ " language server initialize failed: " ++ cause.message
    context := handshakeContext language
    cause := some cause.message }

def handshakeMalformed (language : String) : Problem :=
  { kind := .handshake
    message := language ++ " language server returned a malformed initialize result"
    context := handshakeContext language }

def clientShutDown (language : String) : Problem :=
  { kind := .notInitialized, message := language ++ " language server client is shut down" }

def alreadyInitializing (language : String) : Problem :=
  { kind := .notInitialized, message := language ++ " language server is already initializing" }

def notInitialized (language state : String) : Problem :=
  { kind := .notInitialized
    message := language ++ " language server is not initialized (" ++ state ++ ")"
    context := { language := some language } }

def requestTimeout (method : String) (seconds : Float) (context : Context := {}) : Problem :=
  { kind := .requestTimeout
    message := "Request '" ++ method ++ "' timed out after " ++ Decimal.fixedText 1 seconds ++ "s"
    context }

def closed (message : String) (cause : Option String := none) : Problem :=
  { kind := .connectionClosed, message, cause }

def closedBefore (method : String) : Problem :=
  closed ("Connection closed; cannot send '" ++ method ++ "'")

def answered (message : String) (rpcCode : Json := .null) (data : Json := .null)
    (context : Context := {}) : Problem :=
  { kind := .protocol, message, rpcCode, data, context }

def documentNotOpen (uri : String) : Problem :=
  { kind := .documentNotOpen
    message := "Document " ++ uri ++ " is not open. Call open_document first."
    context := { uri := some uri } }

def symbolNotFound (name uri : String) : Problem :=
  { kind := .symbolNotFound
    message := "Symbol '" ++ name ++ "' not found in " ++ uri
    context := { uri := some uri } }

def applyEditRejected (reason : Json) (context : Context := {}) : Problem :=
  { kind := .applyEditRejected
    message := "Language server rejected the edit: "
      ++ (reason.orElse (.str "Unknown reason")).shown
    context }

def mirrorDesync (path uri : String) (e : OsError) : Problem :=
  { kind := .mirrorDesync
    message := "Edit applied by the language server but writing " ++ path ++ " failed: " ++ e.message
    context := { operation := some "write_mirror", uri := some uri }
    cause := some e.message }

def invalidOperation (message : String) (context : Context) : Problem :=
  { kind := .invalidOperation, message, context }

/-- A file could not be read or written; `operation` is the verb. -/
def fileAccess (uri path : String) (e : OsError) (operation : String := "read") : Problem :=
  { kind := .fileAccess
    message := "Cannot " ++ operation ++ " " ++ path ++ ": " ++ e.reason
    context := { operation := some (operation ++ "_file"), uri := some uri }
    cause := some e.message }

def configuration (message : String) (context : Context := {}) (cause : Option String := none) :
    Problem :=
  { kind := .configuration, message, context, cause }

def unsupportedLanguage (language : String) : Problem :=
  { kind := .unsupportedLanguage
    message := "Unsupported language: " ++ language
    context := { language := some language } }

end Problem

end Scalpel
