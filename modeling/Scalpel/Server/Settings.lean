import Scalpel.Files.Canonical
import Scalpel.Json.Access
import Scalpel.Text.Charset
import Scalpel.Text.Glob

/-!
How the language server of a language is launched, and which files go to it. The command and the
language id are kept as they were given; only their presence is checked. Files are routed by the
endings of their names.
-/

set_option autoImplicit false

namespace Scalpel

variable [Halves]

/-- How to launch the language server of one language. -/
structure ServerConfig where
  language : String
  command : Json
  args : List String := []
  extensions : List String := []
  languageId : Json := .null
  initializationOptions : Json := .null

namespace ServerConfig

def dotted (extension : String) : String :=
  if extension.toList.head? = some '.' then extension else "." ++ extension

def extensionOf : Json → Outcome String
  | .str text => .ok (dotted text)
  | value => .error (.misuse (.member value "startswith"))

def make (language : String) (command : Json) (args extensions : List Json) (languageId : Json)
    (options : Json) : Outcome ServerConfig := do
  if language.isEmpty then fail (.configuration "language must not be empty")
  if !command.isTruthy then
    fail (.configuration ("command for '" ++ language ++ "' must not be empty"))
  let words := args.filterMap fun
    | .str word => some word
    | _ => none
  if words.length ≠ args.length then
    fail (.configuration ("args for '" ++ language ++ "' must be a list of strings"))
  let extensions ← extensions.mapM extensionOf
  return {
    language, command, args := words, extensions
    languageId := if languageId.isGiven then languageId else .str language
    initializationOptions := options }

def ofJson (language : String) (entry : Json) : Outcome ServerConfig := do
  if !(← entry.mentions "command") then
    fail (.configuration ("server config for '" ++ language ++ "' is missing 'command'"))
  let command ← entry.need "command"
  let args ← (← entry.optional "args" (.arr [])).listed
  let extensions ← (← entry.optional "extensions" (.arr [])).listed
  let languageId ← entry.optional "language_id" .null
  let options ← entry.optional "initialization_options" .null
  make language command args extensions languageId options

/-- The table entry of a config; options for the handshake are not part of it. -/
def toJson (c : ServerConfig) : Json :=
  .obj [
    ("command", c.command),
    ("args", .arr (c.args.map .str)),
    ("extensions", .arr (c.extensions.map .str)),
    ("language_id", c.languageId)]

def patternsFor (extensions : List String) : List String :=
  extensions.map ("*" ++ ·)

def patterns (c : ServerConfig) : List String :=
  patternsFor c.extensions

def serves (c : ServerConfig) (name : String) : Bool :=
  c.patterns.any fun pattern => Glob.accepts pattern name

def plain (language command : String) (args extensions : List String) :
    String × ServerConfig :=
  (language, { language, command := .str command, args, extensions, languageId := .str language })

/-- The servers that are known without configuration, in routing order. -/
def defaults : List (String × ServerConfig) := [
  plain "typescript" "typescript-language-server" ["--stdio"] [".ts", ".tsx", ".mts", ".cts"],
  plain "javascript" "typescript-language-server" ["--stdio"] [".js", ".jsx", ".mjs", ".cjs"],
  plain "python" "pyright-langserver" ["--stdio"] [".py", ".pyi"],
  plain "go" "gopls" [] [".go"],
  plain "java" "jdtls" [] [".java"],
  plain "rust" "rust-analyzer" [] [".rs"]]

end ServerConfig

abbrev ServerTable := List (String × ServerConfig)

namespace ServerTable

/-- A table with a config for a language, in its place or at the end. -/
def put : ServerTable → String → ServerConfig → ServerTable
  | [], language, config => [(language, config)]
  | (key, old) :: rest, language, config =>
    if key = language then (key, config) :: rest else (key, old) :: put rest language config

def without (table : ServerTable) (language : String) : ServerTable :=
  table.filter fun entry => entry.1 ≠ language

def languageFor? (table : ServerTable) (name : String) : Option String :=
  (table.find? fun entry => entry.2.serves name).map (·.1)

def toJson (table : ServerTable) : Json :=
  .obj (table.map fun entry => (entry.1, entry.2.toJson))

end ServerTable

/-! ### Layers of settings

The settings of a workspace: times in seconds, the encoding of files and the table of servers. They
come in three layers: built-in values, then the config file of the workspace, then environment
variables. A later layer wins for each setting on its own. The config file also changes the table of
servers, entry by entry.
-/

def configDirectory : String := ".tomos"

def configFile : String := "config.json"

def variableStart : String := "TOMOS_"

/-- The settings of a workspace. A time is a number as it was given. -/
structure Settings where
  requestTimeout : Json := .float 30.0
  handshakeTimeout : Json := .float 30.0
  heartbeatTimeout : Json := .float 120.0
  healthCheckInterval : Json := .float 30.0
  restartBackoff : Json := .float 2.0
  shutdownTimeout : Json := .float 5.0
  encoding : Json := .str "utf-8"
  trace : Json := .bool false
  servers : ServerTable := ServerConfig.defaults

namespace Settings

inductive Kind where
  | seconds
  | switch
  | text
deriving DecidableEq, Repr

/-- The names and kinds of the settings besides the servers, in order. -/
def names : List (String × Kind) :=
  [("request_timeout", .seconds), ("handshake_timeout", .seconds), ("heartbeat_timeout", .seconds),
    ("health_check_interval", .seconds), ("restart_backoff", .seconds),
    ("shutdown_timeout", .seconds), ("encoding", .text), ("trace_lsp_communication", .switch)]

def value (s : Settings) (name : String) : Json :=
  if name = "request_timeout" then s.requestTimeout
  else if name = "handshake_timeout" then s.handshakeTimeout
  else if name = "heartbeat_timeout" then s.heartbeatTimeout
  else if name = "health_check_interval" then s.healthCheckInterval
  else if name = "restart_backoff" then s.restartBackoff
  else if name = "shutdown_timeout" then s.shutdownTimeout
  else if name = "encoding" then s.encoding
  else if name = "trace_lsp_communication" then s.trace
  else .null

def set (s : Settings) (name : String) (value : Json) : Settings :=
  if name = "request_timeout" then { s with requestTimeout := value }
  else if name = "handshake_timeout" then { s with handshakeTimeout := value }
  else if name = "heartbeat_timeout" then { s with heartbeatTimeout := value }
  else if name = "health_check_interval" then { s with healthCheckInterval := value }
  else if name = "restart_backoff" then { s with restartBackoff := value }
  else if name = "shutdown_timeout" then { s with shutdownTimeout := value }
  else if name = "encoding" then { s with encoding := value }
  else if name = "trace_lsp_communication" then { s with trace := value }
  else s

def seconds (time : Json) : Float :=
  match time.number with
  | .ok x => x
  | .error _ => 0.0

/-- The number of seconds by which something is put off or for which it is waited for. -/
def duration (time : Json) : Outcome Float :=
  match time with
  | .int _ | .float _ | .bool _ => time.number
  | value => .error (.misuse (.compared value))

/-- A number must be positive, or at least not negative. A value that is no number compares with
none. -/
def checkNumber (value : Json) (name : String) (zeroAllowed : Bool := false) : Outcome Unit :=
  let check (negative zero : Bool) : Outcome Unit :=
    if zeroAllowed then
      if negative then .error (.invalid (name ++ " must be non-negative")) else .ok ()
    else if negative || zero then .error (.invalid (name ++ " must be positive"))
    else .ok ()
  match value with
  | .int n => check (n < 0) (n = 0)
  | .float x => check (x < 0.0) (x == 0.0)
  | .bool b => check false (!b)
  | value => .error (.misuse (.compared value))

def checkTimes (s : Settings) : Outcome Unit := do
  checkNumber s.requestTimeout "request_timeout"
  checkNumber s.handshakeTimeout "handshake_timeout"
  checkNumber s.heartbeatTimeout "heartbeat_timeout"
  checkNumber s.healthCheckInterval "health_check_interval"
  checkNumber s.restartBackoff "restart_backoff" true
  checkNumber s.shutdownTimeout "shutdown_timeout"

def checked (s : Settings) : Outcome Settings :=
  match s.checkTimes with
  | .ok _ => .ok s
  | .error failure =>
    if failure.isInvalid then
      fail (.configuration failure.message {} (some failure.message))
    else .error failure

def plainFields (s : Settings) : Json.Fields :=
  names.map fun (name, _) => (name, s.value name)

def toJson (s : Settings) : Json :=
  .obj (s.plainFields ++ [("servers", s.servers.toJson)])

def languageFor? (s : Settings) (path : String) : Option String :=
  s.servers.languageFor? (String.ofList (Path.baseName path.toList))

/-! ### The layers -/

def onWords : List String := ["1", "true", "yes", "on"]

def offWords : List String := ["0", "false", "no", "off"]

def switched : Json → Outcome Json
  | .bool b => .ok (.bool b)
  | value =>
    let word := (String.ofList (Text.trim Text.isBlank value.shown.toList)).toLower
    if onWords.contains word then .ok (.bool true)
    else if offWords.contains word then .ok (.bool false)
    else .error (.invalid ("not a boolean: " ++ value.quoted))

def coerce (kind : Kind) (value : Json) : Outcome Json :=
  match kind with
  | .seconds => Json.float <$> value.number
  | .switch => switched value
  | .text => .ok (.str value.shown)

def coerceAll (given : Json.Fields) (source : String) : Outcome (List (String × Json)) :=
  given.foldlM (fun done (name, value) =>
    match names.lookup name with
    | none => .ok done
    | some kind =>
      match coerce kind value with
      | .ok value => .ok (done ++ [(name, value)])
      | .error failure =>
        if failure.isInvalid then
          fail (.configuration
            ("Invalid value for '" ++ name ++ "' from " ++ source ++ ": " ++ value.quoted) {}
            (some failure.message))
        else .error failure) []

/-- A table after the entries of a config file: null takes a language out, any other entry puts its
config in. -/
def changeServers (table : ServerTable) (entries : Json.Fields) : Outcome ServerTable :=
  entries.foldlM (fun table (language, entry) =>
    match entry with
    | .null => .ok (table.without language)
    | entry => table.put language <$> ServerConfig.ofJson language entry) table

/-- The value in the config file at a path; an empty object when there is no file. -/
def readConfigFile (t : FileTree) (path : String) : Outcome Json := do
  let unreadable {α : Type} (text : String) : Outcome α :=
    fail (.configuration ("Could not read " ++ path ++ ": " ++ text)
      { component := some "settings", additional := [("path", .str path)] } (some text))
  if path.toList.contains '\x00' then return .obj []
  match t.find true path with
  | .error .noEntry | .error .notDirectory | .error .linkLoop => return .obj []
  | .error fault => .error (.os (fault.about path))
  | .ok _ =>
    match t.readFile path with
    | .error fault => unreadable (fault.about path).message
    | .ok bytes =>
      let text ← Text.ofFile bytes
      match Json.parsed text with
      | .error (.unreadable u) => unreadable u.message
      | .error failure => .error failure
      | .ok (.obj fields) => return .obj fields
      | .ok _ => fail (.configuration (path ++ " must contain a JSON object"))

def configPath (root : String) : String :=
  let parts := Path.Parts.of root.toList
  String.ofList ({ parts with
    names := parts.names ++ [configDirectory.toList, configFile.toList] } : Path.Parts).text

def ofEnvironment (environ : List (String × String)) : Json.Fields :=
  names.filterMap fun (name, _) =>
    (environ.lookup (variableStart ++ name.toUpper)).map fun text => (name, .str text)

/-- The settings of a workspace, or those without one when there is no root. -/
def load (t : FileTree) (root : Option String) (environ : List (String × String)) :
    Outcome Settings := do
  let (given, servers) ←
    match root with
    | none => pure ([], ServerConfig.defaults)
    | some root => do
      let config ← readConfigFile t (configPath root)
      let given ← coerceAll (← (← config.optional "settings" (.obj [])).entries) "config.json"
      let entries ← ((← config.optional "servers" .null).orElse (.obj [])).entries
      pure (given, ← changeServers ServerConfig.defaults entries)
  let fromEnvironment ← coerceAll (ofEnvironment environ) "environment"
  let settings := (given ++ fromEnvironment).foldl (fun s (name, value) => s.set name value)
    ({ servers } : Settings)
  settings.checked

/-- The settings with given values, all of which must be known. A table of servers can be given only
as the empty one: the entries of any other are no configs. That shows only once the times are
right. -/
def ofFields (given : Json.Fields) : Outcome Settings := do
  let settings ← given.foldlM (fun (s : Settings) (name, value) =>
    if name = "servers" then .ok { s with servers := [] }
    else if (names.lookup name).isSome then .ok (s.set name value)
    else .error (.misuse (.unknownName name))) ({} : Settings)
  let settings ← settings.checked
  match given.lookup "servers" with
  | none | some (.obj []) => return settings
  | some value => .error (.misuse (.member value "to_dict"))

end Settings

end Scalpel
