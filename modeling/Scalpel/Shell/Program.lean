import Scalpel.Shell.Condition
import Scalpel.Shell.Control
import Scalpel.Shell.Tool.Columns
import Scalpel.Shell.Tool.Count
import Scalpel.Shell.Tool.Editing
import Scalpel.Shell.Tool.Expression
import Scalpel.Shell.Tool.Letters
import Scalpel.Shell.Tool.Listing
import Scalpel.Shell.Tool.Portion
import Scalpel.Shell.Tool.Search
import Scalpel.Shell.Tool.Sort

/-!
Programs that scripts call: tools, which make a text of other texts, and programs that copy, sleep or read
scripts. A program that needs more input than there is waits, and is called again later.
-/

set_option autoImplicit false

namespace Scalpel.Shell

open Scalpel

variable [Halves]

def tools : List (String × Tool) :=
  [("cut", cutTool), ("egrep", searchTool 'E'), ("expr", expressionTool), ("fgrep", searchTool 'F'),
    ("grep", searchTool 'G'), ("head", headTool), ("sed", editTool), ("sort", sortTool),
    ("tail", tailTool), ("tr", lettersTool), ("uniq", uniqueTool), ("wc", countTool)]

/-! ### Files that can be run -/

def programs : List String :=
  ["[", "cat", "dash", "dd", "echo", "false", "ls", "printf", "pwd", "sh", "sleep", "test", "true"]
    ++ tools.map (·.1)

def readersInTurn : Nat := 5

def programMark : Bytes :=
  [0x7F, 0x45, 0x4C, 0x46]

def programName (place : Place) : String :=
  String.ofList (place.getLast?.getD [])

def isProgram (place : Place) (content : Bytes) : Bool :=
  content = programMark && programs.contains (programName place)

/-- The program that reads a script and its option, if the first line of the script names them. -/
def reader? (script : List Char) : Option (List Char × List (List Char)) :=
  match script with
  | '#' :: '!' :: rest =>
    let isBlank (c : Char) : Bool := c = ' ' || c = '\t'
    let line := (rest.takeWhile (· ≠ '\n')).dropWhile isBlank
    let line := (line.reverse.dropWhile isBlank).reverse
    let reader := line.takeWhile fun c => !isBlank c
    let option := (line.drop reader.length).dropWhile isBlank
    if reader.isEmpty then none else some (reader, if option.isEmpty then [] else [option])
  | _ => none

namespace State

def setting (s : State) (name : List Char) : Setting :=
  let (input, isOver) := (s.readable 0).getD ([], true)
  let file (path : List Char) : Except FileTree.Fault Bytes :=
    if path = "/dev/stdin".toList then .ok input
    else if path = "/dev/null".toList then .ok []
    else s.tree.readFile (String.ofList path)
  let isFile :=
    match s.stream? 0 with
    | some (.content _) => true
    | _ => false
  { name, file, input, isOver, isFile }

def writeFile (s : State) (path : List Char) (bytes : Bytes) (atEnd : Bool) : State :=
  match s.openFile path (if atEnd then ">>" else ">|") with
  | .ok (stream, opened) =>
    let filled := ((opened.putStream 1 (some stream)).write? 1 bytes).getD opened
    { filled with scope := s.scope }
  | .error _ => s.withStatus 1

def answered (s : State) (answer : Answer) : State :=
  let s := answer.written.foldl (fun (s : State) (path, bytes, atEnd) => s.writeFile path bytes atEnd)
    (s.withStatus 0)
  let code := if answer.code = 0 then s.status else answer.code
  let s := answer.earlier.foldl (fun (s : State) (output, complaint) =>
    (s.print output s.status).complain complaint) s
  (if answer.complaint.isEmpty then s else s.complain answer.complaint).print answer.output code

def runTool (s : State) (tool : Tool) (words : List (List Char)) : Step :=
  let setting := s.setting (words.headD [])
  match tool setting (words.drop 1) with
  | none => .waits { s.before [.program words] with isHeld := true }
  | some answer =>
    let reads := (tool { setting with input := [], isOver := false } (words.drop 1)).isNone
    let all := setting.input.length
    let taken := if setting.isFile then answer.left.getD (answer.taken.getD all) else answer.taken.getD all
    .goesOn ((if reads then s.consume 0 (min taken all) else s).answered answer)

def copy (s : State) (path : List Char) : List (List Char) → Step
  | [] => .goesOn s
  | file :: rest =>
    if file = ['-'] || file = "/dev/stdin".toList then
      match s.readable 0 with
      | none => copy (s.withStatus 1) path rest
      | some (bytes, isOver) =>
        let s := (s.consume 0 bytes.length).print (Path.ofBytes bytes) s.status
        if isOver then copy s path rest
        else .waits { s.before [.program (path :: file :: rest)] with isHeld := true }
    else
      match s.tree.readFile (String.ofList file) with
      | .ok content => copy (s.print (Path.ofBytes content) s.status) path rest
      | .error fault =>
        let reason := path ++ ": ".toList ++ file ++ (": " ++ fault.text ++ "\n").toList
        copy ((s.complain reason).withStatus 1) path rest

/-- Bytes are copied from the input or a file to the output or a file, in blocks: all of them or a number
of blocks, without those that are passed over. -/
def copyBlocks (s : State) (words : List (List Char)) : Step :=
  let value? (name : String) : Option (List Char) :=
    let mark := name.toList ++ ['=']
    (words.find? fun word => mark.isPrefixOf word).map fun word => word.drop mark.length
  let number (name : String) (default : Nat) : Nat := ((value? name).bind sizeOf?).getD default
  let size := number "bs" (number "ibs" 512)
  let passed := size * number "skip" 0
  let wanted : Option Nat := (value? "count").map fun _ => size * number "count" 0
  let source : Option (Bytes × Bool) :=
    match value? "if" with
    | some path => ((s.setting []).file path).toOption.map (·, true)
    | none => s.readable 0
  match source with
  | none =>
    let path := (value? "if").getD []
    let reason := match (s.setting []).file path with
      | .error fault => ": " ++ fault.text
      | .ok _ => ""
    let answer : Answer := ({} : Answer).complaining
      (words.headD [] ++ ": failed to open '".toList ++ path ++ ("'" ++ reason ++ "\n").toList) 1
    .goesOn (s.answered answer)
  | some (bytes, isOver) =>
    let rest := bytes.drop passed
    if !isOver && !(wanted.any fun wanted => wanted ≤ rest.length) then
      .waits { s.before [.program words] with isHeld := true }
    else
      let part := rest.take (wanted.getD rest.length)
      let part := match (value? "conv").map String.ofList with
        | some "ucase" => part.map fun byte => if 97 ≤ byte && byte ≤ 122 then byte - 32 else byte
        | some "lcase" => part.map fun byte => if 65 ≤ byte && byte ≤ 90 then byte + 32 else byte
        | _ => part
      let s := if (value? "if").isSome then s else s.consume 0 (min bytes.length (passed + part.length))
      match value? "of" with
      | some path => .goesOn ((s.withStatus 0).writeFile path part false)
      | none => .goesOn (s.print (Path.ofBytes part) 0)

def seconds? (text : List Char) : Option Float :=
  let unit := text.getLast?
  let scale : Option Float :=
    if unit = some 's' then some 1.0 else if unit = some 'm' then some 60.0
    else if unit = some 'h' then some 3600.0 else if unit = some 'd' then some 86400.0 else none
  let digits := if scale.isSome then text.dropLast else text
  if digits.any (·.isDigit) || String.ofList digits = "inf" || String.ofList digits = "infinity" then
    (Decimal.float? (String.ofList digits)).map (· * scale.getD 1.0)
  else none

def sleep (s : State) (words : List (List Char)) : Step :=
  let setting := s.setting (words.headD [])
  match s.pause, (words.drop 1).mapM seconds? with
  | _, none =>
    let wrong := ((words.drop 1).find? fun word => (seconds? word).isNone).getD []
    .goesOn (s.answered (setting.misused ("invalid time interval " ++ inQuotes wrong) 1))
  | _, some [] => .goesOn (s.answered (setting.misused "missing operand" 1))
  | none, some times =>
    .waits { s.before [.program words] with pause := some (times.foldl (· + ·) 0.0), isHeld := true }
  | some left, _ =>
    if left ≤ 0.0 then .goesOn { s.withStatus 0 with pause := none }
    else .waits { s.before [.program words] with isHeld := true }

def defaultSearch : List Char :=
  "/usr/local/sbin:/usr/local/bin:/usr/sbin:/usr/bin:/sbin:/bin".toList

def startVariables (s : State) : Variables :=
  let parent := if s.tasks.isEmpty then s.scope.number - 1 else s.scope.number
  [("IFS", " \t\n"), ("OPTIND", "1"), ("PPID", toString parent), ("PS1", "# "),
    ("PS2", "> "), ("PS4", "+ "), ("PWD", s.scope.directory)].map fun (name, value) =>
      (name.toList, { value := some value.toList, isExported := name = "PWD" })

/-- A shell begins within a shell, with the variables that are handed on. It is left again if there is
anything left to do then. -/
def startShell (s : State) (name : List Char) (words : List (List Char)) : State :=
  match Call.of (words.length + 1) {} words with
  | .error reason => (s.complain (name ++ ": 0: ".toList ++ reason ++ ['\n'])).withStatus 2
  | .ok call =>
    let scope : Scope :=
      { name
        store := startVariables s ++ (s.scope.store.filter fun entry =>
          entry.2.isExported && isName entry.1) ++ [("PATH".toList, { value := some defaultSearch })]
        streams := s.scope.streams
        directory := s.scope.directory
        handlers := s.scope.handlers.filter fun h => h.2.isEmpty
        options := call.options
        number := if s.tasks.isEmpty then s.scope.number else s.scope.number + 1000 }
    let back : List Task := if s.tasks.isEmpty then [] else [.leave s.scope]
    let enter (scope : Scope) (tasks : List Task) : State :=
      { s.before (tasks ++ back) with scope, status := 0 }
    match call.isScript, call.rest with
    | true, [] => (s.complain (name ++ ": 0: -c requires an argument\n".toList)).withStatus 2
    | true, [script] => enter scope (tasksOf script)
    | true, script :: name :: arguments => enter { scope with name, arguments } (tasksOf script)
    | false, [] => enter scope [.interpret []]
    | false, path :: arguments =>
      if call.options.contains 's' then
        enter { scope with arguments := path :: arguments } [.interpret []]
      else
        match s.tree.readFile (String.ofList path) with
        | .ok content => enter { scope with name := path, arguments } (tasksOf (Path.ofBytes content))
        | .error _ =>
          let reason := ": 0: cannot open ".toList ++ path ++ ": No such file\n".toList
          (s.complain (name ++ reason)).withStatus 2

def commandPath? (s : State) (name : List Char) : Except Nat (List Char) :=
  let usable (path : List Char) : Bool :=
    s.tree.isFile (String.ofList path) && s.tree.isExecutable (String.ofList path)
  if name.contains '/' then
    if usable name then .ok name
    else if s.tree.exists? (String.ofList name) then .error 126
    else .error 127
  else
    let search := (s.get? "PATH".toList).getD []
    let paths := (search.splitOn ':').map fun directory => Path.join directory name
    match paths.find? usable, paths.any fun path => s.tree.isFile (String.ofList path) with
    | some path, _ => .ok path
    | none, true => .error 126
    | none, false => .error 127

def runProgram (s : State) (program : String) (path : List Char) (arguments : List (List Char)) :
    Step :=
  let words := path :: arguments
  let verdict (words : List (List Char)) : Step :=
    match condition s.tree words with
    | .ok true => .goesOn (s.withStatus 0)
    | .ok false => .goesOn (s.withStatus 1)
    | .error _ => .goesOn (s.withStatus 2)
  match tools.lookup program with
  | some tool => s.runTool tool words
  | none =>
    match program with
    | "true" => .goesOn (s.withStatus 0)
    | "false" => .goesOn (s.withStatus 1)
    | "echo" => .goesOn (s.print (echoedPlainly arguments) 0)
    | "printf" =>
      match arguments with
      | [] => .goesOn (s.answered ((s.setting path).misused "missing operand" 1))
      | format :: arguments =>
        let done := formatted format arguments
        .goesOn (s.print done.text (min done.status 1))
    | "pwd" => .goesOn (s.print (s.scope.directory.toList ++ ['\n']) 0)
    | "cat" =>
      let files := arguments.filter fun file => file ≠ ['-', 'u']
      copy (s.withStatus 0) path (if files.isEmpty then [['-']] else files)
    | "sleep" => s.sleep words
    | "test" => verdict arguments
    | "[" =>
      if arguments.getLast? = some [']'] then verdict arguments.dropLast else .goesOn (s.withStatus 2)
    | "sh" | "dash" => .goesOn (s.startShell path arguments)
    | "dd" => s.copyBlocks words
    | "ls" => .goesOn (s.answered (listTool s.tree (s.setting path) arguments))
    | _ => .goesOn (s.withStatus 127)

def found (s : State) (name : List Char) : State :=
  let text := String.ofList name
  if name.contains '/' || builtins.contains text || (s.scope.functions.lookup name).isSome
      || s.scope.known.contains name then s
  else
    match s.commandPath? name with
    | .ok _ => s.modifyScope fun scope => { scope with known := name :: scope.known }
    | .error _ => s

def notFound (s : State) (name : List Char) (code : Nat) : State :=
  let reason := if code = 126 || name.isEmpty then ": Permission denied\n" else ": not found\n"
  s.complain (s.scope.name ++ ": 1: ".toList ++ name ++ reason.toList)

/-- A program at a path runs. A script names the program that reads it; without one a shell does. Fuel:
a script may be read by a script. -/
def runPath (s : State) : Nat → List Char → List (List Char) → Step
  | 0, _, _ => .goesOn (s.withStatus 126)
  | fuel + 1, path, words =>
    let arguments := words.drop 1
    match s.tree.find true (String.ofList path) with
    | .ok (place, .file content _) =>
      if isProgram place content then
        s.runProgram (programName place) (words.headD path) arguments
      else
        match reader? (Path.ofBytes content) with
        | some (reader, options) =>
          runPath s fuel reader (reader :: options ++ path :: arguments)
        | none => .goesOn (s.startShell "sh".toList (path :: arguments))
    | _ => .goesOn (s.withStatus 127)

end State

end Scalpel.Shell
