import Scalpel.Shell.Format

/-!
A shell that carries out a script. Its scope is what a subshell has of its own: variables, functions,
arguments, streams, the directory and what is done about signals. The rest is shared by all scopes:
the files, the input, the output and what is kept in between. What is left to do is a list of tasks,
so that a shell can stop anywhere and go on later.

The options of a shell each have a letter, and most have a name as well; they are set behind a minus
and unset behind a plus.
-/

set_option autoImplicit false

namespace Scalpel.Shell

open Scalpel

variable [Halves]

/-! ### Options -/

def optionLetters : List Char :=
  "efIimnsxvVECabu".toList

def optionNames : List (String × Char) :=
  [("errexit", 'e'), ("noglob", 'f'), ("ignoreeof", 'I'), ("interactive", 'i'), ("monitor", 'm'),
    ("noexec", 'n'), ("stdin", 's'), ("xtrace", 'x'), ("verbose", 'v'), ("vi", 'V'), ("emacs", 'E'),
    ("noclobber", 'C'), ("allexport", 'a'), ("notify", 'b'), ("nounset", 'u')]

def withOption (on : Bool) (options : List Char) (letter : Char) : List Char :=
  let others := options.filter (· ≠ letter)
  if on then letter :: others else others

/-- The options after the letters of one word, and the words behind; the letter `o` takes a name from
them. An option that is not known is a fault. -/
def optionsFrom (on : Bool) :
    List Char → List Char → List (List Char) → Except (List Char) (List Char × List (List Char))
  | options, [], rest => .ok (options, rest)
  | options, letter :: letters, rest =>
    if letter = 'o' then
      match rest with
      | [] => optionsFrom on options letters []
      | name :: rest =>
        match optionNames.lookup (String.ofList name) with
        | some letter => optionsFrom on (withOption on options letter) letters rest
        | none => .error ("Illegal option -o ".toList ++ name)
    else if optionLetters.contains letter then
      optionsFrom on (withOption on options letter) letters rest
    else .error ("Illegal option -".toList ++ [letter])

/-- How a shell is called: whether its script is the first of the words behind the options. -/
structure Call where
  isScript : Bool := false
  options : List Char := []
  rest : List (List Char) := []

/-- The call that words make, unless an option in them is not known. Fuel: each step takes a word. -/
def Call.of : Nat → Call → List (List Char) → Except (List Char) Call
  | 0, call, words => .ok { call with rest := words }
  | fuel + 1, call, words =>
    match words with
    | ['-'] :: rest | ['-', '-'] :: rest => .ok { call with rest }
    | (sign :: letters) :: rest =>
      if sign = '-' || sign = '+' then do
        let others := letters.filter (· ≠ 'c')
        let (options, rest) ← optionsFrom (sign = '-') call.options others rest
        Call.of fuel
          { call with options, isScript := call.isScript || letters.contains 'c' } rest
      else .ok { call with rest := words }
    | words => .ok { call with rest := words }

/-! ### Scopes -/

inductive Stream where
  | input
  | output
  | nowhere
  | buffer (index : Nat)
  /-- What a file holds, or the part of it that has not been read. -/
  | content (index : Nat)
  | file (path : String)
deriving DecidableEq, Repr

/-- A variable, which may have been declared without a value. -/
structure Variable where
  value : Option (List Char) := none
  isExported : Bool := false
  isFixed : Bool := false

abbrev Variables := List (List Char × Variable)

def ownNumber : Nat := 4711

/-- How far the options among the arguments have been read: the number of the next word, and how much of
the word before it has been read. -/
structure OptionPlace where
  index : Nat := 1
  offset : Option Nat := none
deriving DecidableEq, Repr

structure Scope where
  name : List Char := "sh".toList
  arguments : List (List Char) := []
  store : Variables := []
  functions : List (List Char × Command) := []
  /-- The variables that the function at work has made its own, as they were before. -/
  locals : Option (List (List Char × Option Variable)) := none
  streams : List (Nat × Stream) := [(0, .input), (1, .output), (2, .nowhere)]
  directory : String := "/"
  /-- What is done about signals, by number; zero stands for the end. -/
  handlers : List (Nat × List Char) := []
  /-- The letters of the options that are set. -/
  options : List Char := []
  /-- The number of the process. -/
  number : Nat := ownNumber
  place : OptionPlace := {}
  /-- The names of programs that have been found on the search path. -/
  known : List (List Char) := []
  /-- The words that stand for other texts. -/
  aliases : List (List Char × List Char) := []
  /-- The rights that new files do not get. -/
  mask : Nat := 0o022

inductive Task where
  /-- A command, with the output of the scripts in its words as far as they have been carried out. -/
  | run (command : Command) (results : List (List Char))
  /-- The output of a script is the next result for a command; `before` is the status before. -/
  | collect (buffer : Nat) (command : Command) (results : List (List Char)) (before : Nat)
  /-- The lines of a script that are left. -/
  | lines (tokens : List Token)
  /-- A command whose words are known. -/
  | invoke (words : List (List Char))
  /-- A program whose words are known. -/
  | program (words : List (List Char))
  /-- A command gets the output of the one before as its input. -/
  | feed (buffer : Nat) (command : Command)
  | also (wanted : Bool) (command : Command)
  | negate
  | choose (yes no : Command)
  /-- The test of a loop has been made; `last` is the status of the body before. -/
  | tested (endsWhenTrue : Bool) (test body : Command) (last : Nat)
  | again (endsWhenTrue : Bool) (test body : Command)
  | next (name : List Char) (items : List (List Char)) (body : Command)
  | streams (before : List (Nat × Stream))
  | restore (before : List (List Char × Option Variable))
  | leave (scope : Scope)
  | returned (arguments : List (List Char)) (locals : Option (List (List Char × Option Variable)))
      (place : OptionPlace)
  /-- A command in the background has been waited for. -/
  | waited
  /-- A script that was read from a file ends. -/
  | sourced
  | status (code : Nat)
  /-- A command has ended, and the shell may end if it has failed. -/
  | check
  | depart
  /-- Commands are read from the input; a part of one may have been read. -/
  | interpret (pending : List Char)

def Task.isLoop : Task → Bool
  | .tested .. | .again .. | .next .. => true
  | _ => false

structure State where
  tasks : List Task := []
  scope : Scope := {}
  status : Nat := 0
  /-- The status of the last script whose output was put into a word. -/
  outputStatus : Nat := 0
  files : FileTree
  input : Bytes := []
  inputEnded : Bool := false
  /-- The shell has closed its input, so that nothing can be written to it. -/
  inputClosed : Bool := false
  output : Bytes := []
  /-- There is no room for more output until some is taken. -/
  isFull : Bool := false
  buffers : List (Nat × Bytes) := []
  bufferCount : Nat := 0
  pending : List Nat := []
  /-- Commands in the background that are still to be carried out, by number. -/
  jobs : List (Nat × Command) := []
  /-- How many commands were put into the background. -/
  jobCount : Nat := 0
  /-- The status of commands in the background that were ended by a signal. -/
  finished : List (Nat × Nat) := []
  /-- How long a sleep still takes. -/
  pause : Option Float := none
  /-- A command waits, so that signals are handled later. -/
  isHeld : Bool := false
  /-- The status with which the shell ends as soon as it would have to wait. -/
  leaving : Option Nat := none
  ended : Option Int := none

/-- What carrying out a task comes to: the shell goes on, or it waits. -/
inductive Step where
  | goesOn (s : State)
  | waits (s : State)

namespace State

/-! ### Variables -/

def tree (s : State) : FileTree :=
  { s.files with workingDirectory := s.scope.directory }

def modifyScope (s : State) (f : Scope → Scope) : State :=
  { s with scope := f s.scope }

def withStatus (s : State) (code : Nat) : State :=
  { s with status := code }

def held? (s : State) (name : List Char) : Option Variable :=
  s.scope.store.lookup name

def get? (s : State) (name : List Char) : Option (List Char) :=
  (s.held? name).bind (·.value)

def putVariable (s : State) (name : List Char) (new : Option Variable) : State :=
  s.modifyScope fun scope =>
    let others := scope.store.filter fun entry => entry.1 ≠ name
    { scope with
      known := if name = "PATH".toList then [] else scope.known
      place := if name = "OPTIND".toList then
          { index := max 1 ((new.bind fun new => new.value.bind digits?).getD 1) } else scope.place
      store :=
        match new with
        | some new => (name, new) :: others
        | none => others }

def set (s : State) (name value : List Char) : State :=
  let old := (s.held? name).getD {}
  let isExported := old.isExported || s.scope.options.contains 'a'
  s.putVariable name (some { old with value := some value, isExported })

def isFixed (s : State) (name : List Char) : Bool :=
  (s.held? name).any (·.isFixed)

def dividers (s : State) : List Char :=
  (s.get? "IFS".toList).getD [' ', '\t', '\n']

/-! ### Streams -/

def buffer (s : State) (index : Nat) : Bytes :=
  (s.buffers.lookup index).getD []

def putBuffer (s : State) (index : Nat) (content : Bytes) : State :=
  { s with buffers := (index, content) :: s.buffers.filter fun entry => entry.1 ≠ index }

def newBuffer (s : State) (content : Bytes) : Nat × State :=
  (s.bufferCount, { s.putBuffer s.bufferCount content with bufferCount := s.bufferCount + 1 })

def stream? (s : State) (number : Nat) : Option Stream :=
  s.scope.streams.lookup number

def putStream (s : State) (number : Nat) (stream : Option Stream) : State :=
  s.modifyScope fun scope =>
    let others := scope.streams.filter fun entry => entry.1 ≠ number
    { scope with streams :=
        match stream with
        | some stream => (number, stream) :: others
        | none => others }

def pipeRoom : Nat := 65536

/-- Bytes are written to a stream; nothing comes of it when the stream is closed. -/
def write? (s : State) (number : Nat) (bytes : Bytes) : Option State :=
  match s.stream? number with
  | none => none
  | some .output =>
    let output := s.output ++ bytes
    some { s with output, isFull := pipeRoom < output.length }
  | some (.buffer index) => some (s.putBuffer index (s.buffer index ++ bytes))
  | some (.file path) =>
    match s.files.locate true path with
    | .ok (place, some (.file content mode)) =>
      some { s with files := s.files.put place (.file (content ++ bytes) mode) }
    | _ => none
  | some _ => some s

def print (s : State) (text : List Char) (code : Nat) : State :=
  if text.isEmpty then s.withStatus code
  else
    match s.write? 1 (Path.bytesOf text) with
    | some s => s.withStatus code
    | none => s.withStatus 1

def complain (s : State) (text : List Char) : State :=
  (s.write? 2 (Path.bytesOf text)).getD s

def protest (s : State) (text : List Char) : State :=
  s.complain (s.scope.name ++ ": 1: ".toList ++ text ++ ['\n'])

def readable (s : State) (number : Nat) : Option (Bytes × Bool) :=
  match s.stream? number with
  | some .input => some (s.input, s.inputEnded)
  | some (.buffer index) | some (.content index) => some (s.buffer index, true)
  | some (.file path) =>
    match s.files.readFile path with
    | .ok content => some (content, true)
    | .error _ => some ([], true)
  | some _ => some ([], true)
  | none => none

def consume (s : State) (number count : Nat) : State :=
  match s.stream? number with
  | some .input => { s with input := s.input.drop count }
  | some (.buffer index) | some (.content index) => s.putBuffer index ((s.buffer index).drop count)
  | _ => s

/-! ### Ends -/

def tasksOf (script : List Char) : List Task :=
  [.lines (tokens script)]

/-- What is to be done at the end of the shell or subshell at work is done once, and the status is what
it was. -/
def atEnd? (s : State) (code : Nat) (rest : List Task) : Option State :=
  match s.scope.handlers.lookup 0 with
  | some action =>
    some { s.modifyScope fun scope => { scope with handlers := scope.handlers.filter fun h => h.1 ≠ 0 } with
      tasks := tasksOf action ++ .status code :: rest, status := code }
  | none => none

def jobTask (job : Nat × Command) : Task :=
  .run (.redirected (.subshell job.2) [{ stream := 0, mark := "<", target := "/dev/null".toList }]) []

/-- A shell, or the subshell at work, ends with a status. What is to be done at the end, and what was
put off, is done first. -/
def exit (s : State) (code : Nat) : State :=
  let code := code % 256
  let isLeave : Task → Bool
    | .leave _ => true
    | _ => false
  match s.tasks.dropWhile fun task => !isLeave task with
  | task :: rest => { s with tasks := task :: rest, status := code }
  | [] =>
    match s.atEnd? code [.depart] with
    | some s => s
    | none =>
      if s.jobs.isEmpty then { s with tasks := [], ended := some code }
      else
        { s with
          tasks := s.jobs.map jobTask ++ [.status code, .depart], jobs := [], leaving := some code }

def isInner (s : State) : Bool :=
  s.tasks.any fun
    | .leave _ => true
    | _ => false

def outerScope (s : State) : Scope :=
  s.tasks.foldl (fun scope task =>
    match task with
    | .leave outer => outer
    | _ => scope) s.scope

def isHarmless (number : Nat) : Bool :=
  number = 0 || [17, 18, 23, 28].contains number

def signal (s : State) (number : Nat) : State :=
  match if number = 9 then none else s.outerScope.handlers.lookup number with
  | some [] => s
  | some _ => { s with pending := s.pending ++ [number] }
  | none =>
    if isHarmless number then s
    else { s with ended := some (-(number : Int)), tasks := [], output := s.output.take pipeRoom }

end State

end Scalpel.Shell
