import Scalpel.Child.Process
import Scalpel.Shell.Machine

/-!
Processes that run what a shell knows. A process goes on until it waits for input, sleeps or has ended; then
it is fed, it is told that its input has ended, or it is signalled. A bench starts its processes so; no
statement about servers depends on it.
-/

set_option autoImplicit false

namespace Scalpel.Shell

open Scalpel

variable [Halves]

namespace State

def patience : Nat := 200000

def proceed (s : State) : State :=
  s.goOn patience

def take (s : State) (count : Nat) : State :=
  let output := s.output.drop count
  ({ s with output, isFull := s.isFull && pipeRoom < output.length } : State).proceed

def takings : Nat := 10000

/-- All that the shell prints before it waits for something is taken. Fuel: something is taken in each
step. -/
def drain : Nat → State → Bytes × State
  | 0, s => ([], s)
  | fuel + 1, s =>
    if s.output.isEmpty then ([], s)
    else
      let (more, rest) := drain fuel (s.take s.output.length)
      (s.output ++ more, rest)

def sleepFor (s : State) (seconds : Float) : State :=
  { s with pause := some seconds }

def wakings : Nat := 100000

/-- Time passes. A shell that wakes goes on, and may sleep again for a part of the time. Fuel: the shell
wakes once in each step. -/
def passUpTo : Nat → Float → State → State
  | 0, _, s => s
  | fuel + 1, seconds, s =>
    match if s.ended.isSome || s.isFull then none else s.pause with
    | none => s
    | some left =>
      if left ≤ seconds then passUpTo fuel (seconds - left) (s.sleepFor 0.0).proceed
      else s.sleepFor (left - seconds)

/-- A number of bytes that the shell prints, or all that it prints, are taken from it, while time passes if
it does. Fuel: the shell wakes once in each step, or more is taken. -/
def read (count : Option Nat) : Nat → State → Bytes × State
  | 0, s => ([], s)
  | fuel + 1, s =>
    match count with
    | some wanted =>
      if wanted ≤ s.output.length || !canPrint s then
        (s.output.take wanted, s.take (min wanted s.output.length))
      else if s.isFull then more fuel s (some (wanted - s.output.length))
      else read count fuel (s.sleepFor 0.0).proceed
    | none =>
      if canPrint s && !s.isFull then read none fuel (s.sleepFor 0.0).proceed
      else if s.output.isEmpty then ([], s)
      else more fuel s none
where
  /-- Whether the shell may print without being fed. -/
  canPrint (s : State) : Bool :=
    s.ended.isNone && (s.isFull || s.pause.isSome)
  /-- All that was printed is taken, and then more. -/
  more (fuel : Nat) (s : State) (count : Option Nat) : Bytes × State :=
    let (rest, after) := read count fuel (s.take s.output.length)
    (s.output ++ rest, after)

end State

/-! ### Starting -/

/-- Whether a path is that of a program that can be run. A script names the program that reads it,
which must be one as well. Fuel: a script may be read by a script. -/
def checkProgram (t : FileTree) : Nat → String → Except FileTree.Fault Unit
  | 0, _ => .error .linkLoop
  | fuel + 1, path => do
    match ← t.find true path with
    | (place, .file content _) =>
      if !t.isExecutable path then throw .permission
      if isProgram place content then return ()
      match reader? (Path.ofBytes content) with
      | some (reader, _) => checkProgram t fuel (String.ofList reader)
      | none => throw .execFormat
    | _ => throw .permission

/-- The first of some paths that can be run. Otherwise the first fault counts that is more than that
there is nothing at a path. -/
def firstProgram (t : FileTree) (paths : List String) : Except FileTree.Fault String :=
  paths.foldl (fun found path =>
    match found with
    | .ok path => .ok path
    | .error fault =>
      match checkProgram t readersInTurn path with
      | .ok () => .ok path
      | .error new => .error (if fault = .noEntry || fault = .notDirectory then new else fault))
    (.error .noEntry)

def candidates (search binary : String) : List String :=
  if binary.toList.contains '/' then [binary]
  else (search.toList.splitOn ':').map fun directory =>
    String.ofList (Path.join directory binary.toList)

def start (t : FileTree) (search binary : String) (arguments : List String) (directory : String)
    (environ : List (String × String)) : Except OsError State := do
  match t.find true directory with
  | .error fault => throw (fault.about directory)
  | .ok (_, .directory) => pure ()
  | .ok _ => throw (FileTree.Fault.notDirectory.about directory)
  let here := (t.canonical? directory).toOption.getD directory
  let seen := { t with workingDirectory := here }
  let search := (environ.lookup "PATH").getD search
  match firstProgram seen (candidates search binary) with
  | .error fault => throw (fault.about binary)
  | .ok path =>
    let environ := if (environ.lookup "PATH").isSome then environ else ("PATH", search) :: environ
    let store : Variables := environ.map fun (name, value) =>
      (name.toList, { value := value.toList, isExported := true })
    let shell : State := { files := t, scope := { store, directory := here } }
    match shell.runPath readersInTurn path.toList ((binary :: arguments).map String.toList) with
    | .goesOn shell | .waits shell => return shell.proceed

instance : Child.Process State where
  start := start
  exitCode s := s.ended
  isDeaf s := s.ended.isSome || s.inputEnded || s.inputClosed
  feed bytes s := { s with input := s.input ++ bytes : State }.proceed
  endInput s := { s with inputEnded := true : State }.proceed
  signal number s := if s.ended.isSome then s else (s.signal number).proceed
  passTime seconds s := s.passUpTo State.wakings seconds
  drain s := s.drain State.takings
  read count s := s.read count State.wakings

end Scalpel.Shell
