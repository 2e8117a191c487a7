import Scalpel.Child.Process
import Scalpel.Server.Settings

/-!
The supervision of a child process: it is started with fixed arguments, waited for, and stopped in
stages: its input ends, then it is asked to terminate, then it is killed.
-/

set_option autoImplicit false

namespace Scalpel.Child

open Scalpel

variable [Halves] {ρ : Type} [Process ρ]

/-- Texts that a process is started with must have bytes, and must not hold a null character; the name
of a variable has no equals sign. -/
def checkTexts (binary : String) (arguments : List String) (directory : String)
    (environ : List (String × String)) : Outcome Unit := do
  for (name, value) in environ do
    let _ ← Path.bytes name.toList
    if name.toList.contains '=' then .error (.invalid "illegal environment variable name")
    let _ ← Path.bytes value.toList
  let whole (text : String) : Outcome Unit := do
    let _ ← Path.bytes text.toList
    if text.toList.contains '\x00' then .error (.invalid "embedded null byte")
  for text in binary :: arguments do whole text
  for (name, value) in environ do whole (name ++ value)
  whole directory

/-- A supervised child. There is no process before it is started. `hasUnsent` says that bytes could not be
written to it. -/
structure Supervised (ρ : Type) where
  binary : String
  arguments : List String := []
  directory : String
  language : String
  process : Option ρ := none
  inputClosed : Bool := false
  hasUnsent : Bool := false
  outputClosed : Bool := false

namespace Supervised

def argv (s : Supervised ρ) : List String :=
  s.binary :: s.arguments

def launch (s : Supervised ρ) (t : FileTree) (search : String) (environ : List (String × String)) :
    Outcome (Supervised ρ) := do
  checkTexts s.binary s.arguments s.directory environ
  match Process.start t search s.binary s.arguments s.directory environ with
  | .ok process =>
    return { s with process := some process, inputClosed := false, outputClosed := false }
  | .error e => fail (.spawnFailed s.language s.binary e)

def exitCode (s : Supervised ρ) : Option Int :=
  s.process.bind Process.exitCode

def isRunning (s : Supervised ρ) : Bool :=
  s.process.isSome && s.exitCode.isNone

def change (s : Supervised ρ) (f : ρ → ρ) : Supervised ρ :=
  { s with process := s.process.map f }

/-- The seconds for which a process is waited for. Without a time it is waited for until it ends, and
so it is for a time that is no number. -/
def patience (time : Json) : Outcome Float := do
  if time == .null then return endless
  let seconds ← Settings.duration time
  return if seconds.isNaN then endless else seconds
where
  /-- A time that no process outlasts. -/
  endless : Float := 1.0 / 0.0

def wait (s : Supervised ρ) (time : Json) : Outcome (Supervised ρ) := do
  if s.process.isNone then return s
  let seconds ← patience time
  return s.change (Process.passTime seconds)

/-- A measure that is taken against a process that still runs, and the time it is given then. The
measure is taken also where nothing can be waited for that long. -/
def press (s : Supervised ρ) (measure : ρ → ρ) (time : Json) :
    Supervised ρ × Outcome Unit :=
  if s.isRunning then
    let pressed := s.change measure
    match pressed.wait time with
    | .ok after => (after, .ok ())
    | .error failure => (pressed, .error failure)
  else (s, .ok ())

def grace (time : Json) : Outcome Json :=
  match time with
  | .int n => .ok (if 1 < n then .int 1 else time)
  | .float x => .ok (if 1.0 < x then .int 1 else time)
  | .bool _ => .ok time
  | value => .error (.misuse (.compared value))

def lastGrace : Json := .int 2

/-- The process is stopped: its input ends, then it is asked to terminate, then it is killed, each
only while it runs. Where nothing can be waited for that long the stages end there. -/
def stop (s : Supervised ρ) (time : Json) : Supervised ρ × Outcome Unit :=
  if !s.isRunning then ({ s with outputClosed := s.outputClosed || s.process.isSome }, .ok ())
  else
    match grace time with
    | .error failure => ({ s.change Process.endInput with inputClosed := true }, .error failure)
    | .ok first =>
      let stages : List ((ρ → ρ) × Json) :=
        [(Process.endInput, first), (Process.signal terminate, time), (Process.signal killing, lastGrace)]
      let (s, outcome) := stages.foldl (fun (s, outcome) (measure, time) =>
        match outcome with
        | .ok () => s.press measure time
        | .error failure => (s, .error failure)) ({ s with inputClosed := true }, .ok ())
      ({ s with outputClosed := outcome.isOk }, outcome)

def started (s : Supervised ρ) : Outcome ρ :=
  match s.process with
  | some process => .ok process
  | none => .error (.other "AssertionError" "")

def brokenPipe : OsError :=
  { number := some 32, text := "Broken pipe" }

def closedInput : Failure :=
  .invalid "write to closed file"

/-- Bytes are written to the input of the process. What cannot be written is kept. -/
def write (s : Supervised ρ) (bytes : Bytes) : Supervised ρ × Outcome Unit :=
  match s.started with
  | .error failure => (s, .error failure)
  | .ok process =>
    if s.inputClosed then (s, .error closedInput)
    else if Process.isDeaf process then ({ s with hasUnsent := true }, .error (.os brokenPipe))
    else (s.change (Process.feed bytes), .ok ())

def closeInput (s : Supervised ρ) : Supervised ρ × Outcome Unit :=
  match s.started with
  | .error failure => (s, .error failure)
  | .ok _ =>
    let closed := { s.change Process.endInput with inputClosed := true, hasUnsent := false }
    (closed, if s.hasUnsent && !s.inputClosed then .error (.os brokenPipe) else .ok ())

def read (s : Supervised ρ) (count : Option Nat) : Outcome (Bytes × Supervised ρ) := do
  let process ← s.started
  if s.outputClosed then .error (.invalid "read of closed file")
  let (bytes, process) := Process.read count process
  return (bytes, { s with process := some process })

end Supervised

end Scalpel.Child
