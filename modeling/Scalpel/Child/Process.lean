import Scalpel.Files.Tree
import Scalpel.Problem

/-!
Child processes: everything that is known of them. What a process does is its own affair; a library can
start it, give it input, signal it, let time pass and take what it prints. Nothing is assumed about it, so
a statement about all processes is a statement about all programs.
-/

set_option autoImplicit false

namespace Scalpel.Child

open Scalpel

/-- Processes, running or ended, of type `ρ`. -/
class Process (ρ : Type) where
  /-- Starts a program, which is looked for in a search path, with arguments, in a directory and with
  variables. -/
  start : FileTree → String → String → List String → String → List (String × String) → Except OsError ρ
  /-- The code with which a process has ended; it is negative when a signal ended it. -/
  exitCode : ρ → Option Int
  /-- Whether nothing can be written to a process any more. -/
  isDeaf : ρ → Bool
  feed : Bytes → ρ → ρ
  endInput : ρ → ρ
  signal : Nat → ρ → ρ
  passTime : Float → ρ → ρ
  /-- Takes all that a process prints before it waits for something. -/
  drain : ρ → Bytes × ρ
  /-- Takes a number of bytes, or all bytes up to the end of the output, while time passes. -/
  read : Option Nat → ρ → Bytes × ρ

/-- The signals that ask a process to end and that end it, by their numbers. -/
def terminate : Nat := 15

def killing : Nat := 9

end Scalpel.Child
