import Scalpel.Bench.Run

/-!
The command line. A bench is read from the standard input, a JSON object with files and servers; a
command is run on it. What the command prints goes to the standard output, and a complaint about it to
the standard error.
-/

set_option autoImplicit false

open Scalpel

/-- All lines of an input. -/
partial def allLines (input : IO.FS.Stream) (before : String) : IO String := do
  let line ← input.getLine
  if line.isEmpty then return before
  allLines input (before ++ line)

/-- What one command prints, complains about and exits with, on the bench that a text writes. -/
@[noinline, nospecialize]
def runOn [Halves] (written : String) (arguments : List String) : String × String × Nat :=
  match Json.read (if written.isEmpty then "\x7b\x7d" else written) with
  | .error unreadable => ("", unreadable.message ++ "\n", 2)
  | .ok bench =>
    let exit := Bench.command bench arguments
    (Bench.outwardText exit.output, Bench.outwardText exit.complaint, exit.code)

def main (arguments : List String) : IO UInt32 := do
  let written ← allLines (← IO.getStdin) ""
  let _halves := Halves.avoiding (written ++ " ".intercalate arguments)
  let (output, complaint, code) := runOn written arguments
  (← IO.getStdout).putStr output
  (← IO.getStderr).putStr complaint
  return code.toUInt32
