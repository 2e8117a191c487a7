import Scalpel.Wire.Frame
import Scalpel.Wire.Connection

/-!
A transport over the input and output of a child process. What the child prints is read frame by
frame; frames whose body is no JSON value are dropped. Reading ends with the output, with a null in
place of a message or with the first error; then the child's exit is waited for and the transport is
closed.
-/

set_option autoImplicit false

namespace Scalpel.Stdio

open Scalpel

variable [Halves]

/-- Why no further message is read: more output is needed, the output is over, with an error or
without, or the reader is gone. -/
inductive Stop where
  | waiting (unread : Bytes)
  | over (error : Option String)
  | gone

/-- What reading past the end of the output comes to. The output may go on, be over, or end in an
error. -/
inductive Edge where
  | goesOn
  | over
  | broken (e : OsError)

def atEdge (edge : Edge) (unread : Bytes) (error : Option String) : Stop :=
  match edge with
  | .goesOn => .waiting unread
  | .over => .over error
  | .broken e => .over (some e.message)

/-- The messages at the front of the output, up to a number of frames, and why there are no more. -/
def messages (edge : Edge) : Nat → Bytes → List Json × Stop
  | 0, unread => ([], .waiting unread)
  | budget + 1, unread =>
    match Frame.read unread with
    | (.message .null, _) => ([], .over none)
    | (.message value, rest) =>
      let (more, stop) := messages edge budget rest
      (value :: more, stop)
    | (.finished, _) => ([], atEdge edge unread none)
    | (.truncated expected got, _) =>
      ([], atEdge edge unread (some (Frame.truncation expected got).message))
    | (.failed (.unreadable _), rest) => messages edge budget rest
    | (.failed (.unbounded _), _) | (.failed .tooDeep, _) => ([], .gone)
    | (.failed failure, _) => ([], .over (some failure.message))

/-- Output arrives. The result says what is unread, or nothing when the reader has ended; the exit
code is that of the child once it has ended. -/
def receive (c : Connection) (edge : Edge) (exitCode : Option Int) (output : Bytes) :
    Stop × Connection :=
  let (values, stop) := messages edge (output.length + 1) output
  let arrived := c.deliver (values.map .message)
  match stop with
  | .over error => (stop, arrived.endTransport (.exited exitCode error))
  | .waiting _ | .gone => (stop, arrived)

/-- The problem of a message that the child's input did not take. -/
def writeFailed (language : String) (cause : Failure) : Problem :=
  .closed ("Failed to write to " ++ language ++ " language server: " ++ cause.message)
    (some cause.message)

/-- The frame of a message, which is to be written to the child's input. -/
def frame (c : Connection) (message : Json) : Outcome Bytes :=
  if c.transportClosed then fail (.closed ("Transport to " ++ c.name ++ " is closed"))
  else Frame.write message

end Scalpel.Stdio
