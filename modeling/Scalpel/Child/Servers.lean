import Scalpel.Child.Supervision
import Scalpel.Server.Binary
import Scalpel.Wire.Peer
import Scalpel.Wire.Stdio

/-!
Language servers that are child processes, whatever runs in them. A server is launched by looking its
command up and starting it in the root directory; every message is written to its input as a frame, and
what it prints is read as frames.
-/

set_option autoImplicit false

namespace Scalpel.Child

open Scalpel

variable [Halves] {ρ : Type} [Process ρ]

/-- A server with what it has printed and was not read yet; `listening` says that its output is still
read. -/
structure Served (ρ : Type) where
  child : Supervised ρ
  unread : Bytes := []
  listening : Bool := true
  shutdownTimeout : Json := .null

/-- The servers by language, with the search path and the variables that they are started with. -/
structure Servers (ρ : Type) where
  searchPath : String
  environ : List (String × String) := []
  served : List (String × Served ρ) := []

/-- What a server has printed arrives. At the end of its output the server is waited for; the end is
not told where nothing can be waited for that long. -/
def Served.collect (s : Served ρ) : List Inbound × Served ρ :=
  if s.listening then
    match s.child.process with
    | none => ([], s)
    | some process =>
      let (printed, process) := Process.drain process
      let edge : Stdio.Edge := if (Process.exitCode process).isSome then .over else .goesOn
      let output := s.unread ++ printed
      let (values, stop) := Stdio.messages edge (output.length + 1) output
      let arrivals := values.map .message
      let child := { s.child with process := some process }
      match stop with
      | .waiting unread => (arrivals, { s with child, unread })
      | .over error =>
        match child.wait s.shutdownTimeout with
        | .ok child =>
          (arrivals ++ [.closure (.exited child.exitCode error)],
            { s with child, unread := [], listening := false })
        | .error _ => (arrivals, { s with child, unread := [], listening := false })
      | .gone => (arrivals, { s with child, unread := [], listening := false })
  else ([], s)

def Servers.put (s : Servers ρ) (language : String) (served : Served ρ) : Servers ρ :=
  { s with served := (language, served) :: s.served.filter fun entry => entry.1 ≠ language }

instance : Peer (Servers ρ) where
  launch config root settings files servers :=
    let outcome : Outcome (Served ρ) := do
      let binary ← Binary.resolve files servers.searchPath config.command (some config.language)
      let child ← ({ binary, arguments := config.args, directory := root,
                     language := config.language } : Supervised ρ).launch files servers.searchPath
        servers.environ
      return { child, shutdownTimeout := settings.shutdownTimeout }
    match outcome with
    | .error failure => (.error failure, servers)
    | .ok served =>
      let (arrivals, served) := served.collect
      (.ok { name := config.language ++ " language server", arrivals },
        servers.put config.language served)
  react language message files servers :=
    match servers.served.lookup language with
    | none => ({ files }, servers)
    | some served =>
      let outcome : Outcome (Supervised ρ) := do
        let frame ← Frame.write message
        match served.child.write frame with
        | (_, .error failure) => fail (Stdio.writeFailed language failure)
        | (child, .ok ()) => return child
      match outcome with
      | .error failure => ({ files, refusal := some failure }, servers)
      | .ok child =>
        let (arrivals, served) := { served with child }.collect
        ({ files, arrivals }, servers.put language served)

end Scalpel.Child
