import Scalpel.Wire.Connection
import Scalpel.Files.Tree
import Scalpel.Server.Settings

/-!
The other parties: everything that is known of language servers. A peer keeps a state of its own, in
which all servers of a workspace live; it is asked to start a server and told each message that a
server receives. Nothing is assumed about what it does, so a statement about all peers is a statement
about all servers.
-/

set_option autoImplicit false

namespace Scalpel

/-- What a server does when it receives a message: it may change files, it may refuse the message,
and it may send messages or end. -/
structure Reaction where
  files : FileTree
  refusal : Option Failure := none
  arrivals : List Inbound := []

/-- A server that was started: the name of its transport, and what it sends on its own. -/
structure Launched where
  name : String
  arrivals : List Inbound := []

/-- The other parties, with states of type `σ`. -/
class Peer (σ : Type) where
  /-- Starts the server of a config for a root directory. -/
  launch : ServerConfig → String → Settings → FileTree → σ → Outcome Launched × σ
  /-- Gives a message to the server of a language. -/
  react : String → Json → FileTree → σ → Reaction × σ

end Scalpel
