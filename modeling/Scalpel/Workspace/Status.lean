import Scalpel.Workspace.Basic

/-!
What a workspace tells of itself and of its servers.
-/

set_option autoImplicit false

namespace Scalpel.Workspace

variable [Halves]

variable {σ : Type}

def clients (w : Workspace σ) : List (String × Client) :=
  w.members.map fun entry => (entry.1, entry.2.client)

def health (w : Workspace σ) (time : String) : Json :=
  .obj (w.clients.map fun (language, client) => (language, .obj (client.health.fields time)))

def clientFields (time : String) (client : Client) : Json.Fields :=
  [("command", client.config.command),
    ("open_documents", .int (Int.ofNat client.documents.documents.length))]
    ++ client.health.fields time

def sortedLanguages (servers : ServerTable) : List String :=
  (servers.map (·.1)).mergeSort Half.inOrder

def status (w : Workspace σ) (settings : Settings) (time : String) : Json :=
  .obj [
    ("root", .str w.root),
    ("configured_languages", .arr ((sortedLanguages settings.servers).map .str)),
    ("running_servers", .obj (w.clients.map fun (language, client) =>
      (language, .obj (clientFields time client))))]

def name (w : Workspace σ) : String :=
  String.ofList ((Path.Parts.of w.root.toList).names.getLastD [])

def toJson (w : Workspace σ) (time : String) : Json :=
  .obj [
    ("path", .str w.root),
    ("name", .str w.name),
    ("activated_at", .str time),
    ("lsp",
      match w.isOpen, w.settings with
      | true, some settings => w.status settings time
      | _, _ => .null)]

end Scalpel.Workspace
