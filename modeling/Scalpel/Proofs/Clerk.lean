import Scalpel.Proofs.Housing
import Scalpel.Proofs.Mirror

/-!
A server that answers every request from a table. It says nothing on its own, refuses nothing and
changes no files, so it is as obliging as statements about servers may ask for.
-/

set_option autoImplicit false

namespace Scalpel

theorem Halves.isWithin_trial : 32 ≤ 480 ∧ 480 < 544 := by
  decide

@[reducible] def Halves.trial : Halves :=
  ⟨480, isWithin_trial⟩

/-- A server with its answers to the methods that it knows. -/
structure Clerk where
  answers : List (String × Json)

namespace Clerk

def answer (clerk : Clerk) (message : Json) : List Inbound :=
  match message.field? "method", message.field? "id" with
  | some (.str method), some id =>
    [.message (.obj [("id", id), ("result", (clerk.answers.lookup method).getD .null)])]
  | _, _ => []

instance : Peer Clerk where
  launch config _ _ _ clerk := (.ok { name := config.language }, clerk)
  react _ message files clerk := ({ files, arrivals := clerk.answer message }, clerk)

theorem quiet_of_mem_answer {clerk : Clerk} {message : Json} {arrival : Inbound}
    (member : arrival ∈ clerk.answer message) : arrival.Quiet := by
  unfold answer at member
  split at member
  · cases List.mem_singleton.mp member
    rintro ⟨asked, _⟩
    cases asked
  · cases member

theorem receptive : Peer.Receptive fun _ : Clerk => True where
  launch _ _ _ _ _ _ := trivial
  greeting _ _ _ _ _ _ _ done := by
    cases done
    exact fun _ member => absurd member List.not_mem_nil
  react _ _ _ _ _ _ := trivial
  reaction _ _ _ _ _ _ _ member := quiet_of_mem_answer member
  takes _ _ _ _ _ := rfl

theorem sparesFiles : Peer.SparesFiles Clerk :=
  fun _ _ _ _ => rfl

/-- A clerk that finds a symbol at the start of every document, and applies every edit. -/
def editing : Clerk :=
  { answers := [
      ("initialize", .obj [("capabilities", .obj [])]),
      ("textDocument/documentSymbol", .arr [.obj [
        ("name", .str "f"),
        ("kind", .int 12),
        ("range", (Range.mk ⟨0, 0⟩ ⟨0, 5⟩).toJson),
        ("selectionRange", (Range.mk ⟨0, 0⟩ ⟨0, 1⟩).toJson)]]),
      ("workspace/applyEdit", .obj [("applied", .bool true)])] }

def settings (encoding : Json) : Settings :=
  { servers := [("py", { language := "py", command := .str "py-server", extensions := [".py"] })]
    encoding }

/-- A workspace with one file, in which no server has been started. -/
def workspace (encoding : Json) : Workspace Clerk :=
  { world :=
      { server := editing
        files :=
          { entries := [
              ([['w']], .directory),
              ([['w'], ['a', '.', 'p', 'y']], .file [102, 32, 61, 32, 49, 10] 0o644)]
            workingDirectory := "/w" } }
    root := "/w"
    settings := some (settings encoding) }

theorem calm_workspace (encoding : Json) : (workspace encoding).Calm fun _ => True :=
  ⟨trivial, fun _ _ found => nomatch found⟩

end Clerk

end Scalpel
