import Scalpel.Proofs.InStep
import Scalpel.Proofs.Clerk

/-!
Runs of a client. A session is begun, and then documents are opened, changed, saved and closed, edits
are applied, messages and ends of the server arrive, and the client is supervised, in any order. After
each call the server holds the documents of the client.
-/

set_option autoImplicit false

namespace Scalpel

/-- What is done to a client from outside, or happens to it on its own. An edit names each of its
documents once. -/
inductive Call where
  | openDocument (uri content : String) (languageId : Json)
  | changeDocument (uri : String) (changes : List ContentChange)
  | saveDocument (uri : String) (content : Option String)
  | closeDocument (uri : String)
  | applyEdit (edit : WorkspaceEdit) (once : edit.names.Nodup) (label : String)
  | arrive (arrivals : List Inbound)
  | serverEnds (closure : Closure)
  | checkHealth
  | requestRestart
  | completeRestart

namespace Client

variable [Halves] {σ : Type} [Peer σ] {quiet : σ → Prop} {s after : Session (Reference σ) Client}

def doCall : Call → Action (Reference σ) Client Unit
  | .openDocument uri content languageId => do
    let _ ← openDocument uri content languageId
  | .changeDocument uri changes => do
    let _ ← change uri changes
  | .saveDocument uri content => do
    let _ ← save uri content
  | .closeDocument uri => closeDocument uri
  | .applyEdit edit _ label => applyEdit edit label
  | .arrive arrivals => Session.arrive handlers arrivals
  | .serverEnds closure => Session.arriveEnd handlers closure
  | .checkHealth => checkHealth
  | .requestRestart => do
    let _ ← requestRestart
  | .completeRestart => completeRestart

/-- A client has come to life with a server that is idle and quiet, and everything that the server
said has been handled. -/
inductive Begun (quiet : σ → Prop) : Session (Reference σ) Client → Prop
  | start {world : World (Reference σ)} {config : ServerConfig} {root : String}
    {settings : Settings} {now : Float} {interval capabilities : Json}
    {first : Session (Reference σ) Client} : world.server.Idle quiet →
    Ends start { world, owner := make config root settings now interval } (.ok capabilities)
      first →
    Settled first → Begun quiet first

/-- A call is carried out: what it sends is delivered, the server answers every edit that it is asked
to apply, what arrives is handled, and a restart succeeds. -/
structure Step (call : Call) (s after : Session (Reference σ) Client) (outcome : Outcome Unit) :
    Prop where
  ends : Ends (doCall call) s outcome after
  delivered : ∀ problem, outcome = .error (.problem problem) → problem.kind ≠ .connectionClosed
  restored : call = .completeRestart → outcome = .ok () ∧ Restored after
  settled : Settled after

inductive Run : Session (Reference σ) Client → Session (Reference σ) Client → Prop
  | refl (first : Session (Reference σ) Client) : Run first first
  | step {first mid last : Session (Reference σ) Client} {call : Call} {outcome : Outcome Unit} :
    Run first mid → Step call mid last outcome → Run first last

theorem Begun.inStep (server : Peer.Receptive quiet) (begun : Begun quiet s) : InStep quiet s := by
  obtain ⟨idle, started, _⟩ := begun
  obtain ⟨replaying, documents, _⟩ := replaying_start server idle (.inl rfl) started
  have none : s.owner.documents = {} := documents
  refine ⟨⟨replaying.idle, replaying.language, ?_, ?_, replaying.sound⟩, replaying.calm⟩
  · rw [none]
    exact replaying.texts
  · rw [none]
    exact List.nodup_nil

theorem Step.inStep {call : Call} {outcome : Outcome Unit} (server : Peer.Receptive quiet)
    (stepped : InStep quiet s) (settled : Settled s) (step : Step call s after outcome) :
    InStep quiet after := by
  have ended := step.ends
  cases call with
  | openDocument uri content languageId =>
      obtain ⟨result, opened, fails⟩ := ends_ignoring ended
      exact inStep_openDocument server stepped
        (fun problem same => step.delivered problem ((fails _).mp same)) opened
  | changeDocument uri changes =>
      obtain ⟨_, changed, _⟩ := ends_ignoring ended
      exact within_change server uri changes changed stepped
  | saveDocument uri content =>
      obtain ⟨_, saved, _⟩ := ends_ignoring ended
      exact within_save server uri content saved stepped
  | closeDocument uri => exact within_closeDocument server uri ended stepped
  | applyEdit edit once label =>
      exact inStep_applyEdit server stepped.1 settled.handled once step.delivered step.settled ended
  | arrive arrivals =>
      exact ⟨mirrored_arrive server arrivals stepped.1 ended,
        quiet_of_handled step.settled.handled⟩
  | serverEnds closure =>
      exact ⟨mirrored_arriveEnd server closure stepped.1 ended,
        quiet_of_handled step.settled.handled⟩
  | checkHealth => exact within_checkHealth server ended stepped
  | requestRestart =>
      obtain ⟨_, requested, _⟩ := ends_ignoring ended
      exact within_requestRestart server requested stepped
  | completeRestart =>
      obtain ⟨done, restored⟩ := step.restored rfl
      exact inStep_completeRestart server stepped done restored ended

theorem Run.inStep (server : Peer.Receptive quiet) (run : Run s after) (stepped : InStep quiet s)
    (settled : Settled s) : InStep quiet after ∧ Settled after := by
  induction run with
  | refl => exact ⟨stepped, settled⟩
  | step _ step ih =>
      obtain ⟨between, handled⟩ := ih
      exact ⟨step.inStep server between handled, step.settled⟩

/-- After every run of a client its server holds exactly the documents that the client has open, each
with the version and the text that the client has. -/
theorem server_holds_documents (server : Peer.Receptive quiet) (begun : Begun quiet s)
    (run : Run s after) (uri : String) :
    (after.world.server.desks after.owner.language).texts uri = after.owner.documents.view uri := by
  have settled : Settled s := by
    obtain ⟨_, _, settled⟩ := begun
    exact settled
  obtain ⟨⟨mirrored, _⟩, _⟩ := run.inStep server (begun.inStep server) settled
  exact congrFun mirrored.texts uri

end Client

/-! ### A run in which a document is opened and edited through the server -/

namespace Client

local instance serverViewHalves : Halves :=
  Halves.trial

def trialBirth : Session (Reference Clerk) Client :=
  { world := { server := { server := { answers := [
      ("initialize", .obj [("capabilities", .obj [])]),
      ("workspace/applyEdit", .obj [("applied", .bool true)])] } } }
    owner := make { language := "py", command := .str "py-server" } "/w" {} 0.0 }

def trialStart : Session (Reference Clerk) Client :=
  (start.run trialBirth).2

def advance (call : Call) (s : Session (Reference Clerk) Client) :
    Session (Reference Clerk) Client :=
  ((doCall call).run s).2

def trialOpen : Session (Reference Clerk) Client :=
  advance (.openDocument "a" "x = 1\n" .null) trialStart

def trialCall : Call :=
  .applyEdit (.single "a" { range := ⟨⟨0, 0⟩, ⟨0, 1⟩⟩, newText := "y" })
    (List.nodup_cons.mpr ⟨List.not_mem_nil, List.nodup_nil⟩) "edit"

def trialLast : Session (Reference Clerk) Client :=
  advance trialCall trialOpen

private theorem settled_of_decided {s : Session (Reference Clerk) Client}
    (handled : s.connection.receive?.isNone = true)
    (answered : (s.world.server.desks s.owner.config.language).asked.isEmpty = true) : Settled s :=
  ⟨Option.isNone_iff_eq_none.mp handled, List.isEmpty_iff.mp answered⟩

private theorem run_of_ok {call : Call} {first last : Session (Reference Clerk) Client}
    (run : Run first last) (ok : ((doCall call).run last).1.isOk = true)
    (other : call ≠ .completeRestart) (settled : Settled (advance call last)) :
    Run first (advance call last) := by
  obtain ⟨value, done⟩ := ends_of_isOk ok
  refine .step run ⟨done, fun problem failed => ?_, fun same => absurd same other, settled⟩
  cases failed

private theorem begun_trialStart : Begun (fun _ => True) trialStart := by
  have settled : Settled trialStart := settled_of_decided (by decide +kernel) (by decide +kernel)
  obtain ⟨capabilities, done⟩ :=
    ends_of_isOk (show (start.run trialBirth).1.isOk = true by decide +kernel)
  have idle : trialBirth.world.server.Idle fun _ => True := ⟨trivial, fun _ => rfl⟩
  exact .start idle done settled

private theorem run_trialLast : Run trialStart trialLast := by
  have opened : Settled trialOpen := settled_of_decided (by decide +kernel) (by decide +kernel)
  have edited : Settled trialLast := settled_of_decided (by decide +kernel) (by decide +kernel)
  have opening : Run trialStart trialOpen := by
    refine run_of_ok (.refl _) ?_ (fun same => ?_) opened
    · decide +kernel
    · cases same
  refine run_of_ok opening ?_ (fun same => ?_) edited
  · decide +kernel
  · cases same

theorem server_holds_documents_of_edited :
    Begun (fun _ => True) trialStart ∧ Run trialStart trialLast ∧
      trialLast.owner.documents.view "a" = some { version := 2, text := "y = 1\n" } ∧
      (trialLast.world.server.desks trialLast.owner.language).texts "a" =
        trialLast.owner.documents.view "a" :=
  ⟨begun_trialStart, run_trialLast, by decide +kernel,
    server_holds_documents Clerk.receptive begun_trialStart run_trialLast "a"⟩

end Client

end Scalpel
