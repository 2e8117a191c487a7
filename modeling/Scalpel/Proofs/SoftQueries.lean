import Scalpel.Proofs.Confinement
import Scalpel.Proofs.Freshness
import Scalpel.Proofs.FileUris
import Scalpel.Workspace.Navigation

/-!
Queries that come to nothing. Where a request of a query fails softly, the query has an empty answer,
and the documents and files are as the request has left them. Diagnostics are the exception: they
forgive an error that the server answers, but not that it does not answer or has ended.
-/

set_option autoImplicit false

namespace Scalpel.Workspace

variable [Halves] {σ : Type}

/-! ### Queries -/

inductive Query where
  | find (name : String)
  | symbols
  | symbolAt (place : Position)
  | references (name : String) (declaration : Json)
  | definition (place : Position)
  | hover (place : Position)
  | completion (place : Position)
  | diagnostics

namespace Query

def Answer : Query → Type
  | find _ | symbolAt _ => Option Symbol
  | symbols => List Symbol
  | references _ _ | definition _ => List Location
  | hover _ => Json
  | completion _ => List Completion
  | diagnostics => List Diagnostic

def ask [Peer σ] : (q : Query) → String → Operation σ q.Answer
  | find name, uri => Workspace.findSymbol uri name
  | symbols, uri => Workspace.symbols uri
  | symbolAt place, uri => Workspace.symbolAt uri place
  | references name declaration, uri => Workspace.references uri name declaration
  | definition place, uri => Workspace.definition uri place
  | hover place, uri => Workspace.hover uri place
  | completion place, uri => Workspace.completion uri place
  | diagnostics, uri => Workspace.diagnostics uri

def question [Peer σ] : (q : Query) → String → Action σ Client q.Answer
  | find name, uri => Client.findSymbol uri name
  | symbols, uri => Client.symbols uri
  | symbolAt place, uri => Client.symbolAt uri place
  | references name declaration, uri => do
    match ← Client.findSymbol uri name with
    | none => return []
    | some symbol =>
      Client.softly [] (Client.references uri symbol.selection.start declaration)
  | definition place, uri => Client.softly [] (Client.definition uri place)
  | hover place, uri => Client.softly .null (Client.hover uri place)
  | completion place, uri => Client.softly [] (Client.completion uri place)
  | diagnostics, uri => Client.diagnosticsOf uri

theorem ask_eq [Peer σ] (q : Query) (uri : String) :
    (q.ask uri : Operation σ q.Answer) = Workspace.ask uri q.question := by
  cases q <;> rfl

/-- The answer of a query that has come to nothing: an empty one, or the diagnostics that were published
last. -/
def nothing : (q : Query) → String → Client → q.Answer
  | find _, _, _ | symbolAt _, _, _ => none
  | symbols, _, _ | references _ _, _, _ | definition _, _, _ | completion _, _, _ => []
  | hover _, _, _ => .null
  | diagnostics, uri, client => client.published uri

def forgives : Query → Failure → Bool
  | diagnostics, .problem problem => problem.kind = .protocol
  | diagnostics, _ => false
  | _, failure => Client.isSoft failure

def looks : Query → Bool
  | find _ | symbols | symbolAt _ | references _ _ => true
  | _ => false

/-- A query that begins in a session poses a request, with its method and what is asked, in the session as
it is then. -/
inductive Poses [Peer σ] (uri : String) (s : Session σ Client) :
    Query → String → Json → Session σ Client → Prop
  | outline {q : Query} : q.looks = true →
    Poses uri s q "textDocument/documentSymbol" (.obj [Client.documentParam uri]) s
  | references {name declaration symbol mid} :
    Ends (Client.findSymbol uri name) s (.ok (some symbol)) mid →
    Poses uri s (.references name declaration) "textDocument/references"
      (.obj (Client.placeParams uri symbol.selection.start
        ++ [("context", .obj [("includeDeclaration", declaration)])])) mid
  | definition {place} :
    Poses uri s (.definition place) "textDocument/definition" (.obj (Client.placeParams uri place)) s
  | hover {place} :
    Poses uri s (.hover place) "textDocument/hover" (.obj (Client.placeParams uri place)) s
  | completion {place} :
    Poses uri s (.completion place) "textDocument/completion" (.obj (Client.placeParams uri place)) s
  | diagnostics : ((s.owner.capabilities.field? "diagnosticProvider").getD .null).isTruthy = true →
    Poses uri s .diagnostics "textDocument/diagnostic" (.obj [Client.documentParam uri]) s

end Query

end Scalpel.Workspace

/-! ### Failures of requests -/

namespace Scalpel.Client

variable {σ α β : Type} {s last : Session σ Client} {uri : String} {failure : Failure}

theorem ends_bind_of_failed {action : Action σ Client α} {next : α → Action σ Client β}
    (failed : Ends action s (.error failure) last) : Ends (action >>= next) s (.error failure) last :=
  ends_bind.mpr (.inr ⟨failure, rfl, failed⟩)

theorem ends_softly_of_failed {query : Action σ Client α} (default : α)
    (failed : Ends query s (.error failure) last) :
    Ends (softly default query) s (if isSoft failure then .ok default else .error failure) last := by
  have tried : Ends (Session.attempt query) s (.ok (.error failure)) last :=
    Session.ends_attempt.mpr ⟨_, rfl, failed⟩
  refine tried.bind.mpr ?_
  dsimp only
  cases isSoft failure with
  | true => exact ends_pure.mpr ⟨rfl, rfl⟩
  | false => exact ends_throw.mpr ⟨rfl, rfl⟩

theorem ends_bind_of_softly {action : Action σ Client α} {next : α → Action σ Client β} {default : α}
    {value : β}
    (ended : Ends action s (if isSoft failure then .ok default else .error failure) last)
    (rest : Ends (next default) last (.ok value) last) :
    Ends (action >>= next) s (if isSoft failure then .ok value else .error failure) last := by
  cases soft : isSoft failure with
  | true =>
      rw [soft] at ended
      exact ended.bind.mpr rest
  | false =>
      rw [soft] at ended
      exact ends_bind_of_failed ended

variable [Halves] [Peer σ]

theorem ends_symbols_of_failed
    (failed : Ends (request "textDocument/documentSymbol" (.obj [documentParam uri])) s
      (.error failure) last) :
    Ends (symbols uri) s (if isSoft failure then .ok [] else .error failure) last := by
  have outlined : Ends (outline uri) s (.error failure) last := ends_bind_of_failed failed
  have none : Outline.ofJson (.arr []) = .ok [] := by
    unfold Outline.ofJson Outline.ofListing Outline.ofEntries
    rfl
  exact ends_bind_of_softly (ends_softly_of_failed (.arr []) outlined)
    (Session.ends_settle.mpr ⟨none.symm, rfl⟩)

theorem ends_findSymbol_of_failed (name : String)
    (failed : Ends (request "textDocument/documentSymbol" (.obj [documentParam uri])) s
      (.error failure) last) :
    Ends (findSymbol uri name) s (if isSoft failure then .ok none else .error failure) last :=
  ends_bind_of_softly (ends_symbols_of_failed failed) (Session.ends_settle.mpr ⟨rfl, rfl⟩)

theorem ends_adopt_of_text? {text : String} (mirrored : s.owner.documents.text? uri = some text) :
    Ends (adopt uri text) s (.ok ()) s := by
  obtain ⟨document, found, same⟩ := Option.map_eq_some_iff.mp mirrored
  refine ends_current_bind.mpr ?_
  rw [found]
  exact ends_ite.mpr (.inr ⟨not_not_intro same, ends_pure.mpr ⟨rfl, rfl⟩⟩)

end Scalpel.Client

namespace Scalpel.Workspace.Query

variable [Halves] {σ : Type} [Peer σ] {s mid last : Session σ Client} {q : Query} {uri method : String}
  {params : Json} {failure : Failure}

theorem ends_question_of_outline (looks : q.looks = true)
    (failed : Ends (Client.request "textDocument/documentSymbol" (.obj [Client.documentParam uri])) s
      (.error failure) last) :
    Ends (q.question uri) s
      (if q.forgives failure then .ok (q.nothing uri last.owner) else .error failure) last := by
  cases q with
  | find name => exact Client.ends_findSymbol_of_failed name failed
  | symbols => exact Client.ends_symbols_of_failed failed
  | symbolAt place =>
      exact Client.ends_bind_of_softly (Client.ends_symbols_of_failed failed)
        (ends_pure.mpr ⟨rfl, rfl⟩)
  | references name declaration =>
      exact Client.ends_bind_of_softly (Client.ends_findSymbol_of_failed name failed)
        (ends_pure.mpr ⟨rfl, rfl⟩)
  | definition place => cases looks
  | hover place => cases looks
  | completion place => cases looks
  | diagnostics => cases looks

theorem ends_diagnosticsOf_of_failed
    (pulls : ((s.owner.capabilities.field? "diagnosticProvider").getD .null).isTruthy = true)
    (failed : Ends (Client.request "textDocument/diagnostic" (.obj [Client.documentParam uri])) s
      (.error failure) last) :
    Ends (Client.diagnosticsOf uri) s
      (if diagnostics.forgives failure then .ok (last.owner.published uri) else .error failure)
      last := by
  have tried : Ends (Session.attempt (Client.request "textDocument/diagnostic"
      (.obj [Client.documentParam uri]))) s (.ok (.error failure)) last :=
    Session.ends_attempt.mpr ⟨_, rfl, failed⟩
  have published : Ends (do
      return (← Client.current).published uri : Action σ Client (List Diagnostic)) last
      (.ok (last.owner.published uri)) last :=
    Client.ends_current_bind.mpr (ends_pure.mpr ⟨rfl, rfl⟩)
  unfold Client.diagnosticsOf
  refine Client.ends_current_bind.mpr ?_
  rw [if_pos pulls]
  refine tried.bind.mpr ?_
  cases failure with
  | problem problem =>
      dsimp only
      by_cases answered : problem.kind = .protocol
      · have forgiven : diagnostics.forgives (.problem problem) = true := decide_eq_true answered
        rw [if_pos answered, if_pos forgiven]
        exact published
      · have unforgiven : ¬diagnostics.forgives (.problem problem) = true := by
          simpa [forgives] using answered
        rw [if_neg answered, if_neg unforgiven]
        exact Client.ends_bind_of_failed (Session.ends_raise.mpr ⟨rfl, rfl⟩)
  | _ => exact Client.ends_bind_of_failed (ends_throw.mpr ⟨rfl, rfl⟩)

/-- A query of which a request fails has come to nothing if it forgives the failure, and has failed in the
same way if not. Nothing else is done after the request. -/
theorem ends_question_of_failed (posed : q.Poses uri s method params mid)
    (failed : Ends (Client.request method params) mid (.error failure) last) :
    Ends (q.question uri) s
      (if q.forgives failure then .ok (q.nothing uri last.owner) else .error failure) last := by
  cases posed with
  | outline looks => exact ends_question_of_outline looks failed
  | references found =>
      have asked : Ends (Client.references uri _ _) mid (.error failure) last :=
        Client.ends_bind_of_failed failed
      exact found.bind.mpr (Client.ends_softly_of_failed [] asked)
  | definition => exact Client.ends_softly_of_failed [] (Client.ends_bind_of_failed failed)
  | hover => exact Client.ends_softly_of_failed Json.null (Client.ends_bind_of_failed failed)
  | completion => exact Client.ends_softly_of_failed [] (Client.ends_bind_of_failed failed)
  | diagnostics pulls => exact ends_diagnosticsOf_of_failed pulls failed

/-- What a query does up to the end of a request stays within a frame that takes in what clients exchange
with their servers. -/
theorem Poses.within {F : Frame (Session σ Client)} (dealings : Client.Dealings F fun _ => True)
    (posed : q.Poses uri s method params mid)
    (failed : Ends (Client.request method params) mid (.error failure) last) : F.holds s last := by
  have requested : F.holds mid last := dealings.within_request (Client.fitRequest _) _ _ failed
  cases posed with
  | references found =>
      exact F.trans (dealings.within_findSymbol (Client.fitRequest _) _ _ found) requested
  | _ => exact requested

end Scalpel.Workspace.Query

/-! ### Synchronized documents -/

namespace Scalpel.Workspace

variable [Halves] {σ : Type} {w : Workspace σ} {uri named path : String}

theorem ends_locate_of_whereabouts (located : w.whereabouts uri = .ok (named, path)) :
    Ends (locate uri : Operation σ (String × String)) w (.ok (named, path)) w := by
  obtain ⟨same, stays⟩ := ends_locate
    (show Ends (locate uri : Operation σ (String × String)) w _ _ from rfl)
  rw [located] at same
  exact Prod.ext same stays

theorem ends_needSettings_of_known {settings : Settings} (known : w.settings = some settings) :
    Ends (needSettings : Operation σ Settings) w (.ok settings) w := by
  obtain ⟨same, stays⟩ := ends_needSettings_known known rfl
  exact Prod.ext same stays

theorem ends_openUp_of_known {settings : Settings} (known : w.settings = some settings) :
    Ends (openUp : Operation σ Settings) w (.ok settings) { w with isOpen := true } := by
  have noted : Ends (modify fun w => { w with isOpen := true } : Operation σ PUnit) w (.ok ⟨⟩)
      { w with isOpen := true } := ends_modify.mpr ⟨rfl, rfl⟩
  refine (ends_needSettings_of_known known).bind.mpr ?_
  exact noted.bind.mpr (ends_pure.mpr ⟨rfl, rfl⟩)

theorem whereabouts_of_named (located : w.whereabouts uri = .ok (named, path)) :
    w.whereabouts named = .ok (named, path) := by
  obtain ⟨normal, resolved⟩ := whereabouts_eq_ok located
  unfold whereabouts
  rw [Uri.normalize_of_isFile (Uri.isFile_of_normalize normal)]
  change (do return (named, ← w.world.files.resolveDocument named w.root)) = _
  rw [resolved]
  rfl

theorem ends_readText_of_located {settings : Settings} {text : String}
    (known : w.settings = some settings) (located : w.whereabouts uri = .ok (named, path))
    (holds : textOf w.world.files settings.encoding named path = .ok text) :
    Ends (readText uri : Operation σ String) w (.ok text) (w.noted path) := by
  refine (ends_needSettings_of_known known).bind.mpr ?_
  refine (ends_locate_of_whereabouts located).bind.mpr ?_
  exact ends_note_bind.mpr (ends_get_bind.mpr (ends_settle.mpr ⟨holds.symm, rfl⟩))

/-- A document is synchronized: it has a file within the root, a client runs for it, and the client has the
text that the file has. -/
structure Synchronized (w : Workspace σ) (uri : String) where
  settings : Settings
  named : String
  path : String
  language : String
  member : Member
  text : String
  configured : w.settings = some settings
  located : w.whereabouts uri = .ok (named, path)
  served : languageOf? settings named = .ok (some language)
  runs : w.members.lookup language = some member
  holds : textOf w.world.files settings.encoding named path = .ok text
  mirrored : member.client.documents.text? named = some text

namespace Synchronized

def session (sync : Synchronized w uri) : Session σ Client :=
  w.sessionOf sync.member

def looked (sync : Synchronized w uri) : Workspace σ :=
  ({ w with isOpen := true } : Workspace σ).noted sync.path

def left (sync : Synchronized w uri) (last : Session σ Client) : Workspace σ :=
  sync.looked.withSession sync.language last

variable [Peer σ]

theorem ends_prepare (sync : Synchronized w uri) :
    Ends (prepare uri : Operation σ (String × String)) w (.ok (sync.language, sync.named))
      sync.looked := by
  have running : w.member? sync.language = some sync.member := member?_of_listed sync.runs
  have listed : (w.members.lookup sync.language).isSome = true := by
    rw [sync.runs]
    rfl
  have opened : Ends (openUp : Operation σ Settings) w (.ok sync.settings) { w with isOpen := true } :=
    ends_openUp_of_known sync.configured
  have again : Ends (openUp : Operation σ Settings) { w with isOpen := true } (.ok sync.settings)
      { w with isOpen := true } :=
    ends_openUp_of_known (w := { w with isOpen := true }) sync.configured
  have needed : Ends (needClient sync.language : Operation σ Unit) { w with isOpen := true } (.ok ())
      { w with isOpen := true } := by
    refine again.bind.mpr ?_
    refine ends_get_bind.mpr ?_
    exact ends_ite.mpr (.inl ⟨listed, ends_pure.mpr ⟨rfl, rfl⟩⟩)
  have chosen : Ends (needClientFor sync.named : Operation σ String) w (.ok sync.language)
      { w with isOpen := true } := by
    refine opened.bind.mpr ?_
    refine (ends_settle_bind.mpr (.inr ⟨some sync.language, sync.served, ?_⟩))
    exact needed.bind.mpr (ends_pure.mpr ⟨rfl, rfl⟩)
  have read : Ends (readText sync.named : Operation σ String) { w with isOpen := true } (.ok sync.text)
      sync.looked :=
    ends_readText_of_located (w := { w with isOpen := true }) sync.configured
      (whereabouts_of_named sync.located) sync.holds
  have synchronized : Ends (synchronize sync.language sync.named : Operation σ Unit)
      { w with isOpen := true } (.ok ()) sync.looked := by
    refine read.bind.mpr ?_
    refine ends_onClient.mpr (.inr ⟨sync.member, sync.session, running, ?_, ?_⟩)
    · exact Client.ends_adopt_of_text? sync.mirrored
    · exact (withSession_sessionOf (w := sync.looked) running).symm
  refine (ends_locate_of_whereabouts sync.located).bind.mpr ?_
  refine chosen.bind.mpr ?_
  exact synchronized.bind.mpr (ends_pure.mpr ⟨rfl, rfl⟩)

theorem ends_ask (sync : Synchronized w uri) {q : Query} {outcome : Outcome q.Answer}
    {last : Session σ Client} (ended : Ends (q.question sync.named) sync.session outcome last) :
    Ends (q.ask uri) w outcome (sync.left last) := by
  rw [Query.ask_eq]
  refine sync.ends_prepare.bind.mpr (ends_onClient.mpr (.inr ⟨sync.member, last, ?_, ended, rfl⟩))
  exact member?_of_listed sync.runs

end Synchronized

/-! ### Queries that come to nothing -/

def documentsOf (w : Workspace σ) (language : String) : Option Tracker :=
  (w.member? language).map (·.client.documents)

/-- A request that a query of a synchronized document sends may fail. If the query forgives the failure, it
ends well and has come to nothing; else it fails in the same way. Queries forgive the soft failures,
except that diagnostics forgive only an error that the server has answered. Nothing is done after the
request: where the server asks for no edits all open documents are as they were before the query, and
where it spares the files they are as well. -/
theorem Query.ends_of_failed [Peer σ] (sync : Synchronized w uri) {q : Query} {method : String}
    {params : Json} {mid last : Session σ Client} {failure : Failure}
    (posed : q.Poses sync.named sync.session method params mid)
    (failed : Ends (Client.request method params) mid (.error failure) last) :
    Ends (q.ask uri) w
        (if q.forgives failure then .ok (q.nothing sync.named last.owner) else .error failure)
        (sync.left last) ∧
      (∀ {quiet : σ → Prop}, (Peer.Quiet quiet fun _ => True) → w.Calm quiet →
        ∀ language, (sync.left last).documentsOf language = w.documentsOf language) ∧
      (Peer.SparesFiles σ → (sync.left last).world.files = w.world.files) := by
  refine ⟨sync.ends_ask (ends_question_of_failed posed failed), ?_, ?_⟩
  · intro quiet server calm language
    have calmly : Client.Calm quiet sync.session := calm.session (member?_of_listed sync.runs)
    have stays := posed.within (Client.routine_calm server).dealings failed calmly
    unfold documentsOf Synchronized.left
    rw [member?_withSession]
    by_cases same : language = sync.language
    · rw [if_pos same, same, member?_of_listed sync.runs]
      exact congrArg some stays.2.documents
    · rw [if_neg same]
      rfl
  · intro spares
    unfold Synchronized.left
    rw [world_withSession]
    exact posed.within (Client.recording_filesStay spares).toRoutine.dealings failed

end Scalpel.Workspace

/-! ### A server that says nothing -/

namespace Scalpel

/-- A workspace with one member is calm if its server is, and nothing that has arrived is left to
handle. -/
theorem Workspace.calm_of_alone {σ : Type} {quiet : σ → Prop} {w : Workspace σ} {language : String}
    {member : Member} (server : quiet w.world.server) (alone : w.members = [(language, member)])
    (former : w.former = []) (handled : member.connection.inbox = []) : w.Calm quiet := by
  refine ⟨server, ?_⟩
  intro other found known awake value waiting
  unfold Workspace.member? at known
  rw [alone, former, List.lookup_cons] at known
  split at known
  · cases known
    rw [handled] at waiting
    cases waiting
  · cases known

/-- A server that offers diagnostics when it shakes hands, and then answers no request. -/
structure Mute where

namespace Mute

def answer (message : Json) : List Inbound :=
  match message.field? "method", message.field? "id" with
  | some (.str method), some id =>
    if method = "initialize" then
      [.message (.obj [("id", id),
        ("result", .obj [("capabilities", .obj [("diagnosticProvider", .bool true)])])])]
    else []
  | _, _ => []

instance : Peer Mute where
  launch config _ _ _ server := (.ok { name := config.language }, server)
  react _ message files server := ({ files, arrivals := answer message }, server)

theorem quiet : Peer.Quiet (fun _ : Mute => True) fun _ => True where
  launch _ _ _ _ _ _ := trivial
  greeting _ _ _ _ _ _ _ done := by
    cases done
    exact fun _ member => absurd member List.not_mem_nil
  react _ _ _ _ _ _ := trivial
  reaction _ message _ _ _ _ arrival member := by
    change arrival ∈ answer message at member
    unfold answer at member
    split at member
    · split at member
      · cases List.mem_singleton.mp member
        rintro ⟨asked, _⟩
        cases asked
      · cases member
    · cases member

theorem sparesFiles : Peer.SparesFiles Mute :=
  fun _ _ _ _ => rfl

local instance muteHalves : Halves :=
  Halves.trial

def session : Session Mute Client :=
  Client.withDocuments (Client.start.run {
    world := { server := Mute.mk, files := (Clerk.workspace (.str "utf-8")).world.files }
    owner := Client.make { language := "py", command := .str "py-server" } "/w"
      (Clerk.settings (.str "utf-8")) 0.0 }).2
    { documents := [
        { uri := "file:///w/a.py", version := 1, content := "f = 1\n", languageId := .str "py" }] }

def workspace : Workspace Mute :=
  { world := session.world
    root := "/w"
    settings := some (Clerk.settings (.str "utf-8"))
    isOpen := true
    members := [("py", Workspace.memberOf session)] }

def synchronized : workspace.Synchronized "a.py" where
  settings := Clerk.settings (.str "utf-8")
  named := "file:///w/a.py"
  path := "/w/a.py"
  language := "py"
  member := Workspace.memberOf session
  text := "f = 1\n"
  configured := rfl
  located := ok_of_toOption (by decide +kernel)
  served := ok_of_toOption (by decide +kernel)
  runs := rfl
  holds := ok_of_toOption (by decide +kernel)
  mirrored := by decide +kernel

theorem calm : workspace.Calm fun _ => True := by
  have empty : (Workspace.memberOf session).connection.inbox.isEmpty = true := by decide +kernel
  exact Workspace.calm_of_alone trivial rfl rfl (List.isEmpty_iff.mp empty)

end Mute

namespace Workspace

local instance softHalves : Halves :=
  Halves.trial

theorem Query.ends_of_failed_of_mute :
    (∃ after, Ends ((Query.hover ⟨0, 0⟩).ask "a.py") Mute.workspace (.ok .null) after ∧
      after.documentsOf "py" = Mute.workspace.documentsOf "py" ∧
      after.world.files = Mute.workspace.world.files) ∧
    ∃ problem after, problem.kind = .requestTimeout ∧
      Ends (Query.diagnostics.ask "a.py") Mute.workspace (.error (.problem problem)) after := by
  constructor
  · have late : Outcome.kind? ((Client.request "textDocument/hover"
        (.obj (Client.placeParams "file:///w/a.py" ⟨0, 0⟩)) : Action Mute Client Json).run
        Mute.synchronized.session).1 = some .requestTimeout := by
      decide +kernel
    obtain ⟨problem, kind, failed⟩ := ends_of_kind? late
    obtain ⟨ended, documents, files⟩ := Query.ends_of_failed Mute.synchronized .hover failed
    have forgiven : (Query.hover ⟨0, 0⟩).forgives (.problem problem) = true := by
      simp [Query.forgives, Client.isSoft, kind]
    rw [if_pos forgiven] at ended
    exact ⟨_, ended, documents Mute.quiet Mute.calm "py", files Mute.sparesFiles⟩
  · have late : Outcome.kind? ((Client.request "textDocument/diagnostic"
        (.obj [Client.documentParam "file:///w/a.py"]) : Action Mute Client Json).run
        Mute.synchronized.session).1 = some .requestTimeout := by
      decide +kernel
    obtain ⟨problem, kind, failed⟩ := ends_of_kind? late
    obtain ⟨ended, -⟩ :=
      Query.ends_of_failed Mute.synchronized (.diagnostics (by decide +kernel)) failed
    have unforgiven : ¬Query.diagnostics.forgives (.problem problem) = true := by
      simp [Query.forgives, kind]
    rw [if_neg unforgiven] at ended
    exact ⟨problem, _, kind, ended⟩

end Workspace

end Scalpel
