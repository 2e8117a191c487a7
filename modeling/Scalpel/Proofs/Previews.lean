import Scalpel.Proofs.Refusals

/-!
Operations that are only tried out. Such an operation goes the same way as one that is meant, up to the
point where its edit would be submitted. On that way no file is written and no edit is submitted, and
the only document that changes is the operation's own: its client takes over the text that the file has.
-/

set_option autoImplicit false

namespace Scalpel

/-! ### What servers do to files -/

/-- Servers have been launched and have received messages, the latest first, and both they and the files
are as that has left them. -/
inductive Driven {σ : Type} [Peer σ] (first : σ) (before : FileTree) :
    List (String × Json) → σ → FileTree → Prop
  | start : Driven first before [] first before
  | launched {sent : List (String × Json)} {server : σ} {files : FileTree} (config : ServerConfig)
    (root : String) (settings : Settings) : Driven first before sent server files →
    Driven first before sent (Peer.launch config root settings files server).2 files
  | received {sent : List (String × Json)} {server : σ} {files : FileTree} (language : String)
    (message : Json) : Driven first before sent server files →
    Driven first before ((language, message) :: sent)
      (Peer.react language message files server).2 (Peer.react language message files server).1.files

namespace Driven

variable {σ : Type} [Peer σ] {first mid last : σ} {before between after : FileTree}
variable {sent later : List (String × Json)}

theorem trans (driven : Driven first before sent mid between)
    (further : Driven mid between later last after) :
    Driven first before (later ++ sent) last after := by
  induction further with
  | start => exact driven
  | launched config root settings _ ih => exact .launched config root settings ih
  | received language message _ ih => exact .received language message ih

theorem spared (driven : Driven first before sent last after) (spares : Peer.SparesFiles σ) :
    after = before := by
  induction driven with
  | start => rfl
  | launched _ _ _ _ ih => exact ih
  | received _ _ _ ih => exact (spares _ _ _ _).trans ih

end Driven

/-- From one world to the other files have changed by what servers did about the messages that were sent
meanwhile, and by nothing else. -/
def Drives {σ : Type} [Peer σ] (before after : World σ) : Prop :=
  ∃ new, after.sent = new ++ before.sent ∧
    Driven before.server before.files new after.server after.files

namespace Drives

variable {σ : Type} [Peer σ] {a b c : World σ}

theorem of_same (server : b.server = a.server) (files : b.files = a.files) (sent : b.sent = a.sent) :
    Drives a b := by
  refine ⟨[], sent, ?_⟩
  rw [server, files]
  exact .start

theorem trans (first : Drives a b) (second : Drives b c) : Drives a c := by
  obtain ⟨one, before, driven⟩ := first
  obtain ⟨two, after, further⟩ := second
  refine ⟨two ++ one, ?_, driven.trans further⟩
  rw [after, before, List.append_assoc]

theorem spared (drives : Drives a b) (spares : Peer.SparesFiles σ) : b.files = a.files := by
  obtain ⟨_, _, driven⟩ := drives
  exact driven.spared spares

end Drives

namespace Client

variable {σ : Type} [Peer σ]

def driving : Frame (Session σ Client) where
  holds s after := Drives s.world after.world
  refl _ := .of_same rfl rfl rfl
  trans := Drives.trans

theorem recording_driving [Halves] : Recording (driving : Frame (Session σ Client)) := by
  have launched (s : Session σ Client) {result : Outcome Launched} {server : σ}
      (launch : Peer.launch s.owner.config s.owner.root s.owner.settings s.world.files
        s.world.server = (result, server)) : Drives s.world { s.world with server } := by
    refine ⟨[], rfl, ?_⟩
    have begun : Driven s.world.server s.world.files [] s.world.server s.world.files := .start
    have driven := begun.launched s.owner.config s.owner.root s.owner.settings
    rw [launch] at driven
    exact driven
  apply Recording.ofIndifferent
  · intro message
    apply Session.within_emit
    · intro s
      exact ⟨[(s.connection.language, message)], rfl, .received _ _ .start⟩
    · intro s arrivals
      exact .of_same rfl rfl rfl
  · exact fun _ _ _ => .of_same rfl rfl rfl
  · exact fun _ _ => .of_same rfl rfl rfl
  · exact fun _ _ => .of_same rfl rfl rfl
  · exact fun _ _ _ => .of_same rfl rfl rfl
  · intro before s after outcome ended
    rcases ends_launch ended with ⟨_, _, launch, _, rfl⟩ | ⟨_, _, launch, _, rfl⟩
    · exact launched s launch
    · exact launched s launch

end Client

namespace Workspace

variable {σ : Type} [Peer σ]

def driving : Frame (Workspace σ) where
  holds w after := Drives w.world after.world
  refl _ := .of_same rfl rfl rfl
  trans := Drives.trans

theorem houses_driving [Halves] : Houses (driving : Frame (Workspace σ)) Client.driving :=
  houses_each (fun _ => True) (fun _ _ => True) Drives (fun _ => .of_same rfl rfl rfl)
    (fun _ _ => trivial) (fun _ => trivial)
    (fun each => (each ⟨trivial, fun _ _ _ => trivial⟩).2)
    fun drives _ _ => ⟨trivial, trivial, drives⟩

end Workspace

/-! ### Documents that stay as they are -/

namespace Client

variable {σ : Type} {quiet : σ → Prop} {spared : String → Prop}

def documentsStay (quiet : σ → Prop) (spared : String → Prop) : Frame (Session σ Client) :=
  Frame.guarded (Calm quiet)
    { holds := fun s after => ∀ uri, spared uri →
        after.owner.documents.get? uri = s.owner.documents.get? uri
      refl := fun _ _ _ => rfl
      trans := fun first second uri known => (second uri known).trans (first uri known) }

theorem documentsStay_of_same {s after : Session σ Client}
    (calm : (calmStays quiet).holds s after)
    (same : after.owner.documents = s.owner.documents) :
    (documentsStay quiet spared).holds s after := by
  intro before
  refine ⟨calm before, fun uri _ => ?_⟩
  rw [same]

variable [Halves] [Peer σ]

theorem routine_documentsStay (server : Peer.Quiet quiet fun _ => True)
    (spared : String → Prop) : Routine (documentsStay (σ := σ) quiet spared) fun _ => True := by
  apply (routine_calm server).mono
  intro s after stays calm
  obtain ⟨last, kept⟩ := stays calm
  exact documentsStay_of_same (fun _ => last) kept.documents calm

theorem within_setOut_documentsStay (server : Peer.Quiet quiet fun _ => True) :
    Within (documentsStay quiet spared) (setOut : Action σ Client Unit) := by
  have routine := routine_documentsStay server spared
  apply within_bind
  · apply routine.sittings.within_start ⟨fitRequest _, fitNotice _⟩
    intro before s after outcome ended
    apply documentsStay_of_same ((recording_calmStays server).launch before ended)
    rcases ends_launch ended with ⟨_, _, _, _, rfl⟩ | ⟨_, _, _, _, rfl⟩
    · rfl
    · rfl
  · exact fun _ => routine.within_startMonitor

theorem within_adopt_documentsStay (server : Peer.Quiet quiet fun _ => True) {uri : String}
    (own : ¬spared uri) (content : String) :
    Within (documentsStay quiet spared) (adopt uri content : Action σ Client Unit) := by
  have routine := routine_documentsStay server spared
  have roomy : RoomyFor (documentsStay (σ := σ) quiet spared) uri := by
    intro s documents _ others calm
    refine ⟨⟨calm.server, calm.connection⟩, fun other known => others other ?_⟩
    rintro rfl
    exact own known
  have takeover : Takeover (documentsStay (σ := σ) quiet spared) uri := by
    constructor
    · exact routine.dealings.within_tell (fitNotice _)
    · exact roomy.within_changeDocument routine.within_touch
        (routine.dealings.within_notify (fitNotice _))
    · intro s document named
      apply roomy
      · exact fun _ => Tracker.isOpen_put document
      · intro other different
        rw [Tracker.get?_put, named]
        exact if_neg different.symm
  exact takeover.within_adopt content

end Client

namespace Workspace

variable {σ : Type} {quiet : σ → Prop} {spared : String → String → Prop} {w after : Workspace σ}

/-- The document that the running client of a language has open for a uri. -/
def entryFor (w : Workspace σ) (language uri : String) : Option OpenDocument :=
  (w.members.lookup language).bind fun member => member.client.documents.get? uri

/-- While the servers are calm, certain documents of running clients stay as they are. -/
def entriesStay (quiet : σ → Prop) (spared : String → String → Prop) : Frame (Workspace σ) :=
  Frame.guarded (Calm quiet)
    { holds := fun w after => ∀ language uri, spared language uri →
        after.entryFor language uri = w.entryFor language uri
      refl := fun _ _ _ _ => rfl
      trans := fun first second language uri known =>
        (second language uri known).trans (first language uri known) }

variable [Halves]

theorem entriesStay_withSession {language : String} {member : Member} {session : Session σ Client}
    (found : w.member? language = some member)
    (stays : (Client.documentsStay quiet (spared language)).holds (w.sessionOf member) session) :
    (entriesStay quiet spared).holds w (w.withSession language session) := by
  intro calm
  obtain ⟨last, kept⟩ := stays (calm.session found)
  constructor
  · exact houses_calmStays.acts found (fun _ => last) calm
  · intro other uri known
    unfold entryFor
    rw [lookup_withSession]
    by_cases here : other = language ∧ (w.members.lookup language).isSome = true
    · rw [if_pos here]
      obtain ⟨rfl, running⟩ := here
      obtain ⟨old, listed⟩ := Option.isSome_iff_exists.mp running
      have same : old = member := Option.some.inj ((member?_of_listed listed).symm.trans found)
      rw [listed, same]
      exact kept uri known
    · rw [if_neg here]

omit [Halves] in
theorem entriesStay_of_members (same : after.members = w.members)
    (calm : (calmStays quiet).holds w after) : (entriesStay quiet spared).holds w after := by
  intro before
  refine ⟨calm before, fun language uri _ => ?_⟩
  unfold entryFor
  rw [same]

theorem hosts_entriesStay :
    Hosts (entriesStay quiet spared) (Client.documentsStay (σ := σ) quiet fun _ => True) := by
  constructor
  · intro w language member session found stays
    apply entriesStay_withSession found
    intro calm
    obtain ⟨last, kept⟩ := stays calm
    exact ⟨last, fun uri _ => kept uri trivial⟩
  · exact fun w settings unset => entriesStay_of_members rfl (houses_calmStays.loads w settings unset)
  · exact fun found => entriesStay_of_members rfl (houses_calmStays.notes found)

theorem within_onClient_entriesStay {α : Type} {language : String} {action : Action σ Client α}
    (inside : Within (Client.documentsStay quiet (spared language)) action) :
    Within (entriesStay quiet spared) (onClient language action) := by
  intro w after outcome ended
  rcases ends_onClient.mp ended with ⟨_, _, rfl⟩ | ⟨_, _, found, acted, rfl⟩
  · exact (entriesStay quiet spared).refl _
  · exact entriesStay_withSession found (inside acted)

theorem within_openUp_entriesStay :
    Within (entriesStay quiet spared) (openUp : Operation σ Settings) := by
  apply within_bind hosts_entriesStay.within_needSettings
  intro settings
  apply within_bind
  · apply within_modify
    exact fun w => entriesStay_of_members rfl (houses_calmStays.opens w true)
  · exact fun _ => within_pure settings

variable [Peer σ]

theorem within_needClient_entriesStay (server : Peer.Quiet quiet fun _ => True)
    (language : String) :
    Within (entriesStay quiet spared) (needClient language : Operation σ Unit) := by
  have preparing := (Client.recording_calmStays server).preparing
  intro w after outcome ended
  cases ends_needClient ended with
  | unopened opening => exact within_openUp_entriesStay opening
  | running opening _ => exact within_openUp_entriesStay opening
  | unsupported opening _ _ => exact within_openUp_entriesStay opening
  | @begun settings opened config session opening absent _ started =>
      apply (entriesStay quiet spared).trans (within_openUp_entriesStay opening)
      intro calm
      constructor
      · exact houses_calmStays.joins (preparing.begins started) calm
      · intro other uri _
        unfold entryFor
        dsimp only
        rw [lookup_putMember]
        by_cases same : other = language
        · have setOut : Within (Client.documentsStay quiet fun _ => True)
              (Client.setOut : Action σ Client Unit) :=
            Client.within_setOut_documentsStay server
          have fresh := setOut started ⟨calm.server, fun _ _ queued => nomatch queued⟩
          rw [if_pos same, same, absent]
          exact fresh.2 uri trivial
        · rw [if_neg same]
  | @unbegun settings opened config session failure opening _ _ started =>
      apply (entriesStay quiet spared).trans (within_openUp_entriesStay opening)
      apply entriesStay_of_members
      · unfold setApart
        split <;> rfl
      · exact houses_calmStays.leaves (preparing.begins started)

/-! ### The document of an operation -/

variable {op : EditOperation} {language uri : String}

/-- A document is the one that an operation names, with the language that the settings give for it. -/
def Own (op : EditOperation) (w : Workspace σ) (language uri : String) : Prop :=
  ∃ text path settings opened, op.uri = .str text ∧ w.whereabouts text = .ok (uri, path) ∧
    Ends (openUp : Operation σ Settings) w (.ok settings) opened ∧
    languageOf? settings uri = .ok (some language)

/-- While the servers are calm, all documents but an operation's own stay as they are. -/
abbrev othersStay (quiet : σ → Prop) (op : EditOperation) (w : Workspace σ) : Frame (Workspace σ) :=
  entriesStay quiet fun language uri => ¬Own op w language uri

theorem within_synchronize_othersStay (server : Peer.Quiet quiet fun _ => True)
    (own : Own op w language uri) :
    Within (othersStay quiet op w) (synchronize language uri : Operation σ Unit) := by
  apply within_bind (hosts_entriesStay.within_readText uri)
  intro content
  apply within_onClient_entriesStay
  exact Client.within_adopt_documentsStay server (fun other => other own) content

theorem othersStay_prepare (server : Peer.Quiet quiet fun _ => True) {text : String}
    {outcome : Outcome (String × String)} (named : op.uri = .str text)
    (ended : Ends (prepare text : Operation σ (String × String)) w outcome after) :
    (othersStay quiet op w).holds w after := by
  rcases ends_bind.mp ended with ⟨⟨uri, path⟩, mid, located, needing⟩ | ⟨_, _, lost⟩
  case inr =>
    obtain ⟨_, same⟩ := ends_locate lost
    rw [same]
    exact (othersStay quiet op w).refl w
  obtain ⟨whereabouts, same⟩ := ends_locate located
  rw [same] at needing
  have needs : Within (othersStay quiet op w) (needClientFor uri : Operation σ String) :=
    within_needClientFor_of within_openUp_entriesStay (within_needClient_entriesStay server) uri
  rcases ends_bind.mp needing with ⟨language, opened, needed, synchronizing⟩ | ⟨_, _, unneeded⟩
  case inr => exact needs unneeded
  obtain ⟨settings, ready, opening, known, _⟩ := ends_needClientFor needed
  have own : Own op w language uri :=
    ⟨text, path, settings, ready, named, whereabouts.symm, opening, known⟩
  have rest : Within (othersStay quiet op w) (do
      synchronize language uri
      return (language, uri) : Operation σ (String × String)) :=
    within_bind (within_synchronize_othersStay server own) fun _ => within_pure _
  exact (othersStay quiet op w).trans (needs needed) (rest synchronizing)

theorem within_symbolOf_entriesStay (server : Peer.Quiet quiet fun _ => True) :
    Within (entriesStay quiet spared) (symbolOf op language uri : Operation σ Symbol) := by
  have routine := Client.routine_documentsStay server fun _ => True
  apply within_bind (within_settle _)
  intro name
  apply within_bind
  · apply hosts_entriesStay.within_onClient
    exact routine.dealings.within_findSymbol (Client.fitRequest _) uri name
  · intro found
    cases found with
    | some symbol => exact within_pure symbol
    | none => exact within_raise _

theorem othersStay_findTarget (server : Peer.Quiet quiet fun _ => True)
    {outcome : Outcome (String × String × Symbol)}
    (ended : Ends (findTarget op : Operation σ (String × String × Symbol)) w outcome after) :
    (othersStay quiet op w).holds w after := by
  rcases ends_settle_bind.mp ended with ⟨_, _, _, rfl⟩ | ⟨_, _, checked⟩
  · exact (othersStay quiet op _).refl _
  rcases ends_settle_bind.mp checked with ⟨_, _, _, rfl⟩ | ⟨text, textual, preparing⟩
  · exact (othersStay quiet op _).refl _
  have named : op.uri = .str text := textual_eq_ok textual
  rcases ends_bind.mp preparing with ⟨⟨language, uri⟩, mid, prepared, seeking⟩ | ⟨_, _, unprepared⟩
  · have rest : Within (othersStay quiet op w) (do
        return (language, uri, ← symbolOf op language uri) :
        Operation σ (String × String × Symbol)) :=
      within_bind (within_symbolOf_entriesStay server) fun _ => within_pure _
    exact (othersStay quiet op w).trans (othersStay_prepare server named prepared) (rest seeking)
  · exact othersStay_prepare server named unprepared

/-! ### The way to the edit -/

/-- What an operation does whether it is meant or not: its edit is worked out, with the language and the
name of its file. -/
def resolve (op : EditOperation) : Operation σ (String × String × WorkspaceEdit) := do
  let (language, uri, symbol) ← findTarget op
  let edit ← onClient language (workOut op uri symbol)
  let file ← settle (Uri.toRelative uri (← get).root)
  return (language, file, edit)

def preview (edit : WorkspaceEdit) : EditResult :=
  { success := true, message := "Dry run: " ++ extent edit, edits := some edit, dryRun := true }

def conclude (op : EditOperation) (language file : String) (edit : WorkspaceEdit) :
    Operation σ EditResult := do
  if op.dryRun then return preview edit
  if edit.isEmpty then
    return { success := true, message := "No changes for '" ++ op.symbol.shown ++ "'",
             edits := some edit }
  applyEdit language edit (labelOf op)
  return { success := true, message := describe op file edit, edits := some edit }

theorem ends_tryPerform_resolve {outcome : Outcome EditResult} :
    Ends (tryPerform op) w outcome after ↔
      (∃ language file edit worked, Ends (resolve op) w (.ok (language, file, edit)) worked ∧
          Ends (conclude op language file edit) worked outcome after) ∨
        ∃ failure, outcome = .error failure ∧ Ends (resolve op) w (.error failure) after := by
  have parted : tryPerform op = resolve op >>= fun (found : String × String × WorkspaceEdit) =>
      (conclude op found.1 found.2.1 found.2.2 : Operation σ EditResult) := by
    unfold tryPerform resolve
    rw [bind_assoc]
    apply bind_congr
    rintro ⟨language, uri, symbol⟩
    simp only [bind_assoc, pure_bind]
    rfl
  rw [parted, ends_bind]
  constructor
  · rintro (⟨⟨language, file, edit⟩, worked, resolved, rest⟩ | failed)
    · exact .inl ⟨language, file, edit, worked, resolved, rest⟩
    · exact .inr failed
  · rintro (⟨language, file, edit, worked, resolved, rest⟩ | failed)
    · exact .inl ⟨(language, file, edit), worked, resolved, rest⟩
    · exact .inr failed

theorem resolve_withDryRun (op : EditOperation) (dryRun : Bool) :
    (resolve { op with dryRun } : Operation σ (String × String × WorkspaceEdit)) = resolve op :=
  rfl

theorem Houses.within_resolve {F : Frame (Workspace σ)} {G : Frame (Session σ Client)}
    (houses : Houses F G) (preparing : Client.Preparing G) (op : EditOperation) :
    Within F (resolve op : Operation σ (String × String × WorkspaceEdit)) := by
  apply within_bind (houses.within_findTarget preparing op)
  intro found
  apply within_bind (houses.within_onClient (within_workOut preparing _ _ _))
  intro edit
  apply within_bind within_get
  intro known
  exact within_bind (within_settle _) fun _ => within_pure _

theorem ends_perform_dry (dry : op.dryRun = true) {result : EditResult}
    (ended : Ends (perform op) w (.ok result) after) :
    (∃ language file edit, Ends (resolve op) w (.ok (language, file, edit)) after ∧
        result = preview edit) ∨
      ∃ failure, Ends (resolve op) w (.error failure) after ∧ result = failed op failure := by
  obtain ⟨tried, trying, returned, told⟩ := tries_of_perform ended
  rcases ends_tryPerform_resolve.mp trying with
    ⟨language, file, edit, worked, resolved, concluding⟩ | ⟨failure, rfl, unresolved⟩
  · unfold conclude at concluding
    rw [dry] at concluding
    obtain ⟨rfl, rfl⟩ := ends_pure.mp concluding
    cases returned _ rfl
    exact .inl ⟨language, file, edit, resolved, rfl⟩
  · cases told _ rfl
    exact .inr ⟨failure, unresolved, rfl⟩

theorem resolved_of_success {result : EditResult} (ended : Ends (perform op) w (.ok result) after)
    (succeeded : result.success = true) :
    ∃ language file edit worked, Ends (resolve op) w (.ok (language, file, edit)) worked ∧
      result.edits = some edit := by
  obtain ⟨tried, trying, returned, told⟩ := tries_of_perform ended
  cases tried with
  | error failure =>
      cases told _ rfl
      rw [success_failed] at succeeded
      contradiction
  | ok found =>
      cases returned _ rfl
      rcases ends_tryPerform_resolve.mp trying with
        ⟨language, file, edit, worked, resolved, concluding⟩ | ⟨_, impossible, _⟩
      case inr => contradiction
      refine ⟨language, file, edit, worked, resolved, ?_⟩
      rcases ends_ite.mp concluding with ⟨_, shown⟩ | ⟨_, meant⟩
      · cases (ends_pure.mp shown).1
        rfl
      rcases ends_ite.mp meant with ⟨_, idle⟩ | ⟨_, applying⟩
      · cases (ends_pure.mp idle).1
        rfl
      · obtain ⟨_, _, _, done⟩ := ends_bind_ok.mp applying
        cases (ends_pure.mp done).1
        rfl

theorem within_workOut_documentsStay (server : Peer.Quiet quiet fun _ => True) (op : EditOperation)
    (uri : String) (symbol : Symbol) : Within (Client.documentsStay quiet fun _ => True)
      (workOut op uri symbol : Action σ Client WorkspaceEdit) := by
  have routine := Client.routine_documentsStay server fun _ => True
  exact within_workOut_of (routine.dealings.within_rename (Client.fitRequest _)) op uri symbol

theorem othersStay_resolve (server : Peer.Quiet quiet fun _ => True)
    {outcome : Outcome (String × String × WorkspaceEdit)}
    (ended : Ends (resolve op : Operation σ (String × String × WorkspaceEdit)) w outcome after) :
    (othersStay quiet op w).holds w after := by
  rcases ends_bind.mp ended with ⟨⟨language, uri, symbol⟩, known, found, working⟩ | ⟨_, _, unfound⟩
  case inr => exact othersStay_findTarget server unfound
  have rest : Within (othersStay quiet op w) (do
      let edit ← onClient language (workOut op uri symbol)
      let file ← settle (Uri.toRelative uri (← get).root)
      return (language, file, edit) : Operation σ (String × String × WorkspaceEdit)) := by
    apply within_bind
    · exact hosts_entriesStay.within_onClient (within_workOut_documentsStay server op uri symbol)
    · intro edit
      apply within_bind within_get
      intro worked
      exact within_bind (within_settle _) fun _ => within_pure _
  exact (othersStay quiet op w).trans (othersStay_findTarget server found) (rest working)

/-! ### The text of the document -/

def listedStay (language : String) : Frame (Workspace σ) :=
  Frame.invariant fun w => (w.members.lookup language).isSome = true

omit [Peer σ] in
theorem hosts_listedStay {G : Frame (Session σ Client)} (language : String) :
    Hosts (listedStay language : Frame (Workspace σ)) G := by
  constructor
  · intro w other member session _ _ running
    rw [lookup_withSession]
    split
    · rfl
    · exact running
  · exact fun _ _ _ running => running
  · exact fun _ running => running

omit [Halves] [Peer σ] in
theorem entryFor_of_textFor {text : String} (running : (w.members.lookup language).isSome = true)
    (had : w.textFor language uri = some text) :
    ∃ document, w.entryFor language uri = some document ∧ document.content = text := by
  obtain ⟨member, listed⟩ := Option.isSome_iff_exists.mp running
  unfold textFor at had
  unfold entryFor
  rw [member?_of_listed listed] at had
  rw [listed]
  obtain ⟨document, entry, content⟩ := Option.map_eq_some_iff.mp had
  exact ⟨document, entry, content⟩

/-- A text is what the file of a document held when it was read on the way from one workspace to the
other, and where servers spare the files it is what the file holds in the end. -/
def WasRead (w after : Workspace σ) (uri text : String) : Prop :=
  ∃ settings path world, after.settings = some settings ∧ after.root = w.root ∧
    Drives w.world world ∧ Drives world after.world ∧
    Read { after with world } settings.encoding uri path text ∧
    (Peer.SparesFiles σ → Read after settings.encoding uri path text)

theorem Found.own {symbol : Symbol} {opened fresh : Workspace σ}
    (found : Found op language uri symbol w opened fresh after) : Own op w language uri := by
  obtain ⟨text, path, named, whereabouts⟩ := found.named
  obtain ⟨settings, ready, opening, spoken, _⟩ := ends_needClientFor found.needed
  exact ⟨text, path, settings, ready, named, whereabouts, opening, spoken⟩

theorem Found.taken (server : Peer.Quiet quiet fun _ => True) (calm : w.Calm quiet)
    {symbol : Symbol} {opened fresh : Workspace σ}
    (found : Found op language uri symbol w opened fresh after) :
    fresh.Calm quiet ∧ opened.root = w.root ∧ ∃ settings path document,
      opened.settings = some settings ∧ Read opened settings.encoding uri path document.content ∧
      fresh.entryFor language uri = some document := by
  have preparing := (Client.recording_calmStays server).preparing
  obtain ⟨settings, ready, opening, spoken, needed⟩ := ends_needClientFor found.needed
  have loaded : ready.settings = some settings := by
    rw [ends_openUp opening]
  have known : opened.settings = some settings :=
    (houses_setupStays.within_needClient preparing language needed).2 settings loaded
  have calmly : opened.Calm quiet :=
    houses_calmStays.within_needClientFor preparing uri found.needed calm
  obtain ⟨path, text, read, taken⟩ := takes_synchronize server calmly known found.synchronized
  have had : fresh.textFor language uri = some text := by
    rw [taken, if_pos rfl]
  have running : (fresh.members.lookup language).isSome = true :=
    (hosts_listedStay language).within_synchronize preparing language uri found.synchronized
      (listed_of_needClient needed)
  obtain ⟨document, entry, rfl⟩ := entryFor_of_textFor running had
  refine ⟨calm_synchronize server calmly found.synchronized, ?_, settings, path, document, known,
    read, entry⟩
  exact (houses_setupStays.within_needClientFor preparing uri found.needed).1

/-- An edit that was worked out was worked out with the text that the file of its document had when it
was read. -/
theorem current_of_resolve (server : Peer.Quiet quiet fun _ => True) (calm : w.Calm quiet)
    {file : String} {edit : WorkspaceEdit}
    (ended : Ends (resolve op) w (.ok (language, file, edit)) after) :
    ∃ uri document, Own op w language uri ∧ after.entryFor language uri = some document ∧
      WasRead w after uri document.content := by
  obtain ⟨⟨_, uri, symbol⟩, known, sought, working⟩ := ends_bind_ok.mp ended
  obtain ⟨_, _, worksOut, naming⟩ := ends_bind_ok.mp working
  have named := ends_get_bind.mp naming
  rcases ends_settle_bind.mp named with ⟨_, _, impossible, _⟩ | ⟨_, _, done⟩
  · contradiction
  obtain ⟨same, rfl⟩ := ends_pure.mp done
  cases same
  obtain ⟨opened, fresh, found⟩ := ends_findTarget sought
  obtain ⟨calmly, root, settings, path, document, loaded, read, entry⟩ := found.taken server calm
  obtain ⟨name, asked⟩ := found.sought
  -- the document stays as it is while the client is asked about it
  have routine := Client.routine_documentsStay server fun _ => True
  have stays : (entriesStay quiet fun _ _ => True).holds fresh after := by
    apply (entriesStay quiet _).trans
    · exact hosts_entriesStay.within_onClient
        (routine.dealings.within_findSymbol (Client.fitRequest _) uri name) asked
    · exact hosts_entriesStay.within_onClient (within_workOut_documentsStay server op uri symbol)
        worksOut
  -- what happens from the point where the file is read
  have preparing : Client.Preparing (Client.driving : Frame (Session σ Client)) :=
    Client.recording_driving.preparing
  have since {F : Frame (Workspace σ)} (hosts : Hosts F (Client.driving : Frame (Session σ Client))) :
      F.holds opened after := by
    apply F.trans (hosts.within_synchronize preparing language uri found.synchronized)
    apply F.trans (hosts.within_onClient (preparing.seeks uri name) asked)
    exact hosts.within_onClient (within_workOut preparing op uri symbol) worksOut
  have drives : Drives opened.world after.world := since houses_driving.toHosts
  obtain ⟨rooted, kept⟩ := since houses_setupStays.toHosts
  refine ⟨uri, document, found.own, ?_, settings, path, opened.world, kept settings loaded,
    rooted.trans root, houses_driving.within_needClientFor preparing uri found.needed, drives, ?_, ?_⟩
  · exact ((stays calmly).2 language uri trivial).trans entry
  · exact read.of_same rfl rooted
  · exact fun spares => read.of_same (drives.spared spares) rooted

/-! ### Previews -/

/-- What an operation that is not meant comes to: files have changed by what servers did alone, no edit
has been submitted, no document has changed but its own, which has the text that its file had when it
was read if the operation succeeds; and it succeeds with the same edits wherever it would succeed if it
were meant. -/
structure Preview (op : EditOperation) (w : Workspace σ) (result : EditResult)
    (after : Workspace σ) : Prop where
  driven : Drives w.world after.world
  spared : Peer.SparesFiles σ → after.world.files = w.world.files
  withheld : Withheld w.world after.world
  others : ∀ language uri, after.entryFor language uri ≠ w.entryFor language uri →
    Own op w language uri
  current : result.success = true → ∃ language uri document, Own op w language uri ∧
    after.entryFor language uri = some document ∧ WasRead w after uri document.content
  same : ∀ meant last, Ends (perform { op with dryRun := false }) w (.ok meant) last →
    meant.success = true → result.success = true ∧ result.edits = meant.edits

/-- Every operation that is not meant is a preview of the one that is. -/
theorem dry_run_previews (server : Peer.Quiet quiet fun _ => True) (calm : w.Calm quiet)
    (dry : op.dryRun = true) :
    ∃ result after, Ends (perform op) w (.ok result) after ∧ Preview op w result after := by
  obtain ⟨result, after, ended⟩ := exists_ends_perform op w
  refine ⟨result, after, ended, ?_⟩
  have resolved := ends_perform_dry dry ended
  obtain ⟨reached, went⟩ : ∃ reached, Ends (resolve op) w reached after := by
    rcases resolved with ⟨_, _, _, done, _⟩ | ⟨_, failed, _⟩
    · exact ⟨_, done⟩
    · exact ⟨_, failed⟩
  have drives : Drives w.world after.world :=
    houses_driving.within_resolve Client.recording_driving.preparing op went
  constructor
  · exact drives
  · exact drives.spared
  · exact houses_withholding.within_resolve Client.preparing_withholding op went
  · intro language uri changed
    apply Classical.byContradiction
    intro other
    exact changed ((othersStay_resolve server went calm).2 language uri other)
  · intro succeeded
    rcases resolved with ⟨language, _, _, done, _⟩ | ⟨failure, _, rfl⟩
    · obtain ⟨uri, document, own, entry, read⟩ := current_of_resolve server calm done
      exact ⟨language, uri, document, own, entry, read⟩
    · rw [success_failed] at succeeded
      contradiction
  · intro meant last ran succeeded
    obtain ⟨language, file, edit, worked, again, told⟩ := resolved_of_success ran succeeded
    rw [resolve_withDryRun] at again
    rcases resolved with ⟨_, _, _, done, rfl⟩ | ⟨failure, unresolved, _⟩
    · obtain ⟨same, -⟩ := done.unique again
      cases same
      exact ⟨rfl, told.symm⟩
    · cases (unresolved.unique again).1

end Workspace

end Scalpel

/-! ### A symbol that is to be replaced -/

namespace Scalpel.Workspace

local instance previewsHalves : Halves :=
  Halves.trial

def triedReplace : EditOperation :=
  { kind := .replace, uri := .str "a.py", symbol := .str "f", code := .str "g = 2", dryRun := true }

theorem dry_run_previews_of_replace :
    Peer.Quiet (fun _ : Clerk => True) (fun _ => True) ∧
      (Clerk.workspace (.str "utf-8")).Calm (fun _ => True) ∧ triedReplace.dryRun = true ∧
      ∃ result after, Ends (perform triedReplace) (Clerk.workspace (.str "utf-8")) (.ok result) after ∧
        Preview triedReplace (Clerk.workspace (.str "utf-8")) result after ∧
        result.success = true := by
  have server : Peer.Quiet (fun _ : Clerk => True) fun _ => True := Clerk.receptive.toQuiet
  have calm := Clerk.calm_workspace (.str "utf-8")
  have dry : triedReplace.dryRun = true := rfl
  obtain ⟨result, after, ended, previews⟩ := dry_run_previews server calm dry
  refine ⟨server, calm, dry, result, after, ended, previews, ?_⟩
  have succeeds : (((perform triedReplace).run (Clerk.workspace (.str "utf-8"))).1.toOption.map
      (·.success)) = some true := by
    decide +kernel
  obtain ⟨found, known, success⟩ := Option.map_eq_some_iff.mp succeeds
  obtain ⟨same, -⟩ := ended.unique (ends_of_toOption known)
  rw [Except.ok.inj same]
  exact success

end Scalpel.Workspace

/-! ### A server that writes a file -/

namespace Scalpel

/-- A clerk that writes a file on its own when it is asked for symbols. -/
structure Meddler where
  clerk : Clerk

namespace Meddler

def meddled (message : Json) (files : FileTree) : FileTree :=
  if message.field? "method" == some (.str "textDocument/documentSymbol") then
    files.put [['w'], ['a', '.', 'p', 'y']] (.file [103, 32, 61, 32, 49, 10] 0o644)
  else files

instance : Peer Meddler where
  launch config _ _ _ meddler := (.ok { name := config.language }, meddler)
  react _ message files meddler :=
    ({ files := meddled message files, arrivals := meddler.clerk.answer message }, meddler)

theorem quiet : Peer.Quiet (fun _ : Meddler => True) fun _ => True where
  launch _ _ _ _ _ _ := trivial
  greeting _ _ _ _ _ _ _ done := by
    cases done
    exact fun _ member => absurd member List.not_mem_nil
  react _ _ _ _ _ _ := trivial
  reaction _ _ _ _ _ _ _ member := Clerk.quiet_of_mem_answer member

end Meddler

namespace Workspace

def meddledWorkspace : Workspace Meddler :=
  let w := Clerk.workspace (.str "utf-8")
  { world := { server := { clerk := w.world.server }, files := w.world.files }
    root := w.root
    settings := w.settings }

local instance meddledHalves : Halves :=
  Halves.trial

/-- A document is not always what its file holds in the end: a server that asks for no edits may still
write the file after it was read. -/
theorem preview_not_always_current :
    Peer.Quiet (fun _ : Meddler => True) (fun _ => True) ∧ meddledWorkspace.Calm (fun _ => True) ∧
      triedReplace.dryRun = true ∧
      ∃ result after, Ends (perform triedReplace) meddledWorkspace (.ok result) after ∧
        result.success = true ∧
        (after.entryFor "py" "file:///w/a.py").map (·.content) = some "f = 1\n" ∧
        (textOf after.world.files (.str "utf-8") "file:///w/a.py" "/w/a.py").toOption =
          some "g = 1\n" := by
  have calm : meddledWorkspace.Calm fun _ => True := ⟨trivial, fun _ _ found => nomatch found⟩
  have succeeds : (((perform triedReplace).run meddledWorkspace).1.toOption.map (·.success)) =
      some true := by
    decide +kernel
  obtain ⟨result, known, success⟩ := Option.map_eq_some_iff.mp succeeds
  refine ⟨Meddler.quiet, calm, rfl, result, _, ends_of_toOption known, success, ?_, ?_⟩
  · decide +kernel
  · decide +kernel

end Workspace

end Scalpel
