import Scalpel.Proofs.Housing
import Scalpel.Proofs.Rewriting

/-!
Documents that are brought up to date. A client that has synchronized a document has the text that the
file has, and an edit is submitted only when all of its documents have been read.
-/

set_option autoImplicit false

namespace Scalpel.Workspace

variable [Halves] {σ : Type} {w after : Workspace σ}

theorem ends_needSettings {settings : Settings}
    (ended : Ends (needSettings : Operation σ Settings) w (.ok settings) after) :
    after = { w with settings := some settings } := by
  have looked := ends_get_bind.mp ended
  split at looked
  · next known =>
    obtain ⟨same, rfl⟩ := ends_pure.mp looked
    cases same
    rw [← known]
  · rcases ends_settle_bind.mp looked with ⟨_, _, impossible, _⟩ | ⟨_, _, loading⟩
    · cases impossible
    · obtain ⟨_, _, loaded, done⟩ := ends_bind_ok.mp loading
      obtain ⟨_, rfl⟩ := ends_modify.mp loaded
      obtain ⟨same, rfl⟩ := ends_pure.mp done
      cases same
      rfl

theorem ends_needSettings_known {settings : Settings} {outcome : Outcome Settings}
    (known : w.settings = some settings)
    (ended : Ends (needSettings : Operation σ Settings) w outcome after) :
    outcome = .ok settings ∧ after = w := by
  have looked := ends_get_bind.mp ended
  rw [known] at looked
  exact ends_pure.mp looked

def bytesIn (encoding : Json) (text : String) : Outcome Bytes := do
  (← charsetOf encoding).encode text

def Holds (files : FileTree) (encoding : Json) (path text : String) : Prop :=
  ∃ charset bytes, charsetOf encoding = .ok charset ∧ files.readFile path = .ok bytes ∧
    charset.decode bytes = .ok text

theorem textOf_eq_ok {files : FileTree} {encoding : Json} {uri path text : String} :
    textOf files encoding uri path = .ok text ↔
      checkEncoding encoding = .ok () ∧ Holds files encoding path text := by
  unfold textOf Holds
  cases checkEncoding encoding with
  | error failure => simp [bind, Except.bind]
  | ok value =>
      cases read : files.readFile path with
      | error fault => simp [bind, Except.bind, fail]
      | ok bytes =>
          cases charsetOf encoding with
          | error failure => simp [bind, Except.bind]
          | ok charset => simp [bind, Except.bind]

/-- A document that was read: where its file is, and the text that it holds. -/
structure Read (w : Workspace σ) (encoding : Json) (uri path text : String) : Prop where
  whereabouts : ∃ named, w.whereabouts uri = .ok (named, path)
  checked : checkEncoding encoding = .ok ()
  holds : Holds w.world.files encoding path text

theorem Read.of_same {encoding : Json} {uri path text : String}
    (read : Read w encoding uri path text) (files : after.world.files = w.world.files)
    (root : after.root = w.root) : Read after encoding uri path text := by
  obtain ⟨⟨named, found⟩, checked, holds⟩ := read
  refine ⟨⟨named, ?_⟩, checked, ?_⟩
  · unfold Workspace.whereabouts
    rw [files, root]
    exact found
  · rw [files]
    exact holds

theorem Grounded.readBefore {encoding : Json} {uri path text : String}
    (grounded : Grounded w after) (read : Read after encoding uri path text) :
    Read w encoding uri path text :=
  read.of_same grounded.files.symm grounded.root.symm

theorem Read.located {encoding : Json} {uri path other text named : String}
    (read : Read w encoding uri other text) (found : w.whereabouts uri = .ok (named, path)) :
    Read w encoding uri path text := by
  obtain ⟨_, here⟩ := read.whereabouts
  cases found.symm.trans here
  exact read

theorem Read.unique {encoding : Json} {uri path other text found : String}
    (one : Read w encoding uri path text) (two : Read w encoding uri other found) :
    path = other ∧ text = found := by
  obtain ⟨⟨_, here⟩, _, ⟨_, _, charset, bytes, decoded⟩⟩ := one
  obtain ⟨⟨_, there⟩, _, ⟨_, _, charset_, bytes_, decoded_⟩⟩ := two
  cases here.symm.trans there
  cases charset.symm.trans charset_
  cases bytes.symm.trans bytes_
  exact ⟨rfl, Except.ok.inj (decoded.symm.trans decoded_)⟩

theorem ends_readText {settings : Settings} {uri text : String}
    (known : w.settings = some settings)
    (ended : Ends (readText uri : Operation σ String) w (.ok text) after) :
    ∃ path, after = w.noted path ∧ Read w settings.encoding uri path text := by
  obtain ⟨_, _, needed, locating⟩ := ends_bind_ok.mp ended
  obtain ⟨same, rfl⟩ := ends_needSettings_known known needed
  cases same
  obtain ⟨⟨named, path⟩, _, located, opening⟩ := ends_bind_ok.mp locating
  obtain ⟨found, rfl⟩ := ends_locate located
  obtain ⟨decoded, rfl⟩ := ends_settle.mp (ends_get_bind.mp (ends_note_bind.mp opening))
  obtain ⟨checked, holds⟩ := textOf_eq_ok.mp decoded.symm
  exact ⟨path, rfl, ⟨named, found.symm⟩, checked, holds⟩

/-! ### Synchronized documents -/

variable [Peer σ] {quiet : σ → Prop} {settings : Settings} {language uri : String}

theorem grounded_synchronize (spares : Peer.SparesFiles σ) {outcome : Outcome Unit}
    (ended : Ends (synchronize language uri) w outcome after) : Grounded w after :=
  houses_groundStays.within_synchronize (Client.recording_filesStay spares).preparing language uri
    ended

theorem calm_synchronize (server : Peer.Quiet quiet fun _ => True) {outcome : Outcome Unit}
    (calm : w.Calm quiet) (ended : Ends (synchronize language uri) w outcome after) :
    after.Calm quiet :=
  houses_calmStays.within_synchronize (Client.recording_calmStays server).preparing language uri ended
    calm

def textFor (w : Workspace σ) (language uri : String) : Option String :=
  (w.member? language).bind fun member => member.client.documents.text? uri

theorem read_of_synchronize (known : w.settings = some settings)
    (ended : Ends (synchronize language uri) w (.ok ()) after) :
    ∃ path text, Read w settings.encoding uri path text := by
  obtain ⟨text, _, reading, _⟩ := ends_bind_ok.mp ended
  obtain ⟨path, _, read⟩ := ends_readText known reading
  exact ⟨path, text, read⟩

theorem takes_synchronize (server : Peer.Quiet quiet fun _ => True) (calm : w.Calm quiet)
    (known : w.settings = some settings)
    (ended : Ends (synchronize language uri) w (.ok ()) after) :
    ∃ path text, Read w settings.encoding uri path text ∧
      ∀ other, after.textFor language other =
        if other = uri then some text else w.textFor language other := by
  obtain ⟨text, _, reading, adopting⟩ := ends_bind_ok.mp ended
  obtain ⟨path, rfl, read⟩ := ends_readText known reading
  refine ⟨path, text, read, fun other => ?_⟩
  rcases ends_onClient.mp adopting with ⟨_, impossible, _⟩ | ⟨member, session, found, adopted, rfl⟩
  · cases impossible
  · have held : w.member? language = some member := found
    have taken := Client.takes_adopt server (calm.session held) adopted
    unfold textFor
    rw [member?_withSession, if_pos rfl, held]
    exact taken other

/-! ### Documents of an edit -/

omit [Peer σ] in
theorem ends_locateAll {names : List DocumentName} {targets : List (String × String)}
    (ended : Ends (names.mapM fun name => do
      let uri ← settle name.textual
      return (uri, (← locate uri).2) : Operation σ (List (String × String))) w (.ok targets)
      after) :
    after = w ∧ names = targets.map (fun target => .uri target.1) ∧
      ∀ target ∈ targets, ∃ named, w.whereabouts target.1 = .ok (named, target.2) := by
  induction names generalizing targets after with
  | nil =>
      obtain ⟨same, rfl⟩ := ends_pure.mp ended
      cases same
      exact ⟨rfl, rfl, fun _ member => absurd member List.not_mem_nil⟩
  | cons name rest ih =>
      rw [List.mapM_cons] at ended
      obtain ⟨target, _, first, others⟩ := ends_bind_ok.mp ended
      obtain ⟨remaining, _, done, last⟩ := ends_bind_ok.mp others
      obtain ⟨same, rfl⟩ := ends_pure.mp last
      cases same
      rcases ends_settle_bind.mp first with ⟨_, _, impossible, _⟩ | ⟨uri, textual, locating⟩
      · cases impossible
      obtain ⟨⟨named, path⟩, _, located, paired⟩ := ends_bind_ok.mp locating
      obtain ⟨found, rfl⟩ := ends_locate located
      obtain ⟨same, rfl⟩ := ends_pure.mp paired
      cases same
      obtain ⟨rfl, named_, lead⟩ := ih done
      cases name with
      | stray value => cases textual
      | uri text =>
          cases textual
          refine ⟨rfl, congrArg _ named_, fun target member => ?_⟩
          rcases List.mem_cons.mp member with rfl | later
          · exact ⟨named, found.symm⟩
          · exact lead target later

/-- Every document of an edit that is brought up to date was read, and all files are as they were. -/
theorem read_of_bringUpToDate (spares : Peer.SparesFiles σ) (known : w.settings = some settings)
    {edit : WorkspaceEdit} {targets : List (String × String)}
    (ended : Ends (bringUpToDate language edit) w (.ok targets) after) :
    Grounded w after ∧ edit.names = targets.map (fun target => .uri target.1) ∧
      ∀ target ∈ targets, ∃ text, Read w settings.encoding target.1 target.2 text := by
  obtain ⟨_, mid, locating, rest⟩ := ends_bind_ok.mp ended
  obtain ⟨same, names, lead⟩ := ends_locateAll locating
  rw [same] at rest
  obtain ⟨_, _, looped, done⟩ := ends_bind_ok.mp rest
  obtain ⟨same, rfl⟩ := ends_pure.mp done
  cases same
  obtain ⟨grounded, each, _⟩ := ends_doEach (Grounded w)
    (fun (target : String × String) _ =>
      ∃ path text, Read w settings.encoding target.1 path text)
    (fun held synced => held.trans (grounded_synchronize spares synced))
    (fun held synced => by
      obtain ⟨path, text, read⟩ := read_of_synchronize (held.settings known) synced
      exact ⟨path, text, held.readBefore read⟩)
    (fun _ _ before => before) (.refl w) looped
  refine ⟨grounded, names, fun target member => ?_⟩
  obtain ⟨named, found⟩ := lead target member
  obtain ⟨_, text, read⟩ := each target member
  exact ⟨text, read.located found⟩

/-- In a calm workspace the client has the text of the file for every document of an edit that is
brought up to date. -/
theorem fresh_of_bringUpToDate (server : Peer.Quiet quiet fun _ => True)
    (spares : Peer.SparesFiles σ) (calm : w.Calm quiet) (known : w.settings = some settings)
    {edit : WorkspaceEdit} {targets : List (String × String)}
    (ended : Ends (bringUpToDate language edit) w (.ok targets) after) :
    after.Calm quiet ∧ ∀ target ∈ targets, ∃ text,
      Read w settings.encoding target.1 target.2 text ∧
        after.textFor language target.1 = some text := by
  obtain ⟨_, mid, locating, rest⟩ := ends_bind_ok.mp ended
  obtain ⟨same, _, lead⟩ := ends_locateAll locating
  rw [same] at rest
  obtain ⟨_, _, looped, done⟩ := ends_bind_ok.mp rest
  obtain ⟨same, rfl⟩ := ends_pure.mp done
  cases same
  obtain ⟨⟨_, calmly⟩, each, _⟩ := ends_doEach
    (fun mid => Grounded w mid ∧ mid.Calm quiet)
    (fun target mid => ∃ path text, Read w settings.encoding target.1 path text ∧
      mid.textFor language target.1 = some text)
    (fun held synced => ⟨held.1.trans (grounded_synchronize spares synced),
      calm_synchronize server held.2 synced⟩)
    (fun {target s mid} held synced => by
      obtain ⟨path, text, read, taken⟩ :=
        takes_synchronize server held.2 (held.1.settings known) synced
      refine ⟨path, text, held.1.readBefore read, ?_⟩
      rw [taken, if_pos rfl])
    (fun {target other s mid} held synced before => by
      obtain ⟨path, text, read, taken⟩ :=
        takes_synchronize server held.2 (held.1.settings known) synced
      obtain ⟨way, found, reading, had⟩ := before
      refine ⟨way, found, reading, ?_⟩
      rw [taken]
      by_cases same : other.1 = target.1
      · rw [if_pos same]
        rw [same] at reading
        rw [((held.1.readBefore read).unique reading).2]
      · rw [if_neg same]
        exact had)
    ⟨.refl w, calm⟩ looped
  refine ⟨calmly, fun target member => ?_⟩
  obtain ⟨named, found⟩ := lead target member
  obtain ⟨_, text, read, had⟩ := each target member
  exact ⟨text, read.located found, had⟩

end Scalpel.Workspace
