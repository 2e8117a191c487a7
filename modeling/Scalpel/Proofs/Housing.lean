import Scalpel.Proofs.Members

/-!
Frames of a workspace that take in the frames of its sessions. Up to the point where files are
written, an operation on symbols does nothing but let clients act, so it stays within such a frame.
-/

set_option autoImplicit false

namespace Scalpel.Workspace

variable [Halves] {σ α : Type} {F : Frame (Workspace σ)} {G : Frame (Session σ Client)}

/-- A frame of a workspace takes in what members do within a frame of sessions, and the opening of
files that are where documents are. -/
structure Hosts (F : Frame (Workspace σ)) (G : Frame (Session σ Client)) : Prop where
  acts : ∀ {w : Workspace σ} {language : String} {member : Member} {session : Session σ Client},
    w.member? language = some member → G.holds (w.sessionOf member) session →
    F.holds w (w.withSession language session)
  loads : ∀ (w : Workspace σ) (settings : Settings), w.settings = none →
    F.holds w { w with settings := some settings }
  notes : ∀ {w : Workspace σ} {uri named path : String}, w.whereabouts uri = .ok (named, path) →
    F.holds w (w.noted path)

structure Houses (F : Frame (Workspace σ)) (G : Frame (Session σ Client)) : Prop
    extends Hosts F G where
  joins : ∀ {w : Workspace σ} {language : String} {client : Client} {session : Session σ Client},
    G.holds (w.sessionOf { client }) session → F.holds w { w with
      world := session.world
      members := putMember w.members language (memberOf session) }
  leaves : ∀ {w : Workspace σ} {language : String} {client : Client} {session : Session σ Client},
    G.holds (w.sessionOf { client }) session →
    F.holds w (({ w with world := session.world } : Workspace σ).setApart language
      (memberOf session))
  opens : ∀ (w : Workspace σ) (isOpen : Bool), F.holds w { w with isOpen }

theorem Hosts.within_onClient (hosts : Hosts F G) {language : String}
    {action : Action σ Client α} (inside : Within G action) :
    Within F (onClient language action) := by
  intro w after outcome ended
  rcases ends_onClient.mp ended with ⟨_, _, rfl⟩ | ⟨_, _, found, acted, rfl⟩
  · exact F.refl _
  · exact hosts.acts found (inside acted)

theorem within_locate (uri : String) : Within F (locate uri : Operation σ (String × String)) := by
  refine within_bind within_get fun w => within_bind (within_settle _) fun named => ?_
  exact within_bind (within_settle _) fun _ => within_pure _

namespace Hosts

theorem within_needSettings (hosts : Hosts F G) :
    Within F (needSettings : Operation σ Settings) := by
  refine within_get_bind fun {w after outcome} ended => ?_
  split at ended
  · obtain ⟨_, rfl⟩ := ends_pure.mp ended
    exact F.refl _
  · next unset =>
    rcases ends_settle_bind.mp ended with ⟨_, _, _, rfl⟩ | ⟨settings, _, loading⟩
    · exact F.refl _
    · rcases ends_bind.mp loading with ⟨_, _, loaded, done⟩ | ⟨_, _, failed⟩
      · obtain ⟨_, rfl⟩ := ends_modify.mp loaded
        obtain ⟨_, rfl⟩ := ends_pure.mp done
        exact hosts.loads w settings unset
      · cases (ends_modify.mp failed).1

theorem within_readText (hosts : Hosts F G) (uri : String) :
    Within F (readText uri : Operation σ String) := by
  refine within_bind hosts.within_needSettings fun _ => fun {w after outcome} ended => ?_
  rcases ends_bind.mp ended with ⟨⟨_, path⟩, _, located, opening⟩ | ⟨_, _, located⟩
  · obtain ⟨found, rfl⟩ := ends_locate located
    obtain ⟨_, rfl⟩ := ends_settle.mp (ends_get_bind.mp (ends_note_bind.mp opening))
    exact hosts.notes found.symm
  · obtain ⟨_, rfl⟩ := ends_locate located
    exact F.refl _

variable [Peer σ]

theorem within_synchronize (hosts : Hosts F G) (preparing : Client.Preparing G)
    (language uri : String) : Within F (synchronize language uri : Operation σ Unit) := by
  refine within_bind (hosts.within_readText uri) fun content => ?_
  exact hosts.within_onClient (preparing.adopts uri content)

theorem within_bringUpToDate (hosts : Hosts F G) (preparing : Client.Preparing G)
    (language : String) (edit : WorkspaceEdit) :
    Within F (bringUpToDate language edit : Operation σ (List (String × String))) := by
  refine within_bind (within_mapM fun name _ => ?_) fun targets => ?_
  · refine within_bind (within_settle _) fun uri => within_bind (within_locate uri) fun _ => ?_
    exact within_pure _
  · refine within_bind (within_doEach fun target _ => ?_) fun _ => within_pure targets
    exact hosts.within_synchronize preparing language target.1

end Hosts

/-- What became of a client that was needed: the workspace could not be made ready for it, it was there,
no server is known for its language, or it was brought to life, well or not. Only in the last case but
one it joins the others. -/
inductive Needed [Peer σ] (language : String) (w : Workspace σ) : Outcome Unit → Workspace σ → Prop
  | unopened {failure after} : Ends (openUp : Operation σ Settings) w (.error failure) after →
    Needed language w (.error failure) after
  | running {settings opened} : Ends (openUp : Operation σ Settings) w (.ok settings) opened →
    (opened.members.lookup language).isSome = true → Needed language w (.ok ()) opened
  | unsupported {settings opened} : Ends (openUp : Operation σ Settings) w (.ok settings) opened →
    opened.members.lookup language = none → settings.servers.lookup language = none →
    Needed language w (.error (.problem (.unsupportedLanguage language))) opened
  | begun {settings opened config session} :
    Ends (openUp : Operation σ Settings) w (.ok settings) opened →
    opened.members.lookup language = none → settings.servers.lookup language = some config →
    Ends Client.setOut (opened.sessionOf
      { client := Client.make config opened.root settings opened.world.clock.now }) (.ok ())
      session →
    Needed language w (.ok ()) { opened with
      world := session.world
      members := putMember opened.members language (memberOf session) }
  | unbegun {settings opened config session failure} :
    Ends (openUp : Operation σ Settings) w (.ok settings) opened →
    opened.members.lookup language = none → settings.servers.lookup language = some config →
    Ends Client.setOut (opened.sessionOf
      { client := Client.make config opened.root settings opened.world.clock.now })
      (.error failure) session →
    Needed language w (.error failure) (({ opened with world := session.world } :
      Workspace σ).setApart language (memberOf session))

theorem ends_needClient [Peer σ] {w after : Workspace σ} {language : String}
    {outcome : Outcome Unit} (ended : Ends (needClient language) w outcome after) :
    Needed language w outcome after := by
  rcases ends_bind.mp ended with ⟨settings, opened, opening, needing⟩ | ⟨failure, rfl, opening⟩
  case inr => exact .unopened opening
  have looked := ends_get_bind.mp needing
  rcases ends_ite.mp looked with ⟨running, done⟩ | ⟨absent, starting⟩
  · obtain ⟨rfl, rfl⟩ := ends_pure.mp done
    exact .running opening running
  have absent : opened.members.lookup language = none := Option.not_isSome_iff_eq_none.mp absent
  split at starting
  · next unknown =>
    obtain ⟨rfl, rfl⟩ := ends_raise.mp starting
    exact .unsupported opening absent unknown
  · next config known =>
    obtain ⟨result, session, started, rest⟩ := ends_act_bind.mp starting
    cases result with
    | ok value =>
        obtain ⟨rfl, rfl⟩ := ends_modify.mp rest
        have joined := Needed.begun opening absent known started
        exact joined
    | error failure =>
        rcases ends_bind.mp rest with ⟨_, _, apart, thrown⟩ | ⟨_, _, apart⟩
        · obtain ⟨_, rfl⟩ := ends_modify.mp apart
          obtain ⟨rfl, rfl⟩ := ends_throw.mp thrown
          exact .unbegun opening absent known started
        · cases (ends_modify.mp apart).1

theorem listed_of_needClient [Peer σ] {w after : Workspace σ} {language : String}
    (ended : Ends (needClient language) w (.ok ()) after) :
    (after.members.lookup language).isSome = true := by
  cases ends_needClient ended with
  | running _ running => exact running
  | begun _ _ _ _ =>
      rw [lookup_putMember, if_pos rfl]
      rfl

theorem within_needClientFor_of [Peer σ] (opens : Within F (openUp : Operation σ Settings))
    (needs : ∀ language, Within F (needClient language : Operation σ Unit)) (uri : String) :
    Within F (needClientFor uri : Operation σ String) := by
  refine within_bind opens fun settings => within_bind (within_settle _) fun language => ?_
  cases language with
  | some language => exact within_bind (needs language) fun _ => within_pure language
  | none => exact within_bind (within_settle _) fun _ => within_raise _

namespace Houses

theorem within_openUp (houses : Houses F G) : Within F (openUp : Operation σ Settings) := by
  refine within_bind houses.within_needSettings fun settings => ?_
  refine within_bind (within_modify fun w => ?_) fun _ => within_pure settings
  exact houses.opens w true

variable [Peer σ]

theorem within_needClient (houses : Houses F G) (preparing : Client.Preparing G)
    (language : String) : Within F (needClient language : Operation σ Unit) := by
  intro w after outcome ended
  cases ends_needClient ended with
  | unopened opening => exact houses.within_openUp opening
  | running opening _ => exact houses.within_openUp opening
  | unsupported opening _ _ => exact houses.within_openUp opening
  | begun opening _ _ started =>
      exact F.trans (houses.within_openUp opening) (houses.joins (preparing.begins started))
  | unbegun opening _ _ started =>
      exact F.trans (houses.within_openUp opening) (houses.leaves (preparing.begins started))

theorem within_needClientFor (houses : Houses F G) (preparing : Client.Preparing G)
    (uri : String) : Within F (needClientFor uri : Operation σ String) :=
  within_needClientFor_of houses.within_openUp (houses.within_needClient preparing) uri

theorem within_prepare (houses : Houses F G) (preparing : Client.Preparing G) (uri : String) :
    Within F (prepare uri : Operation σ (String × String)) := by
  refine within_bind (within_locate uri) fun located => ?_
  refine within_bind (houses.within_needClientFor preparing _) fun language => ?_
  exact within_bind (houses.within_synchronize preparing language _) fun _ => within_pure _

theorem within_findTarget (houses : Houses F G) (preparing : Client.Preparing G)
    (op : EditOperation) :
    Within F (findTarget op : Operation σ (String × String × Symbol)) := by
  refine within_bind (within_settle _) fun _ => within_bind (within_settle _) fun uri => ?_
  refine within_bind (houses.within_prepare preparing uri) fun prepared => ?_
  refine within_bind ?_ fun _ => within_pure _
  refine within_bind (within_settle _) fun name => ?_
  refine within_bind (houses.within_onClient (preparing.seeks prepared.2 name)) fun found => ?_
  cases found with
  | some symbol => exact within_pure symbol
  | none => exact within_raise _

end Houses

theorem within_workOut_of [Peer σ]
    (renames : ∀ uri place newName,
      Within G (Client.rename uri place newName : Action σ Client WorkspaceEdit))
    (op : EditOperation) (uri : String) (symbol : Symbol) :
    Within G (workOut op uri symbol : Action σ Client WorkspaceEdit) := by
  unfold workOut
  dsimp only
  split
  · refine within_bind Client.within_current fun _ => ?_
    refine within_bind (Session.within_settle _) fun _ => ?_
    exact within_bind (Session.within_settle _) fun _ => within_pure _
  · exact within_pure _
  · exact within_pure _
  · exact renames _ _ _

theorem within_workOut [Peer σ] (preparing : Client.Preparing G) (op : EditOperation)
    (uri : String) (symbol : Symbol) :
    Within G (workOut op uri symbol : Action σ Client WorkspaceEdit) :=
  within_workOut_of preparing.renames op uri symbol

/-! ### Files and settings -/

structure Grounded (w after : Workspace σ) : Prop where
  files : after.world.files = w.world.files
  root : after.root = w.root
  settings : ∀ ⦃settings⦄, w.settings = some settings → after.settings = some settings

omit [Halves] in
theorem Grounded.refl (w : Workspace σ) : Grounded w w :=
  ⟨rfl, rfl, fun _ => id⟩

omit [Halves] in
theorem Grounded.trans {a b c : Workspace σ} (first : Grounded a b) (second : Grounded b c) :
    Grounded a c :=
  ⟨second.files.trans first.files, second.root.trans first.root,
    fun _ known => second.settings (first.settings known)⟩

def groundStays : Frame (Workspace σ) :=
  ⟨Grounded, .refl, .trans⟩

theorem houses_groundStays : Houses (groundStays : Frame (Workspace σ)) Client.filesStay where
  acts {w language _ session} _ stays := by
    refine ⟨?_, root_withSession _ _ _, fun _ known => ?_⟩
    · rw [world_withSession]
      exact stays
    · rw [settings_withSession]
      exact known
  joins stays := ⟨stays, rfl, fun _ => id⟩
  leaves {w language client session} stays := by
    unfold setApart
    split
    · exact ⟨stays, rfl, fun _ => id⟩
    · exact ⟨stays, rfl, fun _ => id⟩
  opens _ _ := ⟨rfl, rfl, fun _ => id⟩
  loads _ _ unset := ⟨rfl, rfl, fun _ known => nomatch unset.symm.trans known⟩
  notes _ := ⟨rfl, rfl, fun _ => id⟩

def setupStays : Frame (Workspace σ) where
  holds w after := after.root = w.root ∧
    ∀ settings, w.settings = some settings → after.settings = some settings
  refl _ := ⟨rfl, fun _ known => known⟩
  trans first second :=
    ⟨second.1.trans first.1, fun settings known => second.2 settings (first.2 settings known)⟩

theorem houses_setupStays : Houses (setupStays : Frame (Workspace σ)) G := by
  refine ⟨⟨?_, ?_, ?_⟩, ?_, ?_, ?_⟩
  · intro w language member session _ _
    refine ⟨root_withSession w language session, fun settings known => ?_⟩
    rw [settings_withSession]
    exact known
  · exact fun _ _ unset => ⟨rfl, fun _ known => nomatch unset.symm.trans known⟩
  · exact fun _ => ⟨rfl, fun _ known => known⟩
  · exact fun _ => ⟨rfl, fun _ known => known⟩
  · intro w language client session _
    unfold setApart
    split
    · exact ⟨rfl, fun _ known => known⟩
    · exact ⟨rfl, fun _ known => known⟩
  · exact fun _ _ => ⟨rfl, fun _ known => known⟩

/-! ### What holds of every member -/

structure Each (worldly : World σ → Prop) (held : World σ → Connection → Prop) (w : Workspace σ) :
    Prop where
  world : worldly w.world
  members : ∀ ⦃language member⦄, w.member? language = some member → held w.world member.connection

/-- What sessions keep of the world and of their own connection, a workspace keeps of all of its
members, if the world changes in a way that does not matter to the others. -/
theorem houses_each (worldly : World σ → Prop) (held : World σ → Connection → Prop)
    (course : World σ → World σ → Prop) (same : ∀ world, course world world)
    (others : ∀ {a b connection}, course a b → held a connection → held b connection)
    (fresh : ∀ world, held world {})
    (inside : ∀ {w after : Workspace σ}, (w.Each worldly held → after.Each worldly held ∧
      course w.world after.world) → F.holds w after)
    (step : ∀ {s after : Session σ Client}, G.holds s after → worldly s.world →
      held s.world s.connection → worldly after.world ∧ held after.world after.connection ∧
        course s.world after.world) :
    Houses F G where
  acts {w language member session} found stays := by
    refine inside fun each => ?_
    obtain ⟨world, mine, moved⟩ := step stays each.world (each.members found)
    refine ⟨⟨?_, fun other member found => ?_⟩, ?_⟩
    · rw [world_withSession]
      exact world
    · rw [world_withSession]
      rw [member?_withSession] at found
      split at found
      · cases found
        exact mine
      · exact others moved (each.members found)
    · rw [world_withSession]
      exact moved
  joins {w language client session} stays := by
    refine inside fun each => ?_
    obtain ⟨world, mine, moved⟩ := step stays each.world (fresh _)
    refine ⟨⟨world, fun other member found => ?_⟩, moved⟩
    have known := (member?_joined w language (memberOf session) other).symm.trans found
    split at known
    · cases known
      exact mine
    · exact others moved (each.members known)
  leaves {w language client session} stays := by
    refine inside fun each => ?_
    obtain ⟨world, mine, moved⟩ := step stays each.world (fresh _)
    unfold setApart
    split
    · refine ⟨⟨world, fun other member found => ?_⟩, moved⟩
      have known := (member?_former w language (memberOf session) other).symm.trans found
      split at known
      · cases known
        exact mine
      · exact others moved (each.members known)
    · exact ⟨⟨world, fun _ _ found => others moved (each.members found)⟩, moved⟩
  opens _ _ := inside fun each => ⟨⟨each.world, each.members⟩, same _⟩
  loads _ _ _ := inside fun each => ⟨⟨each.world, each.members⟩, same _⟩
  notes _ := inside fun each => ⟨⟨each.world, each.members⟩, same _⟩

/-! ### Calm -/

/-- The servers are quiet, and no client has an edit to handle that its server asks for. -/
structure Calm (quiet : σ → Prop) (w : Workspace σ) : Prop where
  server : quiet w.world.server
  members : ∀ ⦃language member⦄, w.member? language = some member → member.connection.Quiet

def calmStays (quiet : σ → Prop) : Frame (Workspace σ) :=
  Frame.invariant (Calm quiet)

omit [Halves] in
theorem Calm.session {quiet : σ → Prop} {w : Workspace σ} {language : String} {member : Member}
    (calm : w.Calm quiet) (found : w.member? language = some member) :
    Client.Calm quiet (w.sessionOf member) :=
  ⟨calm.server, calm.members found⟩

theorem houses_calmStays {quiet : σ → Prop} :
    Houses (calmStays quiet) (Client.calmStays quiet) := by
  have fresh : Connection.Quiet {} := fun _ _ member => absurd member List.not_mem_nil
  refine houses_each (fun world => quiet world.server) (fun _ connection => connection.Quiet)
    (fun _ _ => True) (fun _ => trivial) (fun _ => id) (fun _ => fresh) (fun each calm => ?_)
    fun stays world held => ?_
  · obtain ⟨last, _⟩ := each ⟨calm.server, calm.members⟩
    exact ⟨last.world, last.members⟩
  · have last := stays ⟨world, held⟩
    exact ⟨last.server, last.connection, trivial⟩

end Scalpel.Workspace
