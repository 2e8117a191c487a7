import Scalpel.Proofs.Clerk
import Scalpel.Proofs.Stages
import Scalpel.Proofs.Watching

/-!
The tables of a workspace stay consistent. Whatever clients are asked for, started and stopped, however
starting them fails and whatever their servers do in between, the listed clients and the health checks
on the clock go together, one for one and in the same order. A listed client has been initialized for a
configured language and stays listed, the same client, until it is stopped; and then it is shut down and
not watched any more.
-/

set_option autoImplicit false

namespace Scalpel.Workspace

variable {σ : Type} {w mid after : Workspace σ} {language : String} {member : Member}

/-! ### Clients that go on -/

/-- What a listed client does: something is done to it but not to its monitor, or a call is made that it
has scheduled. -/
inductive Deed where
  | stimulus (stimulus : Client.Stimulus) (spares : stimulus.SparesMonitor)
  | call (job : Job)

variable [Halves] [Peer σ]

def carryOut : Deed → Action σ Client Unit
  | .stimulus stimulus _ => Client.respond stimulus
  | .call job => Client.perform job

theorem within_carryOut_steady (deed : Deed) :
    Within Client.steady (carryOut deed : Action σ Client Unit) := by
  cases deed with
  | stimulus stimulus spares => exact Client.within_respond_steady spares
  | call job => exact Client.within_perform_steady job

/-- A member is the same client as an earlier one and has gone on from there. -/
inductive Continues (σ : Type) [Peer σ] (first : Member) : Member → Prop
  | same : Continues σ first first
  | acted {member : Member} {world : World σ} {deed : Deed} {outcome : Outcome Unit}
    {session : Session σ Client} : Continues σ first member →
    Ends (carryOut deed) { world, connection := member.connection, owner := member.client } outcome
      session → Continues σ first (memberOf session)

namespace Continues

variable {first last : Member}

theorem trans (goes : Continues σ first member) (on : Continues σ member last) :
    Continues σ first last := by
  induction on with
  | same => exact goes
  | acted _ acted ih => exact ih.acted acted

theorem monitor (goes : Continues σ first last) :
    last.client.monitor.call = first.client.monitor.call := by
  induction goes with
  | same => rfl
  | acted _ acted ih => exact (within_carryOut_steady _ acted).monitor.trans ih

theorem launches (goes : Continues σ first last) : first.client.launches ≤ last.client.launches := by
  induction goes with
  | same => exact Nat.le_refl _
  | acted _ acted ih => exact Nat.le_trans ih (within_carryOut_steady _ acted).launches

end Continues

/-- A member was made for a config, initialized and watched, and has gone on from there. -/
inductive Enlisted (σ : Type) [Peer σ] (config : ServerConfig) (member : Member) : Prop
  | intro {world : World σ} {root : String} {settings : Settings} {now : Float}
    {session : Session σ Client} :
    Ends Client.setOut { world, owner := Client.make config root settings now } (.ok ()) session →
    session.owner.state = .ready → 0 < session.owner.launches →
    Continues σ (memberOf session) member → Enlisted σ config member

/-! ### Consistency -/

structure SameTables (w after : Workspace σ) : Prop where
  members : after.members = w.members
  watches : after.world.clock.watches = w.world.clock.watches

omit [Halves] [Peer σ] in
theorem SameTables.trans {a b c : Workspace σ} (first : SameTables a b) (second : SameTables b c) :
    SameTables a c :=
  ⟨second.members.trans first.members, second.watches.trans first.watches⟩

def watchOf (entry : String × Member) : String × Option Nat :=
  (entry.2.client.language, entry.2.client.monitor.call)

/-- The tables of a workspace go together. No language is listed twice; a listed client was initialized
for a config of the settings; and the health checks on the clock are the calls of the monitors of the
listed clients, of each one and in the same order, and no others. -/
structure Consistent (w : Workspace σ) : Prop where
  distinct : (w.members.map (·.1)).Nodup
  listed : ∀ language member, (language, member) ∈ w.members → ∃ settings config,
    w.settings = some settings ∧ settings.servers.lookup language = some config ∧
      Enlisted σ config member
  watched : w.world.clock.watches = w.members.map watchOf

/-- Consistency together with what keeps it up: health checks are made again and again, and none is
taken for the second half of a restart. -/
structure Ordered (w : Workspace σ) : Prop extends Consistent w where
  tidy : w.world.clock.Tidy
  periodic : ∀ call ∈ w.world.clock.checks, call.interval.isSome = true
  unmixed : ∀ entry ∈ w.members ++ w.former,
    Client.Unmixed w.world.clock entry.2.client.backoff

structure Carried (w after : Workspace σ) : Prop where
  listed : ∀ language member, w.members.lookup language = some member →
    ∃ later, after.members.lookup language = some later ∧ Continues σ member later

theorem Carried.of_members (same : after.members = w.members) : Carried w after where
  listed _ member found := ⟨member, by rw [same]; exact found, .same⟩

theorem Carried.trans {a b c : Workspace σ} (first : Carried a b) (second : Carried b c) :
    Carried a c where
  listed language member found := by
    obtain ⟨later, found', goes⟩ := first.listed language member found
    obtain ⟨last, found'', on⟩ := second.listed language later found'
    exact ⟨last, found'', goes.trans on⟩

theorem carried_withSession {session : Session σ Client} (found : w.member? language = some member)
    (goes : Continues σ member (memberOf session)) :
    Carried w (w.withSession language session) := by
  refine ⟨fun other old listed => ?_⟩
  rw [lookup_withSession]
  by_cases here : other = language ∧ (w.members.lookup language).isSome = true
  · rw [if_pos here]
    obtain ⟨rfl, _⟩ := here
    cases (member?_of_listed listed).symm.trans found
    exact ⟨memberOf session, rfl, goes⟩
  · rw [if_neg here]
    exact ⟨old, listed, .same⟩

def carrying : Frame (Workspace σ) where
  holds w after := Ordered w → Ordered after ∧ Carried w after
  refl _ ordered := ⟨ordered, .of_members rfl⟩
  trans first second ordered :=
    have mid := first ordered
    have last := second mid.1
    ⟨last.1, mid.2.trans last.2⟩

namespace Ordered

theorem enlisted (ordered : Ordered w) (found : w.members.lookup language = some member) :
    ∃ settings config, w.settings = some settings ∧
      settings.servers.lookup language = some config ∧ Enlisted σ config member :=
  ordered.listed language member (mem_of_lookup found)

theorem unmixed_of_member? (ordered : Ordered w) (found : w.member? language = some member) :
    Client.Unmixed w.world.clock member.client.backoff := by
  cases listed : w.members.lookup language with
  | some other =>
      cases (member?_of_listed listed).symm.trans found
      exact ordered.unmixed (language, member) (List.mem_append_left _ (mem_of_lookup listed))
  | none =>
      unfold member? at found
      rw [listed] at found
      exact ordered.unmixed (language, member) (List.mem_append_right _ (mem_of_lookup found))

theorem calls_distinct (ordered : Ordered w) :
    (w.members.map fun entry => entry.2.client.monitor.call).Nodup := by
  have numbers : (w.world.clock.watches.map (·.2)).Nodup := by
    have ids : (w.world.clock.checks.map (·.id)).Nodup :=
      (List.Sublist.map _ List.filter_sublist).nodup ordered.tidy.distinct
    have given : (w.world.clock.checks.map (·.id)).map some = w.world.clock.watches.map (·.2) := by
      unfold Clock.watches
      rw [List.map_map, List.map_map]
      rfl
    rw [← given]
    exact ids.map fun _ _ same => Option.some.inj same
  rw [ordered.watched, List.map_map] at numbers
  exact numbers

/-- Clients that do not act keep their restarts apart from the checks, as long as further checks have
new numbers. -/
theorem others {clock : Clock Task} (ordered : Ordered w) (tidy : clock.Tidy)
    (numbers : w.world.clock.nextId ≤ clock.nextId)
    (checks : ∀ call ∈ clock.checks,
      (∃ old ∈ w.world.clock.checks, old.id = call.id) ∨ w.world.clock.nextId ≤ call.id) :
    ∀ entry ∈ w.members ++ w.former, Client.Unmixed clock entry.2.client.backoff :=
  fun entry there => (ordered.unmixed entry there).onward tidy numbers checks

theorem others_of_same {clock : Clock Task} (ordered : Ordered w) (tidy : clock.Tidy)
    (numbers : w.world.clock.nextId ≤ clock.nextId) (same : clock.checks = w.world.clock.checks) :
    ∀ entry ∈ w.members ++ w.former, Client.Unmixed clock entry.2.client.backoff :=
  ordered.others tidy numbers fun call due => .inl ⟨call, same ▸ due, rfl⟩

/-! ### Steps that keep up order -/

theorem ticked {target : Float} {task : Task} {clock : Clock Task} (ordered : Ordered w)
    (next : w.world.clock.next? target = some (task, clock)) :
    Ordered { w with world := { w.world with clock } } := by
  obtain ⟨same, periodic⟩ := ordered.tidy.checks_next ordered.periodic next
  obtain ⟨_, _, _, _, _, _, numbers⟩ := ordered.tidy.next?_eq_some next
  have tidy := ordered.tidy.next next
  refine ⟨⟨ordered.distinct, ordered.listed, same.trans ordered.watched⟩, tidy, periodic, ?_⟩
  apply ordered.others tidy (Nat.le_of_eq numbers.symm)
  exact fun call due => .inl (Clock.exists_of_watches same due)

theorem acted {deed : Deed} {outcome : Outcome Unit} {session : Session σ Client}
    (ordered : Ordered w) (found : w.member? language = some member)
    (acted : Ends (carryOut deed) (w.sessionOf member) outcome session) :
    Ordered (w.withSession language session) ∧ Carried w (w.withSession language session) := by
  have steady := within_carryOut_steady deed acted
  obtain ⟨unmixed, checks, numbers⟩ := steady.clock (ordered.unmixed_of_member? found)
  have goes : Continues σ member (memberOf session) := Continues.same.acted acted
  have clock : (w.withSession language session).world = session.world := world_withSession _ _ _
  have others := ordered.others_of_same unmixed.tidy numbers checks
  refine ⟨⟨⟨?_, fun other later there => ?_, ?_⟩, ?_, ?_, fun entry there => ?_⟩,
    carried_withSession found goes⟩
  · rw [map_withSession found rfl]
    exact ordered.distinct
  · rw [settings_withSession]
    rcases listed_of_withSession found there with ⟨same, before⟩ | before
    · cases same
      obtain ⟨settings, config, known, configured, ⟨begun, ready, launched, on⟩⟩ :=
        ordered.listed language member before
      exact ⟨settings, config, known, configured, ⟨begun, ready, launched, on.trans goes⟩⟩
    · exact ordered.listed other later before
  · have same : watchOf (language, memberOf session) = watchOf (language, member) :=
      Prod.ext (congrArg (·.language) steady.config) steady.monitor
    rw [map_withSession found same, ← ordered.watched]
    unfold Clock.watches
    rw [clock, checks]
    rfl
  · rw [clock]
    exact unmixed.tidy
  · rw [clock, checks]
    exact ordered.periodic
  · rw [clock]
    rcases List.mem_append.mp there with listed | apart
    · rcases listed_of_withSession found listed with ⟨rfl, _⟩ | before
      · exact unmixed
      · exact others entry (List.mem_append_left _ before)
    · rcases former_of_withSession apart with rfl | before
      · exact unmixed
      · exact others entry (List.mem_append_right _ before)

theorem prepared {settings : Option Settings} {isOpen : Bool} (ordered : Ordered w)
    (known : ∀ given, w.settings = some given → settings = some given) :
    Ordered { w with settings, isOpen } := by
  refine ⟨⟨ordered.distinct, fun language member there => ?_, ordered.watched⟩, ordered.tidy,
    ordered.periodic, ordered.unmixed⟩
  obtain ⟨given, config, loaded, rest⟩ := ordered.listed language member there
  exact ⟨given, config, known given loaded, rest⟩

theorem joined {settings : Settings} {config : ServerConfig} {session : Session σ Client}
    (ordered : Ordered w) (known : w.settings = some settings)
    (absent : w.members.lookup language = none)
    (configured : settings.servers.lookup language = some config)
    (begun : Ends Client.setOut
      (w.sessionOf { client := Client.make config w.root settings w.world.clock.now }) (.ok ())
      session) :
    Ordered { w with
      world := session.world
      members := putMember w.members language (memberOf session) } := by
  obtain ⟨kept, ready, launched, unmixed, numbers, call, more, tongue, timed, called, fresh⟩ :=
    Client.ends_setOut rfl ordered.tidy begun
  have checks : session.world.clock.checks = w.world.clock.checks ++ [call] := more
  have enlisted : Enlisted σ config (memberOf session) := ⟨begun, ready, launched, .same⟩
  have others : ∀ entry ∈ w.members ++ w.former,
      Client.Unmixed session.world.clock entry.2.client.backoff := by
    apply ordered.others unmixed.tidy numbers
    intro other due
    rw [checks] at due
    rcases List.mem_append.mp due with old | new
    · exact .inl ⟨other, old, rfl⟩
    · rw [List.mem_singleton.mp new]
      exact .inr fresh
  rw [putMember_absent absent]
  refine ⟨⟨?_, fun other member there => ?_, ?_⟩, unmixed.tidy, fun other due => ?_,
    fun entry there => ?_⟩
  · rw [List.map_append, List.nodup_append]
    refine ⟨ordered.distinct, List.nodup_singleton _, fun key old other new same => ?_⟩
    obtain ⟨entry, there, rfl⟩ := List.mem_map.mp old
    have elsewhere := List.lookup_eq_none_iff.mp absent entry there
    have here : other = language := List.mem_singleton.mp new
    rw [same, here] at elsewhere
    simp at elsewhere
  · rcases List.mem_append.mp there with old | new
    · exact ordered.listed other member old
    · cases List.mem_singleton.mp new
      exact ⟨settings, config, known, configured, enlisted⟩
  · have mine : watchOf (language, memberOf session) = (call.task.language, some call.id) :=
      Prod.ext ((congrArg (·.language) kept).trans tongue.symm) called
    rw [List.map_append, List.map_singleton, mine, ← ordered.watched]
    unfold Clock.watches
    rw [checks, List.map_append, List.map_singleton]
  · rw [checks] at due
    rcases List.mem_append.mp due with old | new
    · exact ordered.periodic other old
    · rw [List.mem_singleton.mp new]
      exact timed
  · rcases List.mem_append.mp there with listed | apart
    · rcases List.mem_append.mp listed with old | new
      · exact others entry (List.mem_append_left _ old)
      · rw [List.mem_singleton.mp new]
        exact unmixed
    · exact others entry (List.mem_append_right _ apart)

/-- A client that acts without being listed, and is set apart afterwards if it had a server, changes
nothing of the tables. -/
theorem unjoined {client : Client} {session : Session σ Client} (ordered : Ordered w)
    (none : client.backoff = none)
    (steady : Client.Steady (w.sessionOf { client }) session) :
    Ordered (({ w with world := session.world } : Workspace σ).setApart language
        (memberOf session)) ∧
      SameTables w (({ w with world := session.world } : Workspace σ).setApart language
        (memberOf session)) := by
  obtain ⟨unmixed, checks, numbers⟩ := steady.clock (.of_none ordered.tidy none)
  have others := ordered.others_of_same unmixed.tidy numbers checks
  have watches : session.world.clock.watches = w.world.clock.watches := by
    unfold Clock.watches
    rw [checks]
    rfl
  have watched := watches.trans ordered.watched
  have periodic : ∀ call ∈ session.world.clock.checks, call.interval.isSome = true := by
    rw [checks]
    exact ordered.periodic
  unfold setApart
  split
  · refine ⟨⟨⟨ordered.distinct, ordered.listed, watched⟩, unmixed.tidy, periodic,
      fun entry there => ?_⟩, rfl, watches⟩
    rcases List.mem_append.mp there with listed | apart
    · exact others entry (List.mem_append_left _ listed)
    · rcases mem_of_mem_putMember apart with rfl | before
      · exact unmixed
      · exact others entry (List.mem_append_right _ before)
  · exact ⟨⟨⟨ordered.distinct, ordered.listed, watched⟩, unmixed.tidy, periodic, others⟩, rfl,
      watches⟩

end Ordered

/-! ### Clients that are asked for -/

/-- What becomes of the tables when a client is asked for: whoever is got is listed, and unless somebody
is got who was not there before, the tables stay as they were. -/
structure Asked (got : String → Prop) (w after : Workspace σ) : Prop where
  ordered : Ordered after
  carried : Carried w after
  listed : ∀ language, got language → (after.members.lookup language).isSome = true
  same : (∀ language, got language → (w.members.lookup language).isSome = true) →
    SameTables w after

namespace Asked

variable {got : String → Prop}

theorem of_same (ordered : Ordered after) (same : SameTables w after)
    (listed : ∀ language, got language → (after.members.lookup language).isSome = true) :
    Asked got w after :=
  ⟨ordered, .of_members same.members, listed, fun _ => same⟩

theorem since (same : SameTables w mid) (asked : Asked got mid after) : Asked got w after where
  ordered := asked.ordered
  carried := (Carried.of_members same.members).trans asked.carried
  listed := asked.listed
  same there := same.trans (asked.same fun language got => by
    rw [same.members]
    exact there language got)

theorem congr {other : String → Prop} (asked : Asked got w after)
    (alike : ∀ language, other language ↔ got language) : Asked other w after where
  ordered := asked.ordered
  carried := asked.carried
  listed language known := asked.listed language ((alike language).mp known)
  same there := asked.same fun language known => there language ((alike language).mpr known)

end Asked

omit [Peer σ] in
theorem ends_openUp_prepared {outcome : Outcome Settings}
    (ended : Ends (openUp : Operation σ Settings) w outcome after) :
    ∃ settings isOpen, after = { w with settings, isOpen } ∧
      ∀ given, w.settings = some given → settings = some given := by
  rcases ends_bind.mp ended with ⟨settings, mid, needed, opening⟩ | ⟨_, _, failed⟩
  · rcases ends_bind.mp opening with ⟨_, _, opened, done⟩ | ⟨_, _, failed⟩
    · obtain ⟨_, rfl⟩ := ends_modify.mp opened
      obtain ⟨_, rfl⟩ := ends_pure.mp done
      refine ⟨some settings, true, by rw [ends_needSettings needed], fun given known => ?_⟩
      cases (ends_needSettings_known known needed).1
      rfl
    · cases (ends_modify.mp failed).1
  · have looked := ends_get_bind.mp failed
    split at looked
    · cases (ends_pure.mp looked).1
    · rcases ends_settle_bind.mp looked with ⟨_, _, _, rfl⟩ | ⟨_, _, loading⟩
      · exact ⟨after.settings, after.isOpen, rfl, fun _ known => known⟩
      · rcases ends_bind.mp loading with ⟨_, _, _, done⟩ | ⟨_, _, failed⟩
        · cases (ends_pure.mp done).1
        · cases (ends_modify.mp failed).1

namespace Ordered

theorem openUp {outcome : Outcome Settings} (ordered : Ordered w)
    (ended : Ends (openUp : Operation σ Settings) w outcome after) :
    Ordered after ∧ SameTables w after := by
  obtain ⟨settings, isOpen, rfl, known⟩ := ends_openUp_prepared ended
  exact ⟨ordered.prepared known, rfl, rfl⟩

theorem needed {outcome : Outcome Unit} (ordered : Ordered w)
    (ended : Ends (needClient language) w outcome after) :
    Asked (fun other => other = language ∧ outcome = .ok ()) w after := by
  cases ends_needClient ended with
  | unopened opening =>
      obtain ⟨ready, same⟩ := ordered.openUp opening
      exact .of_same ready same nofun
  | unsupported opening _ _ =>
      obtain ⟨ready, same⟩ := ordered.openUp opening
      exact .of_same ready same nofun
  | unbegun opening _ _ unbegun =>
      obtain ⟨ready, same⟩ := ordered.openUp opening
      obtain ⟨ready, left⟩ := ready.unjoined rfl (Client.steady_of_unset unbegun)
      exact .of_same ready (same.trans left) nofun
  | running opening running =>
      obtain ⟨ready, same⟩ := ordered.openUp opening
      refine .of_same ready same fun other got => ?_
      rw [got.1]
      exact running
  | @begun settings opened config session opening absent configured begun =>
      obtain ⟨ready, same⟩ := ordered.openUp opening
      have known : opened.settings = some settings := by
        rw [ends_openUp opening]
      refine .since same ⟨ready.joined known absent configured begun, ⟨fun other member listed => ?_⟩,
        fun other got => ?_, fun there => ?_⟩
      · refine ⟨member, ?_, .same⟩
        rw [lookup_putMember, if_neg ?_, listed]
        rintro rfl
        cases absent.symm.trans listed
      · rw [got.1, lookup_putMember, if_pos rfl]
        rfl
      · have running := there language ⟨rfl, rfl⟩
        rw [absent] at running
        cases running

theorem got {outcome : Outcome Unit} (ordered : Ordered w)
    (running : (w.members.lookup language).isSome = true)
    (ended : Ends (needClient language) w outcome after) : outcome = .ok () := by
  obtain ⟨member, listed⟩ := Option.isSome_iff_exists.mp running
  obtain ⟨settings, _, known, _⟩ := ordered.enlisted listed
  have still {given : Settings} {opened : Workspace σ}
      (opening : Ends (Workspace.openUp : Operation σ Settings) w (.ok given) opened) :
      opened.members.lookup language ≠ none := by
    rw [ends_openUp opening, listed]
    exact nofun
  cases ends_needClient ended with
  | running _ _ => rfl
  | begun _ _ _ _ => rfl
  | unsupported opening absent _ => exact absurd absent (still opening)
  | unbegun opening absent _ _ => exact absurd absent (still opening)
  | unopened opening =>
      rcases ends_bind.mp opening with ⟨_, _, _, rest⟩ | ⟨_, _, failed⟩
      · rcases ends_bind.mp rest with ⟨_, _, _, done⟩ | ⟨_, _, failed⟩
        · cases (ends_pure.mp done).1
        · cases (ends_modify.mp failed).1
      · cases (ends_needSettings_known known failed).1

theorem neededFor {uri : String} {outcome : Outcome String} (ordered : Ordered w)
    (ended : Ends (needClientFor uri) w outcome after) :
    Asked (fun language => outcome = .ok language) w after := by
  rcases ends_bind.mp ended with ⟨settings, opened, opening, asking⟩ | ⟨_, rfl, opening⟩
  case inr =>
    obtain ⟨ready, same⟩ := ordered.openUp opening
    exact .of_same ready same nofun
  obtain ⟨ready, same⟩ := ordered.openUp opening
  rcases ends_settle_bind.mp asking with ⟨_, _, rfl, rfl⟩ | ⟨found, _, needing⟩
  · exact .of_same ready same nofun
  cases found with
  | some language =>
      rcases ends_bind.mp needing with ⟨_, _, needed, done⟩ | ⟨_, rfl, refused⟩
      · obtain ⟨rfl, rfl⟩ := ends_pure.mp done
        refine .since same ((ready.needed needed).congr fun other => ?_)
        rw [Except.ok.injEq, and_iff_left rfl, eq_comm]
      · exact .since same ((ready.needed refused).congr fun other => ⟨nofun, nofun⟩)
  | none =>
      rcases ends_settle_bind.mp needing with ⟨_, _, rfl, rfl⟩ | ⟨_, _, raising⟩
      · exact .of_same ready same nofun
      · obtain ⟨rfl, rfl⟩ := ends_raise.mp raising
        exact .of_same ready same nofun

theorem started {outcome : Outcome Bool} (ordered : Ordered w)
    (ended : Ends (start language) w outcome after) :
    Asked (fun other => other = language ∧ outcome = .ok true) w after := by
  obtain ⟨reached, mid, needed, rest⟩ := ends_attempt_bind.mp ended
  have asked := ordered.needed needed
  cases reached with
  | ok value =>
      obtain ⟨rfl, rfl⟩ := ends_pure.mp rest
      exact asked.congr fun other => ⟨fun got => ⟨got.1, rfl⟩, fun got => ⟨got.1, rfl⟩⟩
  | error failure =>
      cases failure with
      | problem problem =>
          obtain ⟨rfl, rfl⟩ := ends_pure.mp rest
          exact asked.congr fun other => ⟨nofun, nofun⟩
      | _ =>
          obtain ⟨rfl, rfl⟩ := ends_throw.mp rest
          exact asked.congr fun other => ⟨nofun, nofun⟩

end Ordered

/-! ### Clients that are stopped -/

/-- What has become of a member that was removed: it was finished, however that ended, so that it is
shut down and not watched any more. -/
structure Removed (σ : Type) [Peer σ] (member removed : Member) : Prop where
  finished : ∃ (world : World σ) (outcome : Outcome Unit) (session : Session σ Client),
    Ends Client.finish { world, connection := member.connection, owner := member.client } outcome
      session ∧ removed = memberOf session
  state : removed.client.state = .shutDown
  monitor : removed.client.monitor.call = none

/-- What becomes of the tables when clients are stopped: each listed client is still listed as it was, or
it was removed and set apart. -/
structure Stopped (w after : Workspace σ) : Prop where
  members : ∀ language, after.members.lookup language = w.members.lookup language ∨
    after.members.lookup language = none ∧ ∃ member removed,
      w.members.lookup language = some member ∧ after.former.lookup language = some removed ∧
        Removed σ member removed
  former : ∀ language, w.members.lookup language = none →
    after.former.lookup language = w.former.lookup language

theorem Stopped.refl (w : Workspace σ) : Stopped w w :=
  ⟨fun _ => .inl rfl, fun _ _ => rfl⟩

theorem Stopped.trans {a b c : Workspace σ} (first : Stopped a b) (second : Stopped b c) :
    Stopped a c := by
  constructor
  · intro language
    rcases first.members language with same | ⟨gone, member, removed, listed, apart, ended⟩
    · rcases second.members language with same' | ⟨gone, member, removed, listed, rest⟩
      · exact .inl (same'.trans same)
      · exact .inr ⟨gone, member, removed, same ▸ listed, rest⟩
    · have last : c.members.lookup language = none := by
        rcases second.members language with same' | ⟨gone', _⟩
        · exact same'.trans gone
        · exact gone'
      exact .inr ⟨last, member, removed, listed, (second.former language gone).trans apart, ended⟩
  · intro language absent
    have gone : b.members.lookup language = none := by
      rcases first.members language with same | ⟨gone, _⟩
      · exact same.trans absent
      · exact gone
    exact (second.former language gone).trans (first.former language absent)

def stopping : Frame (Workspace σ) where
  holds w after := Ordered w → Ordered after ∧ Stopped w after
  refl w ordered := ⟨ordered, .refl w⟩
  trans first second ordered :=
    have mid := first ordered
    have last := second mid.1
    ⟨last.1, mid.2.trans last.2⟩

def departed (w : Workspace σ) (language : String) (session : Session σ Client) : Workspace σ :=
  { w with
    world := session.world
    members := dropMember w.members language
    former := putMember w.former language (memberOf session) }

theorem ends_stop {outcome : Outcome Unit} (ended : Ends (stop language) w outcome after) :
    w.members.lookup language = none ∧ outcome = .ok () ∧ after = w ∨
      ∃ member session, w.members.lookup language = some member ∧
        Ends Client.finish (w.sessionOf member) outcome session ∧
        (0 < session.owner.launches → after = w.departed language session) := by
  have looked := ends_get_bind.mp ended
  split at looked
  · next absent =>
    obtain ⟨rfl, rfl⟩ := ends_pure.mp looked
    exact .inl ⟨absent, rfl, rfl⟩
  · next member listed =>
    rcases ends_bind.mp looked with ⟨_, _, dropped, finishing⟩ | ⟨_, _, dropped⟩
    · obtain ⟨_, rfl⟩ := ends_modify.mp dropped
      obtain ⟨reached, session, finished, rest⟩ := ends_act_bind.mp finishing
      rcases ends_bind.mp rest with ⟨_, _, apart, done⟩ | ⟨_, _, apart⟩
      · obtain ⟨_, rfl⟩ := ends_modify.mp apart
        obtain ⟨rfl, rfl⟩ := ends_settle.mp done
        refine .inr ⟨member, session, listed, finished, fun launched => ?_⟩
        exact if_pos launched
      · cases (ends_modify.mp apart).1
    · cases (ends_modify.mp dropped).1

namespace Ordered

/-- Without the check that its monitor had scheduled, what is left of the checks goes with what is left
of the table when a member is dropped. -/
theorem watches_dropped (ordered : Ordered w) (listed : w.members.lookup language = some member) :
    w.world.clock.watches.filter (fun watch => watch.2 ≠ member.client.monitor.call) =
      (dropMember w.members language).map watchOf := by
  have there := mem_of_lookup listed
  have alike : ∀ entry ∈ w.members,
      (entry.2.client.monitor.call ≠ member.client.monitor.call ↔ entry.1 ≠ language) := by
    intro entry present
    refine not_congr ⟨fun same => ?_, fun same => ?_⟩
    · rw [List.inj_on_of_nodup_map ordered.calls_distinct present there same]
    · rw [List.inj_on_of_nodup_map ordered.distinct present there same]
  rw [ordered.watched, List.filter_map]
  unfold dropMember
  congr 1
  exact List.filter_congr fun entry present => decide_eq_decide.mpr (alike entry present)

/-- A member that is listed and was finished leaves the table, and its check leaves the clock. -/
theorem departed {outcome : Outcome Unit} {session : Session σ Client} (ordered : Ordered w)
    (listed : w.members.lookup language = some member)
    (finished : Ends Client.finish (w.sessionOf member) outcome session) :
    Ordered (w.departed language session) ∧ Stopped w (w.departed language session) ∧
      0 < session.owner.launches := by
  obtain ⟨_, state, monitor, launches, clock⟩ := Client.ends_finish finished
  obtain ⟨unmixed, numbers, checks⟩ :=
    clock (ordered.unmixed_of_member? (member?_of_listed listed))
  have left {call : ScheduledCall Task} (due : call ∈ session.world.clock.checks) :
      call ∈ w.world.clock.checks := by
    rw [checks] at due
    exact (List.mem_filter.mp due).1
  have others := ordered.others unmixed.tidy numbers fun call due => .inl ⟨call, left due, rfl⟩
  constructor
  · refine ⟨⟨?_, fun other later there => ?_, ?_⟩, unmixed.tidy, fun call due => ?_,
      fun entry there => ?_⟩
    · exact (List.Sublist.map _ List.filter_sublist).nodup ordered.distinct
    · exact ordered.listed other later (List.mem_filter.mp there).1
    · refine Eq.trans ?_ (ordered.watches_dropped listed)
      change session.world.clock.checks.map _ = (w.world.clock.checks.map _).filter _
      rw [checks, List.filter_map]
      rfl
    · exact ordered.periodic call (left due)
    · rcases List.mem_append.mp there with kept | apart
      · exact others entry (List.mem_append_left _ (List.mem_filter.mp kept).1)
      · rcases mem_of_mem_putMember apart with rfl | before
        · exact unmixed
        · exact others entry (List.mem_append_right _ before)
  · refine ⟨⟨fun other => ?_, fun other absent => ?_⟩, ?_⟩
    · change (dropMember w.members language).lookup other = _ ∨
        (dropMember w.members language).lookup other = none ∧ ∃ member removed, _ ∧
          (putMember w.former language (memberOf session)).lookup other = some removed ∧ _
      rw [lookup_dropMember, lookup_putMember]
      by_cases here : other = language
      · rw [if_pos here, if_pos here, here]
        exact .inr ⟨rfl, member, memberOf session, listed, rfl,
          ⟨_, outcome, session, finished, rfl⟩, state, monitor⟩
      · rw [if_neg here]
        exact .inl rfl
    · refine (lookup_putMember w.former language _ other).trans (if_neg ?_)
      rintro rfl
      cases absent.symm.trans listed
    · obtain ⟨_, _, _, _, ⟨_, _, launched, on⟩⟩ := ordered.enlisted listed
      exact Nat.lt_of_lt_of_le launched (Nat.le_trans on.launches launches)

end Ordered

theorem within_stop_stopping (language : String) :
    Within stopping (stop language : Operation σ Unit) := by
  intro w after outcome ended ordered
  rcases ends_stop ended with ⟨_, _, rfl⟩ | ⟨member, session, listed, finished, departed⟩
  · exact ⟨ordered, .refl _⟩
  · obtain ⟨last, stopped, launched⟩ := ordered.departed listed finished
    rw [departed launched]
    exact ⟨last, stopped⟩

theorem Ordered.stopped {outcome : Outcome Unit} (ordered : Ordered w)
    (ended : Ends (stop language) w outcome after) :
    after.members = dropMember w.members language := by
  rcases ends_stop ended with ⟨absent, _, rfl⟩ | ⟨member, session, listed, finished, departed⟩
  · refine (List.filter_eq_self.mpr fun entry there => ?_).symm
    have other := bne_iff_ne.mp (List.lookup_eq_none_iff.mp absent entry there)
    exact decide_eq_true (Ne.symm other)
  · obtain ⟨_, _, launched⟩ := ordered.departed listed finished
    rw [departed launched]
    rfl

theorem ends_stopAll {outcome : Outcome Unit} (ended : Ends stopAll w outcome after) :
    Ends (doEach w.members fun entry => stop entry.1) w outcome after := by
  have looked := ends_get_bind.mp ended
  rcases ends_bind.mp looked with ⟨_, _, looped, done⟩ | ⟨_, rfl, failed⟩
  · obtain ⟨rfl, rfl⟩ := ends_pure.mp done
    exact looped
  · exact failed

theorem within_stopAll_stopping : Within stopping (stopAll : Operation σ Unit) := by
  intro w after outcome ended
  exact within_doEach (fun entry _ => within_stop_stopping entry.1) (ends_stopAll ended)

theorem Ordered.stoppedAll (ordered : Ordered w) (ended : Ends stopAll w (.ok ()) after) :
    after.members = [] := by
  have drops {entry : String × Member} {mid next : Workspace σ} (ordered : Ordered mid)
      (stopped : Ends (stop entry.1) mid (.ok ()) next) :
      ∀ other ∈ next.members, other ∈ mid.members ∧ other.1 ≠ entry.1 := by
    rw [ordered.stopped stopped]
    intro other there
    obtain ⟨before, kept⟩ := List.mem_filter.mp there
    exact ⟨before, of_decide_eq_true kept⟩
  have looped := ends_doEach (fun mid => Ordered mid ∧ ∀ other ∈ mid.members, other ∈ w.members)
    (fun entry mid => ∀ other ∈ mid.members, other.1 ≠ entry.1) ?_ ?_ ?_ ⟨ordered, fun _ => id⟩
    (ends_stopAll ended)
  · obtain ⟨⟨_, before⟩, gone, _⟩ := looped
    apply List.eq_nil_iff_forall_not_mem.mpr
    intro entry there
    exact gone entry (before entry there) entry there rfl
  · intro entry mid next good stopped
    refine ⟨(within_stop_stopping entry.1 stopped good.1).1, fun other there => ?_⟩
    exact good.2 other (drops good.1 stopped other there).1
  · intro entry mid next good stopped other there
    exact (drops good.1 stopped other there).2
  · intro entry earlier mid next good stopped known other there
    exact known other (drops good.1 stopped other there).1

/-! ### Occasions -/

/-- What happens to a workspace: a client is asked for, by its language or for a document, started or
stopped; something is done to a client, but not to its monitor; a server says something or ends; or the
clock moves, and the calls are made that become due. -/
inductive Occasion where
  | getClient (language : String)
  | getClientFor (uri : String)
  | start (language : String)
  | stop (language : String)
  | stopAll
  | client (language : String) (stimulus : Client.Stimulus) (spares : stimulus.SparesMonitor)
  | push (language : String) (message : Json)
  | serverEnds (language : String) (closure : Closure)
  | advance (time : Json)

def doOccasion : Occasion → Operation σ Unit
  | .getClient language => needClient language
  | .getClientFor uri => do
    let _ ← needClientFor uri
  | .start language => do
    let _ ← start language
  | .stop language => stop language
  | .stopAll => stopAll
  | .client language stimulus _ => onClient language (Client.respond stimulus)
  | .push language message => push language message
  | .serverEnds language closure => serverEnds language closure
  | .advance time => advance time

def Occasion.Removes (language : String) : Occasion → Prop
  | .stop other => other = language
  | .stopAll => True
  | _ => False

/-- One occasion follows another, all of a certain kind. -/
inductive Lives (kind : Occasion → Prop) (first : Workspace σ) : Workspace σ → Prop
  | first : Lives kind first first
  | next {mid last : Workspace σ} {occasion : Occasion} {outcome : Outcome Unit} :
    Lives kind first mid → kind occasion → Ends (doOccasion occasion) mid outcome last →
    Lives kind first last

def attend (w : Workspace σ) : List Occasion → Workspace σ
  | [] => w
  | occasion :: rest => attend ((doOccasion occasion).run w).2 rest

/-- No client was started yet, and no health check is scheduled. -/
structure Fresh (w : Workspace σ) : Prop where
  members : w.members = []
  former : w.former = []
  tidy : w.world.clock.Tidy
  checks : w.world.clock.checks = []

theorem Fresh.ordered (fresh : Fresh w) : Ordered w := by
  refine ⟨⟨?_, ?_, ?_⟩, fresh.tidy, ?_, ?_⟩
  · rw [fresh.members]
    exact List.nodup_nil
  · rw [fresh.members]
    exact fun _ _ there => absurd there List.not_mem_nil
  · unfold Clock.watches
    rw [fresh.members, fresh.checks]
    rfl
  · rw [fresh.checks]
    exact fun _ due => absurd due List.not_mem_nil
  · rw [fresh.members, fresh.former]
    exact fun _ there => absurd there List.not_mem_nil

theorem within_deed_carrying (language : String) (deed : Deed) :
    Within carrying (onClient language (carryOut deed) : Operation σ Unit) := by
  intro w after outcome ended ordered
  rcases ends_onClient.mp ended with ⟨_, _, rfl⟩ | ⟨member, session, found, acted, rfl⟩
  · exact ⟨ordered, .of_members rfl⟩
  · exact ordered.acted found acted

theorem within_meet_carrying (language : String) (stimulus : Client.Stimulus)
    (spares : stimulus.SparesMonitor) :
    Within carrying (meet language (Client.respond stimulus) : Operation σ Unit) := by
  refine within_bind within_get fun w => ?_
  split
  · exact within_throw _
  · exact within_ite (within_throw _) (within_deed_carrying language (.stimulus stimulus spares))

theorem within_advanceUpTo_carrying (target : Float) (budget : Nat) :
    Within carrying (advanceUpTo target budget : Operation σ Unit) := by
  induction budget with
  | zero => exact within_pure ()
  | succ budget ih =>
      refine within_get_bind fun {w after outcome} ended ordered => ?_
      split at ended
      · obtain ⟨_, rfl⟩ := ends_modify.mp ended
        refine ⟨⟨⟨ordered.distinct, ordered.listed, ordered.watched⟩, ?_, ordered.periodic, ?_⟩,
          .of_members rfl⟩
        · exact ⟨ordered.tidy.numbered, ordered.tidy.distinct⟩
        · exact ordered.others_of_same ⟨ordered.tidy.numbered, ordered.tidy.distinct⟩
            (Nat.le_refl _) rfl
      · next task clock next =>
        have calling := ends_modifyWorld_bind.mp ended
        have rest : Within carrying (do
            onClient task.language (Client.perform task.job)
            advanceUpTo target budget : Operation σ Unit) :=
          within_bind (within_deed_carrying task.language (.call task.job)) fun _ => ih
        obtain ⟨last, carried⟩ := rest calling (ordered.ticked next)
        exact ⟨last, ⟨carried.listed⟩⟩

theorem within_advance_carrying (time : Json) :
    Within carrying (advance time : Operation σ Unit) := by
  refine within_bind (within_settle _) fun seconds => within_bind within_get fun w => ?_
  exact within_advanceUpTo_carrying _ _

/-- Whatever happens to a workspace keeps up order; and a listed client is still there unless it was to
be removed. -/
theorem Ordered.next {occasion : Occasion} {outcome : Outcome Unit} (ordered : Ordered w)
    (ended : Ends (doOccasion occasion) w outcome after) :
    Ordered after ∧ ∀ language member, ¬occasion.Removes language →
      w.members.lookup language = some member →
      ∃ later, after.members.lookup language = some later ∧ Continues σ member later := by
  have carried (step : carrying.holds w after) :
      Ordered after ∧ ∀ language member, ¬occasion.Removes language →
        w.members.lookup language = some member →
        ∃ later, after.members.lookup language = some later ∧ Continues σ member later :=
    ⟨(step ordered).1, fun language member _ => (step ordered).2.listed language member⟩
  have asked {got : String → Prop} (asked : Asked got w after) : carrying.holds w after :=
    fun _ => ⟨asked.ordered, asked.carried⟩
  cases occasion with
  | getClient language => exact carried (asked (ordered.needed ended))
  | getClientFor uri =>
      obtain ⟨_, needed, _⟩ := ends_ignoring ended
      exact carried (asked (ordered.neededFor needed))
  | start language =>
      obtain ⟨_, started, _⟩ := ends_ignoring ended
      exact carried (asked (ordered.started started))
  | stop language =>
      refine ⟨(within_stop_stopping language ended ordered).1, fun other member kept listed => ?_⟩
      refine ⟨member, ?_, .same⟩
      rw [ordered.stopped ended, lookup_dropMember, if_neg (Ne.symm kept), listed]
  | stopAll =>
      exact ⟨(within_stopAll_stopping ended ordered).1, fun _ _ kept => absurd trivial kept⟩
  | client language stimulus spares =>
      exact carried (within_deed_carrying language (.stimulus stimulus spares) ended)
  | push language message =>
      exact carried (within_meet_carrying language (.arrive [.message message]) trivial ended)
  | serverEnds language closure =>
      exact carried (within_meet_carrying language (.serverEnds closure) trivial ended)
  | advance time => exact carried (within_advance_carrying time ended)

theorem Lives.attend {kind : Occasion → Prop} {first : Workspace σ} (lives : Lives kind first w)
    {occasions : List Occasion} (all : ∀ occasion ∈ occasions, kind occasion) :
    Lives kind first (attend w occasions) := by
  induction occasions generalizing w with
  | nil => exact lives
  | cons occasion rest ih =>
      refine ih (lives.next (all occasion List.mem_cons_self) rfl) fun other member => ?_
      exact all other (List.mem_cons_of_mem occasion member)

theorem Lives.ordered {kind : Occasion → Prop} {first : Workspace σ} (lives : Lives kind first w)
    (ordered : Ordered first) : Ordered w := by
  induction lives with
  | first => exact ordered
  | next _ _ ended ih => exact (ih.next ended).1

theorem Lives.listed {first : Workspace σ}
    (lives : Lives (fun occasion => ¬occasion.Removes language) first w) (ordered : Ordered first)
    (listed : first.members.lookup language = some member) :
    ∃ later, w.members.lookup language = some later ∧ Continues σ member later := by
  induction lives with
  | first => exact ⟨member, listed, .same⟩
  | next lives kept ended ih =>
      obtain ⟨later, found, goes⟩ := ih
      obtain ⟨last, found', on⟩ := ((lives.ordered ordered).next ended).2 language later kept found
      exact ⟨last, found', goes.trans on⟩

/-- In every run of a workspace that begins without clients, the tables are consistent. A client that is
got is listed, is the same client whenever it is asked for again, and stays listed, the same client,
until it is to be removed. A client that is refused leaves the tables as they were, and so does asking
for one that is listed. What is removed is shut down and not watched; stopping a client removes it and
no other, and stopping all, if it is done, leaves none. -/
theorem tables_consistent {first : Workspace σ} (fresh : Fresh first)
    (lives : Lives (fun _ => True) first w) :
    Consistent w ∧
      (∀ language member later, w.members.lookup language = some member →
        Lives (fun occasion => ¬occasion.Removes language) w later →
        ∃ still, later.members.lookup language = some still ∧ Continues σ member still ∧
          still.client.monitor.call = member.client.monitor.call) ∧
      (∀ language outcome after, Ends (needClient language) w outcome after →
        ((w.members.lookup language).isSome = true → outcome = .ok ()) ∧
        (outcome = .ok () → (after.members.lookup language).isSome = true) ∧
        (outcome ≠ .ok () ∨ (w.members.lookup language).isSome = true → SameTables w after)) ∧
      (∀ uri outcome after, Ends (needClientFor uri) w outcome after →
        (∀ language, outcome = .ok language → (after.members.lookup language).isSome = true) ∧
        ((∀ language, outcome = .ok language → (w.members.lookup language).isSome = true) →
          SameTables w after)) ∧
      (∀ language outcome after, Ends (start language) w outcome after →
        (outcome = .ok true → (after.members.lookup language).isSome = true) ∧
        (outcome ≠ .ok true ∨ (w.members.lookup language).isSome = true → SameTables w after)) ∧
      (∀ language outcome after, Ends (stop language) w outcome after →
        Stopped w after ∧ after.members = dropMember w.members language) ∧
      ∀ outcome after, Ends stopAll w outcome after →
        Stopped w after ∧ (outcome = .ok () → after.members = []) := by
  have ordered := lives.ordered fresh.ordered
  refine ⟨ordered.toConsistent, ?_, ?_, ?_, ?_, ?_, ?_⟩
  · intro language member later listed lives
    obtain ⟨still, found, goes⟩ := lives.listed ordered listed
    exact ⟨still, found, goes, goes.monitor⟩
  · intro language outcome after ended
    have asked := ordered.needed ended
    refine ⟨fun running => ordered.got running ended, fun ok => asked.listed language ⟨rfl, ok⟩,
      fun either => asked.same ?_⟩
    rintro other ⟨rfl, ok⟩
    exact either.resolve_left fun failed => failed ok
  · intro uri outcome after ended
    have asked := ordered.neededFor ended
    exact ⟨asked.listed, asked.same⟩
  · intro language outcome after ended
    have asked := ordered.started ended
    refine ⟨fun ok => asked.listed language ⟨rfl, ok⟩, fun either => asked.same ?_⟩
    rintro other ⟨rfl, ok⟩
    exact either.resolve_left fun failed => failed ok
  · intro language outcome after ended
    exact ⟨(within_stop_stopping language ended ordered).2, ordered.stopped ended⟩
  · intro outcome after ended
    refine ⟨(within_stopAll_stopping ended ordered).2, ?_⟩
    rintro rfl
    exact ordered.stoppedAll ended

end Scalpel.Workspace

/-! ### Two servers, one of which ends -/

namespace Scalpel.Workspace

local instance tablesHalves : Halves :=
  Halves.trial

def twofold : Workspace Clerk :=
  { Clerk.workspace .null with
    settings := some { Clerk.settings .null with
      servers := [
        ("py", { language := "py", command := .str "py-server", extensions := [".py"] }),
        ("js", { language := "js", command := .str "js-server", extensions := [".js"] })] } }

/-- Both clients are started and one that is not configured is asked for; the server of the first one
ends and is restarted. -/
def twofoldRun : List Occasion :=
  [.getClient "py", .start "js", .getClient "c", .serverEnds "py" (.exited (some 1) none),
    .advance (.int 10)]

private theorem fresh_twofold : Fresh twofold :=
  ⟨rfl, rfl, ⟨nofun, List.nodup_nil⟩, rfl⟩

theorem tables_consistent_of_twofold :
    Fresh twofold ∧ Lives (fun _ => True) twofold (attend twofold twofoldRun) ∧
      ((attend twofold twofoldRun).members.map fun entry =>
        (entry.1, entry.2.client.restartCount)) = [("py", 1), ("js", 0)] ∧
      (attend twofold twofoldRun).world.clock.watches = [("py", some 0), ("js", some 1)] ∧
      Consistent (attend twofold twofoldRun) := by
  have lives : Lives (fun _ => True) twofold (attend twofold twofoldRun) :=
    Lives.first.attend fun _ _ => trivial
  exact ⟨fresh_twofold, lives, by decide +kernel, by decide +kernel,
    (tables_consistent fresh_twofold lives).1⟩

end Scalpel.Workspace
