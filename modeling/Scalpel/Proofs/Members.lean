import Scalpel.Proofs.Recording

/-!
The operations of a workspace, taken apart. What a client does is done in a session that the workspace
lends it; when it is over, the client stands where it stood before. So what holds across everything
that clients do carries over to the workspace.
-/

set_option autoImplicit false

namespace Scalpel

theorem ends_bind_of_result {S α β : Type} {op : Effect S α} {result : Outcome α} {s : S}
    (given : ∀ {outcome after}, Ends op s outcome after ↔ outcome = result ∧ after = s)
    {next : α → Effect S β} {outcome : Outcome β} {after : S} :
    Ends (op >>= next) s outcome after ↔
      (∃ failure, result = .error failure ∧ outcome = .error failure ∧ after = s) ∨
        ∃ value, result = .ok value ∧ Ends (next value) s outcome after := by
  rw [ends_bind]
  simp only [given]
  constructor
  · rintro (⟨value, _, ⟨same, rfl⟩, rest⟩ | ⟨failure, rfl, same, rfl⟩)
    · exact .inr ⟨value, same.symm, rest⟩
    · exact .inl ⟨failure, same.symm, rfl, rfl⟩
  · rintro (⟨failure, same, rfl, rfl⟩ | ⟨value, same, rest⟩)
    · exact .inr ⟨failure, rfl, same.symm, rfl⟩
    · exact .inl ⟨value, s, ⟨same.symm, rfl⟩, rest⟩

namespace Workspace

variable {σ α β : Type} {w after : Workspace σ} {F : Frame (Workspace σ)}

/-! ### Small operations -/

theorem ends_raise {p : Problem} {outcome : Outcome α} :
    Ends (raise p : Operation σ α) w outcome after ↔ outcome = .error (.problem p) ∧ after = w :=
  ends_throw

theorem ends_settle {result outcome : Outcome α} :
    Ends (settle result : Operation σ α) w outcome after ↔ outcome = result ∧ after = w := by
  cases result with
  | ok value => exact ends_pure
  | error failure => exact ends_throw

theorem ends_settle_bind {result : Outcome α} {next : α → Operation σ β} {outcome : Outcome β} :
    Ends (settle result >>= next) w outcome after ↔
      (∃ failure, result = .error failure ∧ outcome = .error failure ∧ after = w) ∨
        ∃ value, result = .ok value ∧ Ends (next value) w outcome after :=
  ends_bind_of_result ends_settle

theorem ends_attempt {operation : Operation σ α} {outcome : Outcome (Outcome α)} :
    Ends (attempt operation) w outcome after ↔
      ∃ reached, outcome = .ok reached ∧ Ends operation w reached after := by
  change (Except.ok (operation.run w).1, (operation.run w).2) = (outcome, after) ↔ _
  unfold Ends
  rcases operation.run w with ⟨reached, mid⟩
  constructor
  · intro same
    cases same
    exact ⟨reached, rfl, rfl⟩
  · rintro ⟨_, rfl, same⟩
    cases same
    rfl

theorem ends_attempt_bind {operation : Operation σ α} {next : Outcome α → Operation σ β}
    {outcome : Outcome β} :
    Ends (attempt operation >>= next) w outcome after ↔
      ∃ reached mid, Ends operation w reached mid ∧ Ends (next reached) mid outcome after := by
  rw [ends_bind]
  constructor
  · rintro (⟨_, mid, tried, rest⟩ | ⟨_, _, failed⟩)
    · obtain ⟨_, same, ended⟩ := ends_attempt.mp tried
      cases same
      exact ⟨_, mid, ended, rest⟩
    · obtain ⟨_, impossible, _⟩ := ends_attempt.mp failed
      cases impossible
  · rintro ⟨reached, mid, ended, rest⟩
    exact .inl ⟨reached, mid, ends_attempt.mpr ⟨reached, rfl, ended⟩, rest⟩

theorem ends_modifyWorld_bind {f : World σ → World σ} {next : PUnit → Operation σ β}
    {outcome : Outcome β} :
    Ends (modifyWorld f >>= next) w outcome after ↔
      Ends (next ⟨⟩) { w with world := f w.world } outcome after := by
  rw [ends_bind]
  constructor
  · rintro (⟨_, _, first, rest⟩ | ⟨_, _, first⟩)
    · obtain ⟨_, rfl⟩ := ends_modify.mp first
      exact rest
    · cases (ends_modify.mp first).1
  · intro rest
    exact .inl ⟨⟨⟩, _, ends_modify.mpr ⟨rfl, rfl⟩, rest⟩

theorem within_settle (result : Outcome α) : Within F (settle result : Operation σ α) := by
  intro w after outcome ended
  obtain ⟨_, rfl⟩ := ends_settle.mp ended
  exact F.refl _

theorem within_raise (p : Problem) : Within F (raise p : Operation σ α) :=
  within_throw _

theorem within_attempt {operation : Operation σ α} (inside : Within F operation) :
    Within F (attempt operation) := by
  intro w after outcome ended
  obtain ⟨_, _, tried⟩ := ends_attempt.mp ended
  exact inside tried

/-! ### Entries -/

theorem lookup_putMember (members : List (String × Member)) (language : String) (member : Member)
    (other : String) :
    (putMember members language member).lookup other =
      if other = language then some member else members.lookup other := by
  induction members with
  | nil =>
      unfold putMember
      rw [List.lookup_cons]
      by_cases same : other = language
      · rw [if_pos same, beq_iff_eq.mpr same]
      · rw [if_neg same, beq_eq_false_iff_ne.mpr same]
  | cons first rest ih =>
      obtain ⟨key, old⟩ := first
      unfold putMember
      by_cases here : key = language
      · rw [if_pos here, List.lookup_cons, List.lookup_cons, here]
        by_cases same : other = language
        · rw [if_pos same, beq_iff_eq.mpr same]
        · rw [if_neg same, beq_eq_false_iff_ne.mpr same]
      · rw [if_neg here, List.lookup_cons, List.lookup_cons, ih]
        by_cases same : other = key
        · have elsewhere : other ≠ language := fun equal => here (same.symm.trans equal)
          rw [beq_iff_eq.mpr same, if_neg elsewhere, if_neg elsewhere]
        · rw [beq_eq_false_iff_ne.mpr same]

section

variable {members : List (String × Member)} {language : String} {member : Member}

theorem mem_of_lookup (found : members.lookup language = some member) :
    (language, member) ∈ members := by
  obtain ⟨before, rest, parted, _⟩ := List.lookup_eq_some_iff.mp found
  rw [parted]
  exact List.mem_append_right before List.mem_cons_self

theorem lookup_dropMember (members : List (String × Member)) (language other : String) :
    (dropMember members language).lookup other =
      if other = language then none else members.lookup other := by
  unfold dropMember
  induction members with
  | nil => exact (ite_self none).symm
  | cons first rest ih =>
      obtain ⟨key, old⟩ := first
      by_cases here : key = language
      · rw [List.filter_cons_of_neg (by simpa using here), ih, List.lookup_cons, here]
        by_cases same : other = language
        · rw [if_pos same, if_pos same]
        · rw [if_neg same, if_neg same, beq_eq_false_iff_ne.mpr same]
      · rw [List.filter_cons_of_pos (by simpa using here), List.lookup_cons, List.lookup_cons, ih]
        by_cases same : other = key
        · have elsewhere : other ≠ language := fun equal => here (same.symm.trans equal)
          rw [beq_iff_eq.mpr same, if_neg elsewhere, if_neg elsewhere]
        · rw [beq_eq_false_iff_ne.mpr same]

theorem putMember_absent (absent : members.lookup language = none) :
    putMember members language member = members ++ [(language, member)] := by
  induction members with
  | nil => rfl
  | cons first rest ih =>
      obtain ⟨key, old⟩ := first
      rw [List.lookup_cons] at absent
      by_cases here : language = key
      · rw [beq_iff_eq.mpr here] at absent
        cases absent
      · rw [beq_eq_false_iff_ne.mpr here] at absent
        unfold putMember
        rw [if_neg (Ne.symm here), ih absent, List.cons_append]

theorem mem_of_mem_putMember {entry : String × Member}
    (there : entry ∈ putMember members language member) :
    entry = (language, member) ∨ entry ∈ members := by
  induction members with
  | nil => exact .inl (List.mem_singleton.mp there)
  | cons first rest ih =>
      obtain ⟨key, old⟩ := first
      unfold putMember at there
      by_cases here : key = language
      · rw [if_pos here, here] at there
        rcases List.mem_cons.mp there with same | later
        · exact .inl same
        · exact .inr (List.mem_cons_of_mem _ later)
      · rw [if_neg here] at there
        rcases List.mem_cons.mp there with same | later
        · exact .inr (List.mem_cons.mpr (.inl same))
        · exact (ih later).imp_right (List.mem_cons_of_mem _)

theorem map_putMember {f : String × Member → β} {old : Member}
    (found : members.lookup language = some old)
    (same : f (language, member) = f (language, old)) :
    (putMember members language member).map f = members.map f := by
  induction members with
  | nil => cases found
  | cons first rest ih =>
      obtain ⟨key, other⟩ := first
      unfold putMember
      rw [List.lookup_cons] at found
      by_cases here : language = key
      · rw [beq_iff_eq.mpr here] at found
        cases found
        subst here
        rw [if_pos rfl, List.map_cons, List.map_cons, same]
      · rw [beq_eq_false_iff_ne.mpr here] at found
        rw [if_neg (Ne.symm here), List.map_cons, List.map_cons, ih found]

theorem putMember_same (found : members.lookup language = some member) :
    putMember members language member = members := by
  have same := map_putMember (f := id) found rfl
  rwa [List.map_id, List.map_id] at same

end

/-! ### Sessions of members -/

def sessionOf (w : Workspace σ) (member : Member) : Session σ Client :=
  { world := w.world, connection := member.connection, owner := member.client }

def memberOf (s : Session σ Client) : Member :=
  { client := s.owner, connection := s.connection }

def withSession (w : Workspace σ) (language : String) (s : Session σ Client) : Workspace σ :=
  ({ w with world := s.world } : Workspace σ).keep language (memberOf s)

theorem member?_of_listed {language : String} {member : Member}
    (listed : w.members.lookup language = some member) : w.member? language = some member := by
  unfold member?
  rw [listed]
  rfl

theorem member?_joined (w : Workspace σ) (language : String) (member : Member) (other : String) :
    ({ w with members := putMember w.members language member } : Workspace σ).member? other =
      if other = language then some member else w.member? other := by
  change ((putMember _ _ _).lookup other).orElse _ = _
  rw [lookup_putMember]
  by_cases same : other = language
  · rw [if_pos same, if_pos same]
    rfl
  · rw [if_neg same, if_neg same]
    rfl

theorem member?_former (w : Workspace σ) (language : String) (member : Member) (other : String) :
    ({ w with former := putMember w.former language member } : Workspace σ).member? other =
      if other = language ∧ w.members.lookup language = none then some member
      else w.member? other := by
  change (w.members.lookup other).orElse (fun _ => (putMember _ _ _).lookup other) = _
  rw [lookup_putMember]
  unfold member?
  by_cases same : other = language
  · cases running : w.members.lookup language <;> simp [same, running]
  · rw [if_neg same, if_neg fun both => same both.1]

theorem member?_withSession (w : Workspace σ) (language : String) (s : Session σ Client)
    (other : String) :
    (w.withSession language s).member? other =
      if other = language then some (memberOf s) else w.member? other := by
  unfold withSession keep
  dsimp only
  cases running : w.members.lookup language with
  | some old =>
      rw [Option.isSome_some, if_pos rfl]
      exact member?_joined _ language (memberOf s) other
  | none =>
      rw [Option.isSome_none, if_neg Bool.false_ne_true]
      refine (member?_former _ language (memberOf s) other).trans ?_
      simp only [running, and_true]

theorem world_withSession (w : Workspace σ) (language : String) (s : Session σ Client) :
    (w.withSession language s).world = s.world := by
  unfold withSession keep
  split <;> rfl

theorem settings_withSession (w : Workspace σ) (language : String) (s : Session σ Client) :
    (w.withSession language s).settings = w.settings := by
  unfold withSession keep
  split <;> rfl

theorem root_withSession (w : Workspace σ) (language : String) (s : Session σ Client) :
    (w.withSession language s).root = w.root := by
  unfold withSession keep
  split <;> rfl

theorem opened_withSession (w : Workspace σ) (language : String) (s : Session σ Client) :
    (w.withSession language s).opened = w.opened := by
  unfold withSession keep
  split <;> rfl

theorem withSession_sessionOf {language : String} {member : Member}
    (found : w.member? language = some member) :
    w.withSession language (w.sessionOf member) = w := by
  unfold member? at found
  unfold withSession keep
  change (if (w.members.lookup language).isSome then
    { w with members := putMember w.members language member }
    else { w with former := putMember w.former language member } : Workspace σ) = w
  cases running : w.members.lookup language with
  | some other =>
      cases (member?_of_listed running).symm.trans found
      rw [Option.isSome_some, if_pos rfl, putMember_same running]
  | none =>
      rw [running] at found
      rw [Option.isSome_none, if_neg Bool.false_ne_true, putMember_same found]

theorem lookup_withSession (w : Workspace σ) (language : String) (s : Session σ Client)
    (other : String) :
    (w.withSession language s).members.lookup other =
      if other = language ∧ (w.members.lookup language).isSome = true then some (memberOf s)
      else w.members.lookup other := by
  unfold withSession keep
  dsimp only
  by_cases running : (w.members.lookup language).isSome = true
  · rw [if_pos running, lookup_putMember]
    by_cases same : other = language
    · rw [if_pos same, if_pos ⟨same, running⟩]
    · rw [if_neg same, if_neg fun both => same both.1]
  · rw [if_neg running, if_neg fun both => running both.2]

theorem map_withSession {language : String} {member : Member} {session : Session σ Client}
    {f : String × Member → β}
    (found : w.member? language = some member)
    (same : f (language, memberOf session) = f (language, member)) :
    (w.withSession language session).members.map f = w.members.map f := by
  unfold withSession keep
  dsimp only
  cases listed : w.members.lookup language with
  | some old =>
      cases (member?_of_listed listed).symm.trans found
      rw [Option.isSome_some, if_pos rfl, map_putMember listed same]
  | none => rw [Option.isSome_none, if_neg Bool.false_ne_true]

/-- Who is listed after a member has acted was listed before, the member perhaps as it was. -/
theorem listed_of_withSession {language : String} {member : Member} {session : Session σ Client}
    {entry : String × Member} (found : w.member? language = some member)
    (there : entry ∈ (w.withSession language session).members) :
    entry = (language, memberOf session) ∧ (language, member) ∈ w.members ∨ entry ∈ w.members := by
  unfold withSession keep at there
  dsimp only at there
  split at there
  · next running =>
    obtain ⟨old, listed⟩ := Option.isSome_iff_exists.mp running
    cases (member?_of_listed listed).symm.trans found
    exact (mem_of_mem_putMember there).imp_left fun same => ⟨same, mem_of_lookup listed⟩
  · exact .inr there

theorem former_of_withSession {language : String} {session : Session σ Client}
    {entry : String × Member} (there : entry ∈ (w.withSession language session).former) :
    entry = (language, memberOf session) ∨ entry ∈ w.former := by
  unfold withSession keep at there
  dsimp only at there
  split at there
  · exact .inr there
  · exact mem_of_mem_putMember there

theorem ends_act_bind {member : Member} {action : Action σ Client α}
    {next : Outcome α × Member → Operation σ β} {outcome : Outcome β} :
    Ends (act member action >>= next) w outcome after ↔
      ∃ result session, Ends action (w.sessionOf member) result session ∧
        Ends (next (result, memberOf session)) { w with world := session.world } outcome after := by
  rcases ran : action.run (w.sessionOf member) with ⟨result, session⟩
  have acted : Ends (act member action) w (.ok (result, memberOf session))
      { w with world := session.world } := by
    change (Except.ok ((action.run (w.sessionOf member)).1,
        memberOf (action.run (w.sessionOf member)).2),
      { w with world := (action.run (w.sessionOf member)).2.world }) = _
    rw [ran]
  rw [ends_bind]
  constructor
  · rintro (⟨_, _, begun, rest⟩ | ⟨_, _, failed⟩)
    · obtain ⟨same, rfl⟩ := acted.unique begun
      cases same
      exact ⟨result, session, ran, rest⟩
    · cases (acted.unique failed).1
  · rintro ⟨_, _, ended, rest⟩
    cases ran.symm.trans ended
    exact .inl ⟨_, _, acted, rest⟩

theorem ends_onClient {language : String} {action : Action σ Client α} {outcome : Outcome α} :
    Ends (onClient language action) w outcome after ↔
      (w.member? language = none ∧ outcome = .error (.missing language) ∧ after = w) ∨
        ∃ member session, w.member? language = some member ∧
          Ends action (w.sessionOf member) outcome session ∧
          after = w.withSession language session := by
  unfold onClient
  rw [ends_get_bind]
  cases w.member? language with
  | none => simp [ends_throw]
  | some member =>
      simp only [reduceCtorEq, false_and, Option.some.injEq, false_or]
      constructor
      · intro ended
        obtain ⟨_, session, acted, rest⟩ := ends_act_bind.mp ended
        rcases ends_bind.mp rest with ⟨_, _, kept, done⟩ | ⟨_, _, kept⟩
        · obtain ⟨_, rfl⟩ := ends_modify.mp kept
          obtain ⟨rfl, rfl⟩ := ends_settle.mp done
          exact ⟨member, session, rfl, acted, rfl⟩
        · cases (ends_modify.mp kept).1
      · rintro ⟨_, session, rfl, acted, rfl⟩
        refine ends_act_bind.mpr ⟨outcome, session, acted, ?_⟩
        refine ends_bind.mpr (.inl ⟨⟨⟩, _, ends_modify.mpr ⟨rfl, rfl⟩, ?_⟩)
        exact ends_settle.mpr ⟨rfl, rfl⟩

/-! ### Documents and their files -/

theorem ends_note_bind {path : String} {next : PUnit → Operation σ β} {outcome : Outcome β} :
    Ends (note path >>= next) w outcome after ↔ Ends (next ⟨⟩) (w.noted path) outcome after := by
  rw [ends_bind]
  constructor
  · rintro (⟨_, _, first, rest⟩ | ⟨_, _, first⟩)
    · obtain ⟨_, rfl⟩ := ends_modify.mp first
      exact rest
    · cases (ends_modify.mp first).1
  · intro rest
    exact .inl ⟨⟨⟩, _, ends_modify.mpr ⟨rfl, rfl⟩, rest⟩

variable [Halves]

def whereabouts (w : Workspace σ) (uri : String) : Outcome (String × String) := do
  let uri ← Uri.normalize w.world.files.workingDirectory uri w.root
  return (uri, ← w.world.files.resolveDocument uri w.root)

theorem ends_locate {uri : String} {outcome : Outcome (String × String)}
    (ended : Ends (locate uri : Operation σ (String × String)) w outcome after) :
    outcome = w.whereabouts uri ∧ after = w := by
  unfold whereabouts
  rcases ends_settle_bind.mp (ends_get_bind.mp ended) with
    ⟨failure, unnamed, rfl, rfl⟩ | ⟨named, given, resolving⟩
  · rw [unnamed]
    exact ⟨rfl, rfl⟩
  · rw [given]
    change outcome = (do return (named, ← w.world.files.resolveDocument named w.root)) ∧ after = w
    rcases ends_settle_bind.mp resolving with ⟨failure, lost, rfl, rfl⟩ | ⟨path, found, done⟩
    · rw [lost]
      exact ⟨rfl, rfl⟩
    · obtain ⟨rfl, rfl⟩ := ends_pure.mp done
      rw [found]
      exact ⟨rfl, rfl⟩

end Workspace

end Scalpel
