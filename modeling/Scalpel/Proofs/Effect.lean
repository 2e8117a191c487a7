import Scalpel.Workspace.Editing

/-!
Operations on a state, and what holds across them. Sessions and workspaces share the form of their
operations: an outcome and a state, where the state remains when the outcome is a failure. The first
half takes a finished operation apart into the steps that it took. The second half is about frames: a
frame relates a state to later ones, and an operation is within a frame if it never leaves it, however
it ends.
-/

set_option autoImplicit false

namespace Scalpel

section Effects

variable {S α β : Type}

abbrev Effect (S α : Type) := ExceptT Failure (StateM S) α

def Ends (op : Effect S α) (s : S) (outcome : Outcome α) (after : S) : Prop :=
  op.run s = (outcome, after)

theorem Ends.unique {op : Effect S α} {s left right : S} {first second : Outcome α}
    (one : Ends op s first left) (two : Ends op s second right) :
    first = second ∧ left = right := by
  unfold Ends at one two
  rw [one] at two
  exact Prod.mk.inj two

theorem ends_of_isOk {op : Effect S α} {s : S} (ok : (op.run s).1.isOk = true) :
    ∃ value, Ends op s (.ok value) (op.run s).2 := by
  rcases found : op.run s with ⟨reached, after⟩
  rw [found] at ok
  cases reached with
  | ok value => exact ⟨value, found⟩
  | error failure => cases ok

theorem ok_of_toOption {ε : Type} {outcome : Except ε α} {value : α}
    (known : outcome.toOption = some value) : outcome = .ok value := by
  cases outcome with
  | ok other => exact congrArg Except.ok (Option.some.inj known)
  | error failure => cases known

theorem ends_of_toOption {op : Effect S α} {s : S} {value : α}
    (known : (op.run s).1.toOption = some value) : Ends op s (.ok value) (op.run s).2 :=
  Prod.ext (ok_of_toOption known) rfl

def Outcome.kind? : Outcome α → Option Problem.Kind
  | .error (.problem problem) => some problem.kind
  | _ => none

theorem ends_of_kind? {op : Effect S α} {s : S} {kind : Problem.Kind}
    (failed : Outcome.kind? (op.run s).1 = some kind) :
    ∃ problem : Problem, problem.kind = kind ∧
      Ends op s (.error (.problem problem)) (op.run s).2 := by
  rcases found : op.run s with ⟨reached, after⟩
  rw [found] at failed
  cases reached with
  | ok value => cases failed
  | error failure =>
      cases failure with
      | problem problem => exact ⟨problem, Option.some.inj failed, found⟩
      | _ => cases failed

/-! ### Steps of a finished operation -/

theorem ends_pure {value : α} {s after : S} {outcome : Outcome α} :
    Ends (pure value : Effect S α) s outcome after ↔ outcome = .ok value ∧ after = s := by
  constructor
  · intro ended
    cases ended
    exact ⟨rfl, rfl⟩
  · rintro ⟨rfl, rfl⟩
    rfl

theorem ends_throw {failure : Failure} {s after : S} {outcome : Outcome α} :
    Ends (throw failure : Effect S α) s outcome after ↔
      outcome = .error failure ∧ after = s := by
  constructor
  · intro ended
    cases ended
    exact ⟨rfl, rfl⟩
  · rintro ⟨rfl, rfl⟩
    rfl

theorem ends_get {s after : S} {outcome : Outcome S} :
    Ends (get : Effect S S) s outcome after ↔ outcome = .ok s ∧ after = s := by
  constructor
  · intro ended
    cases ended
    exact ⟨rfl, rfl⟩
  · rintro ⟨rfl, rfl⟩
    rfl

theorem ends_set {new s after : S} {outcome : Outcome PUnit} :
    Ends (set new : Effect S PUnit) s outcome after ↔ outcome = .ok ⟨⟩ ∧ after = new := by
  constructor
  · intro ended
    cases ended
    exact ⟨rfl, rfl⟩
  · rintro ⟨rfl, rfl⟩
    rfl

theorem ends_modify {f : S → S} {s after : S} {outcome : Outcome PUnit} :
    Ends (modify f : Effect S PUnit) s outcome after ↔ outcome = .ok ⟨⟩ ∧ after = f s := by
  constructor
  · intro ended
    cases ended
    exact ⟨rfl, rfl⟩
  · rintro ⟨rfl, rfl⟩
    rfl

private theorem run_bind (op : Effect S α) (next : α → Effect S β) (s : S) :
    (op >>= next).run s = match op.run s with
      | (.ok value, mid) => (next value).run mid
      | (.error failure, mid) => (.error failure, mid) := by
  change (StateT.bind op (ExceptT.bindCont next)) s = _
  unfold StateT.bind
  rcases found : op.run s with ⟨outcome, mid⟩
  have same : op s = (outcome, mid) := found
  rw [same]
  cases outcome <;> rfl

/-- A sequence has ended if its first part has ended well and then its second part, or if its first
part has failed. -/
theorem ends_bind {op : Effect S α} {next : α → Effect S β} {s after : S} {outcome : Outcome β} :
    Ends (op >>= next) s outcome after ↔
      (∃ value mid, Ends op s (.ok value) mid ∧ Ends (next value) mid outcome after) ∨
        ∃ failure, outcome = .error failure ∧ Ends op s (.error failure) after := by
  unfold Ends
  rw [run_bind]
  rcases op.run s with ⟨reached, mid⟩
  cases reached with
  | ok value =>
      constructor
      · intro rest
        exact .inl ⟨value, mid, rfl, rest⟩
      · rintro (⟨_, _, reached, rest⟩ | ⟨_, _, reached⟩)
        · cases reached
          exact rest
        · cases reached
  | error failure =>
      constructor
      · intro rest
        cases rest
        exact .inr ⟨failure, rfl, rfl⟩
      · rintro (⟨_, _, reached, _⟩ | ⟨_, rfl, reached⟩)
        · cases reached
        · cases reached
          rfl

theorem ends_bind_ok {op : Effect S α} {next : α → Effect S β} {s after : S} {value : β} :
    Ends (op >>= next) s (.ok value) after ↔
      ∃ first mid, Ends op s (.ok first) mid ∧ Ends (next first) mid (.ok value) after := by
  rw [ends_bind]
  constructor
  · rintro (found | ⟨_, impossible, _⟩)
    · exact found
    · cases impossible
  · exact .inl

theorem Ends.bind {op : Effect S α} {next : α → Effect S β} {s mid after : S} {value : α}
    {outcome : Outcome β} (first : Ends op s (.ok value) mid) :
    Ends (op >>= next) s outcome after ↔ Ends (next value) mid outcome after := by
  rw [ends_bind]
  constructor
  · rintro (⟨_, _, again, rest⟩ | ⟨_, _, failed⟩)
    · obtain ⟨same, rfl⟩ := first.unique again
      cases same
      exact rest
    · cases (first.unique failed).1
  · exact fun rest => .inl ⟨value, mid, first, rest⟩

theorem ends_get_bind {next : S → Effect S β} {s after : S} {outcome : Outcome β} :
    Ends (get >>= next) s outcome after ↔ Ends (next s) s outcome after := by
  rw [ends_bind]
  constructor
  · rintro (⟨_, _, first, rest⟩ | ⟨_, _, first⟩)
    · obtain ⟨same, rfl⟩ := ends_get.mp first
      cases same
      exact rest
    · cases (ends_get.mp first).1
  · intro rest
    exact .inl ⟨s, s, ends_get.mpr ⟨rfl, rfl⟩, rest⟩

theorem ends_ignoring {op : Effect S α} {s after : S} {outcome : Outcome Unit}
    (ended : Ends (do let _ ← op) s outcome after) :
    ∃ result, Ends op s result after ∧
      ∀ failure, result = .error failure ↔ outcome = .error failure := by
  rcases ends_bind.mp ended with ⟨value, mid, ran, done⟩ | ⟨failure, rfl, failed⟩
  · obtain ⟨rfl, rfl⟩ := ends_pure.mp done
    exact ⟨.ok value, ran, fun _ => ⟨nofun, nofun⟩⟩
  · exact ⟨.error failure, failed, fun _ => by rw [Except.error.injEq, Except.error.injEq]⟩

theorem ends_ite {condition : Prop} [Decidable condition] {left right : Effect S α} {s after : S}
    {outcome : Outcome α} :
    Ends (if condition then left else right) s outcome after ↔
      (condition ∧ Ends left s outcome after) ∨ (¬condition ∧ Ends right s outcome after) := by
  by_cases chosen : condition <;> simp [chosen]

/-! ### Loops -/

def doEach (items : List β) (body : β → Effect S Unit) : Effect S PUnit :=
  forIn items PUnit.unit fun item _ => do
    body item
    pure (ForInStep.yield PUnit.unit)

theorem ends_doEach_nil {body : β → Effect S Unit} {s after : S} {outcome : Outcome PUnit} :
    Ends (doEach [] body) s outcome after ↔ outcome = .ok PUnit.unit ∧ after = s :=
  ends_pure

theorem ends_doEach_cons {item : β} {rest : List β} {body : β → Effect S Unit} {s after : S}
    {outcome : Outcome PUnit} :
    Ends (doEach (item :: rest) body) s outcome after ↔
      (∃ mid, Ends (body item) s (.ok ()) mid ∧ Ends (doEach rest body) mid outcome after) ∨
        ∃ failure, outcome = .error failure ∧ Ends (body item) s (.error failure) after := by
  unfold doEach
  rw [List.forIn_cons, ends_bind]
  constructor
  · rintro (⟨_, mid, stepped, remaining⟩ | ⟨failure, rfl, stepped⟩)
    · obtain ⟨_, _, ran, yielded⟩ := ends_bind_ok.mp stepped
      obtain ⟨same, rfl⟩ := ends_pure.mp yielded
      cases same
      exact .inl ⟨mid, ran, remaining⟩
    · rcases ends_bind.mp stepped with ⟨_, _, _, yielded⟩ | ⟨_, same, failed⟩
      · cases (ends_pure.mp yielded).1
      · cases same
        exact .inr ⟨failure, rfl, failed⟩
  · rintro (⟨mid, ran, remaining⟩ | ⟨failure, rfl, failed⟩)
    · refine .inl ⟨.yield PUnit.unit, mid, ?_, remaining⟩
      exact ends_bind_ok.mpr ⟨(), mid, ran, ends_pure.mpr ⟨rfl, rfl⟩⟩
    · exact .inr ⟨failure, rfl, ends_bind.mpr (.inr ⟨failure, rfl, failed⟩)⟩

/-- A loop over two lists is a loop over the first and then, if that has ended well, over the
second. -/
theorem ends_doEach_append {first second : List β} {body : β → Effect S Unit} {s after : S}
    {outcome : Outcome PUnit} :
    Ends (doEach (first ++ second) body) s outcome after ↔
      (∃ mid, Ends (doEach first body) s (.ok PUnit.unit) mid ∧
          Ends (doEach second body) mid outcome after) ∨
        ∃ failure, outcome = .error failure ∧ Ends (doEach first body) s (.error failure) after := by
  induction first generalizing s with
  | nil => simp [ends_doEach_nil]
  | cons item rest ih =>
      simp only [List.cons_append, ends_doEach_cons, ih]
      constructor
      · rintro (⟨mid, ran, ⟨last, looped, others⟩ | ⟨failure, failed, looped⟩⟩ |
          ⟨failure, failed, ran⟩)
        · exact .inl ⟨last, .inl ⟨mid, ran, looped⟩, others⟩
        · exact .inr ⟨failure, failed, .inl ⟨mid, ran, looped⟩⟩
        · exact .inr ⟨failure, failed, .inr ⟨failure, rfl, ran⟩⟩
      · rintro (⟨last, ⟨mid, ran, looped⟩ | ⟨_, impossible, _⟩, others⟩ |
          ⟨failure, failed, ⟨mid, ran, looped⟩ | ⟨_, same, ran⟩⟩)
        · exact .inl ⟨mid, ran, .inl ⟨last, looped, others⟩⟩
        · cases impossible
        · exact .inl ⟨mid, ran, .inr ⟨failure, failed, looped⟩⟩
        · cases same
          exact .inr ⟨failure, failed, ran⟩

/-- Steps of a loop, each of which does something that later steps do not undo, have done it for every
item in the end. -/
theorem ends_doEach {items : List β} {body : β → Effect S Unit} (good : S → Prop)
    (done : β → S → Prop)
    (stays : ∀ {item s after}, good s → Ends (body item) s (.ok ()) after → good after)
    (does : ∀ {item s after}, good s → Ends (body item) s (.ok ()) after → done item after)
    (keeps : ∀ {item other s after}, good s → Ends (body item) s (.ok ()) after → done other s →
      done other after) {s after : S} (held : good s)
    (ended : Ends (doEach items body) s (.ok PUnit.unit) after) :
    good after ∧ (∀ item ∈ items, done item after) ∧ ∀ {other}, done other s → done other after := by
  induction items generalizing s with
  | nil =>
      obtain ⟨_, rfl⟩ := ends_doEach_nil.mp ended
      exact ⟨held, fun _ member => absurd member List.not_mem_nil, id⟩
  | cons first rest ih =>
      rcases ends_doEach_cons.mp ended with ⟨mid, ran, remaining⟩ | ⟨_, impossible, _⟩
      · obtain ⟨last, each, kept⟩ := ih (stays held ran) remaining
        refine ⟨last, fun item member => ?_, fun before => kept (keeps held ran before)⟩
        rcases List.mem_cons.mp member with rfl | later
        · exact kept (does held ran)
        · exact each item later
      · cases impossible

end Effects

/-! ### Frames -/

/-- What may happen to a state: nothing may happen, and one thing after the other. -/
structure Frame (S : Type) where
  holds : S → S → Prop
  refl : ∀ s, holds s s
  trans : ∀ {a b c}, holds a b → holds b c → holds a c

namespace Frame

variable {S : Type}

def same {β : Type} (view : S → β) : Frame S where
  holds a b := view b = view a
  refl _ := rfl
  trans first second := second.trans first

def invariant (good : S → Prop) : Frame S where
  holds a b := good a → good b
  refl _ held := held
  trans first second held := second (first held)

/-- Something that holds goes on to hold, and as long as it does the state stays within a frame. -/
def guarded (good : S → Prop) (F : Frame S) : Frame S where
  holds a b := good a → good b ∧ F.holds a b
  refl s held := ⟨held, F.refl s⟩
  trans first second held :=
    have mid := first held
    have last := second mid.1
    ⟨last.1, F.trans mid.2 last.2⟩

end Frame

section Within

variable {S α β : Type}

def Within (F : Frame S) (op : Effect S α) : Prop :=
  ∀ ⦃s after : S⦄ ⦃outcome : Outcome α⦄, Ends op s outcome after → F.holds s after

variable {F G : Frame S}

theorem within_pure (value : α) : Within F (pure value : Effect S α) := by
  intro s after outcome ended
  obtain ⟨_, rfl⟩ := ends_pure.mp ended
  exact F.refl _

theorem within_throw (failure : Failure) : Within F (throw failure : Effect S α) := by
  intro s after outcome ended
  obtain ⟨_, rfl⟩ := ends_throw.mp ended
  exact F.refl _

theorem within_get : Within F (get : Effect S S) := by
  intro s after outcome ended
  obtain ⟨_, rfl⟩ := ends_get.mp ended
  exact F.refl _

theorem within_modify {f : S → S} (step : ∀ s, F.holds s (f s)) :
    Within F (modify f : Effect S PUnit) := by
  intro s after outcome ended
  obtain ⟨_, rfl⟩ := ends_modify.mp ended
  exact step s

theorem within_bind {op : Effect S α} {next : α → Effect S β} (first : Within F op)
    (rest : ∀ value, Within F (next value)) : Within F (op >>= next) := by
  intro s after outcome ended
  rcases ends_bind.mp ended with ⟨value, mid, begun, done⟩ | ⟨failure, _, failed⟩
  · exact F.trans (first begun) (rest value done)
  · exact first failed

theorem within_get_bind {next : S → Effect S β}
    (rest : ∀ {s after : S} {outcome : Outcome β},
      Ends (next s) s outcome after → F.holds s after) :
    Within F (get >>= next) := by
  intro s after outcome ended
  exact rest (ends_get_bind.mp ended)

theorem within_ite {condition : Prop} [Decidable condition] {left right : Effect S α}
    (yes : Within F left) (no : Within F right) :
    Within F (if condition then left else right) := by
  by_cases chosen : condition
  · rw [if_pos chosen]
    exact yes
  · rw [if_neg chosen]
    exact no

theorem within_forIn {items : List β} {initial : α} {body : β → α → Effect S (ForInStep α)}
    (each : ∀ item ∈ items, ∀ value, Within F (body item value)) :
    Within F (forIn items initial body) := by
  induction items generalizing initial with
  | nil => exact within_pure initial
  | cons item rest ih =>
      rw [List.forIn_cons]
      refine within_bind (each item List.mem_cons_self initial) fun reached => ?_
      cases reached with
      | done value => exact within_pure value
      | yield value => exact ih fun other member => each other (List.mem_cons_of_mem item member)

theorem within_doEach {items : List β} {body : β → Effect S Unit}
    (each : ∀ item ∈ items, Within F (body item)) : Within F (doEach items body) :=
  within_forIn fun item member _ => within_bind (each item member) fun _ => within_pure _

theorem within_mapM {items : List β} {body : β → Effect S α}
    (each : ∀ item ∈ items, Within F (body item)) : Within F (items.mapM body) := by
  induction items with
  | nil => exact within_pure []
  | cons item rest ih =>
      rw [List.mapM_cons]
      refine within_bind (each item List.mem_cons_self) fun value => ?_
      refine within_bind (ih fun other member => each other (List.mem_cons_of_mem item member)) ?_
      exact fun values => within_pure (value :: values)

theorem Within.mono {op : Effect S α} (inside : Within F op)
    (wider : ∀ {a b}, F.holds a b → G.holds a b) : Within G op :=
  fun _ _ _ ended => wider (inside ended)

end Within

end Scalpel
