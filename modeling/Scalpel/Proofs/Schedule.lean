import Scalpel.Session.Clock
import Mathlib.Data.List.Nodup

/-!
What is scheduled on a clock. Each call has a number of its own, so that a call that is made or
cancelled is exactly the one that is meant; the calls for other tasks stay as they are.
-/

set_option autoImplicit false

namespace Scalpel.Clock

variable {τ : Type} {c after : Clock τ}

structure Tidy (c : Clock τ) : Prop where
  numbered : ∀ call ∈ c.calls, call.id < c.nextId
  distinct : (c.calls.map (·.id)).Nodup

/-- The scheduled calls whose task meets a condition, in the order of their scheduling. -/
def callsFor (c : Clock τ) (wanted : τ → Bool) : List (ScheduledCall τ) :=
  c.calls.filter fun call => wanted call.task

/-! ### Scheduling and cancelling -/

theorem Tidy.schedule (tidy : c.Tidy) (delay : Float) (interval : Option Float) (task : τ) :
    (c.schedule delay interval task).2.Tidy := by
  constructor
  · intro call member
    rcases List.mem_append.mp member with old | new
    · exact Nat.lt_succ_of_lt (tidy.numbered call old)
    · rw [List.mem_singleton.mp new]
      exact Nat.lt_succ_self _
  · unfold Clock.schedule
    rw [List.map_append, List.nodup_append]
    refine ⟨tidy.distinct, List.nodup_singleton _, fun id old other new same => ?_⟩
    obtain ⟨call, member, rfl⟩ := List.mem_map.mp old
    have fresh : other = c.nextId := List.mem_singleton.mp new
    exact absurd (tidy.numbered call member) (by rw [same, fresh]; exact Nat.lt_irrefl _)

theorem Tidy.cancel (tidy : c.Tidy) (id : Nat) : (c.cancel id).Tidy where
  numbered call member := tidy.numbered call (List.mem_filter.mp member).1
  distinct := (List.Sublist.map _ List.filter_sublist).nodup tidy.distinct

theorem callsFor_schedule {wanted : τ → Bool} {delay : Float} {interval : Option Float} {task : τ} :
    (c.schedule delay interval task).2.callsFor wanted =
      c.callsFor wanted ++ if wanted task then
        [{ id := c.nextId, due := c.now + delay, interval, task }] else [] := by
  unfold callsFor schedule
  rw [List.filter_append, List.filter_singleton]
  cases wanted task <;> rfl

theorem callsFor_cancel {wanted : τ → Bool} {id : Nat} :
    (c.cancel id).callsFor wanted = (c.callsFor wanted).filter fun call => call.id ≠ id := by
  unfold callsFor cancel
  rw [List.filter_filter, List.filter_filter]
  simp only [Bool.and_comm]

/-! ### Calls that are made -/

theorem mem_of_earliest? {target : Float} {call : ScheduledCall τ}
    (found : c.earliest? target = some call) : call ∈ c.calls := by
  refine List.foldlRecOn (motive := fun best => ∀ call, best = some call → call ∈ c.calls)
    c.calls _ ?_ (fun best known other member => ?_) call found
  · intro call impossible
    cases impossible
  · intro chosen same
    split at same
    · split at same
      · exact Option.some.inj same ▸ member
      · split at same
        · exact Option.some.inj same ▸ member
        · exact known _ same
    · exact known _ same

def again (call : ScheduledCall τ) : List (ScheduledCall τ) :=
  match call.interval with
  | none => []
  | some interval => [{ call with due := call.due + interval }]

private theorem afterCall_append {before rest : List (ScheduledCall τ)} {call : ScheduledCall τ}
    (first : ∀ other ∈ before, other.id ≠ call.id) :
    afterCall call (before ++ call :: rest) = before ++ again call ++ rest := by
  induction before with
  | nil =>
      unfold again
      rw [List.nil_append, List.nil_append, afterCall, if_pos rfl]
      cases call.interval <;> rfl
  | cons other before ih =>
      have unlike := first other List.mem_cons_self
      simp only [List.cons_append, afterCall, if_neg unlike]
      rw [ih fun another member => first another (List.mem_cons_of_mem _ member)]

theorem Tidy.next?_eq_some {target : Float} {task : τ} (tidy : c.Tidy)
    (next : c.next? target = some (task, after)) :
    ∃ before call rest, c.calls = before ++ call :: rest ∧ call.task = task ∧
      after.calls = before ++ again call ++ rest ∧ after.nextId = c.nextId := by
  obtain ⟨call, found, made⟩ := Option.map_eq_some_iff.mp next
  cases made
  obtain ⟨before, rest, parted⟩ := List.append_of_mem (mem_of_earliest? found)
  refine ⟨before, call, rest, parted, rfl, ?_, rfl⟩
  change afterCall call c.calls = _
  rw [parted]
  refine afterCall_append fun other member same => ?_
  have distinct := tidy.distinct
  rw [parted, List.map_append, List.nodup_append] at distinct
  exact distinct.2.2 other.id (List.mem_map_of_mem member) call.id List.mem_cons_self same

theorem id_of_mem_again {call left : ScheduledCall τ} (member : left ∈ again call) :
    left.id = call.id := by
  unfold again at member
  split at member
  · cases member
  · rw [List.mem_singleton.mp member]

theorem Tidy.next {target : Float} {task : τ} (tidy : c.Tidy)
    (next : c.next? target = some (task, after)) : after.Tidy := by
  obtain ⟨before, call, rest, parted, _, left, same⟩ := tidy.next?_eq_some next
  have numbered := tidy.numbered
  have distinct := tidy.distinct
  rw [parted] at numbered distinct
  have whole : (before ++ again call ++ rest).map (·.id) = (before ++ rest).map (·.id) ∨
      (before ++ again call ++ rest).map (·.id) = (before ++ call :: rest).map (·.id) := by
    unfold again
    cases call.interval with
    | none => exact .inl (by rw [List.append_nil])
    | some interval => exact .inr (by simp)
  constructor
  · intro other member
    rw [left] at member
    rw [same]
    rcases List.mem_append.mp member with early | late
    · rcases List.mem_append.mp early with old | new
      · exact numbered other (List.mem_append_left _ old)
      · rw [id_of_mem_again new]
        exact numbered call (List.mem_append_right _ List.mem_cons_self)
    · exact numbered other (List.mem_append_right _ (List.mem_cons_of_mem _ late))
  · rw [left]
    rcases whole with fewer | same
    · rw [fewer]
      exact (((List.Sublist.refl before).append (List.sublist_cons_self call rest)).map _).nodup
        distinct
    · rw [same]
      exact distinct

theorem Tidy.callsFor_next_of_ne {target : Float} {task : τ} {wanted : τ → Bool} (tidy : c.Tidy)
    (next : c.next? target = some (task, after)) (other : wanted task = false) :
    after.callsFor wanted = c.callsFor wanted := by
  obtain ⟨before, call, rest, parted, rfl, left, _⟩ := tidy.next?_eq_some next
  unfold callsFor
  rw [left, parted, List.filter_append, List.filter_append, List.filter_append,
    List.filter_cons_of_neg (by simp [other])]
  have gone : (again call).filter (fun call => wanted call.task) = [] := by
    unfold again
    split
    · rfl
    · simp [other]
  rw [gone, List.append_nil]

theorem Tidy.callsFor_next_of_once {target : Float} {task : τ} {wanted : τ → Bool}
    {only : ScheduledCall τ} (tidy : c.Tidy) (next : c.next? target = some (task, after))
    (due : wanted task = true) (single : c.callsFor wanted = [only]) (once : only.interval = none) :
    after.callsFor wanted = [] := by
  obtain ⟨before, call, rest, parted, rfl, left, _⟩ := tidy.next?_eq_some next
  unfold callsFor at single ⊢
  rw [parted, List.filter_append, List.filter_cons_of_pos (by simpa using due)] at single
  have alone : before.filter (fun call => wanted call.task) = [] ∧ call = only ∧
      rest.filter (fun call => wanted call.task) = [] := by
    cases early : before.filter fun call => wanted call.task with
    | nil =>
        rw [early] at single
        exact ⟨rfl, List.cons.inj single⟩
    | cons first others =>
        rw [early] at single
        have none := (List.cons.inj single).2
        exact absurd none (by simp)
  obtain ⟨early, rfl, late⟩ := alone
  have done : again call = [] := by
    unfold again
    rw [once]
  rw [left, done, List.append_nil, List.filter_append, early, late, List.append_nil]

end Scalpel.Clock
