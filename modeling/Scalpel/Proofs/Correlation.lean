import Mathlib.Data.List.Nodup
import Scalpel.Proofs.Clerk
import Scalpel.Proofs.Errands
import Scalpel.Proofs.Requests
import Scalpel.Wire.Script

/-!
Answers find their requests. However the steps of callers, dispatcher and transport come in turn, each
caller gets what the first answer to its request says, or hears that the connection ended or that its
time was over, whichever came first; and no answer touches another request. Only an answer whose error is
no object leaves a request without an outcome.
-/

set_option autoImplicit false

namespace Scalpel

/-! ### What a decision says -/

namespace Json

def ErrsProperly (answer : Json) : Prop :=
  (answer.field? "error").getD .null = .null ∨ ∃ error, (answer.field? "error").getD .null = .obj error

end Json

theorem Connection.outcomeOf_eq_none_iff [Halves] {method : String} {answer : Json} :
    outcomeOf method answer = none ↔ ¬answer.ErrsProperly := by
  unfold outcomeOf Json.ErrsProperly
  cases (answer.field? "error").getD .null <;> simp

namespace Happening

def closes : Happening → Bool
  | taken (.closure _) => true
  | finished => true
  | _ => false

end Happening

namespace History

variable {log : History} {number : Int} {first : Happening}

theorem asked_of_decision (decided : log.decision? number = some first) :
    number ∈ log.asked.map Prod.fst := by
  refine Decidable.byContradiction fun unasked => ?_
  have nothing := since_of_unasked unasked []
  rw [List.append_nil] at nothing
  rw [decision?, nothing, since, List.find?_nil] at decided
  cases decided

theorem since_subset (number : Int) (log : History) : since number log ⊆ log := by
  induction log with
  | nil => exact List.Subset.refl _
  | cons first rest ih =>
      have later : since number rest ⊆ first :: rest := List.Subset.trans ih (List.subset_cons_self _ _)
      cases first with
      | asked other method =>
          rw [since]
          split
          · exact List.subset_cons_self _ _
          · exact later
      | _ => exact later

theorem mem_of_decision (decided : log.decision? number = some first) :
    first ∈ log ∧ first.decides number = true :=
  ⟨since_subset number log (List.mem_of_find?_eq_some decided), List.find?_some decided⟩

theorem decision_stands (decided : log.decision? number = some first) (more : History) :
    (log ++ more).decision? number = some first := by
  have found : (since number log).find? (·.decides number) = some first := decided
  rw [decision?, since_append (asked_of_decision decided), List.find?_append, found, Option.some_or]

theorem outcome_of_decision [Halves] (decided : log.decision? number = some first)
    (proper : ∀ answer, .taken (.message answer) ∈ log → Desk.answered? answer = some number →
      answer.ErrsProperly) (method : String) : first.outcome? method ≠ none := by
  obtain ⟨member, decides⟩ := mem_of_decision decided
  cases first with
  | taken arrival =>
      cases arrival with
      | message answer =>
          have answered : Desk.answered? answer = some number := of_decide_eq_true decides
          exact fun none => Connection.outcomeOf_eq_none_iff.mp none (proper answer member answered)
      | closure closure => exact Option.some_ne_none _
  | finished => exact Option.some_ne_none _
  | _ => cases decides

end History

/-! ### The end of the transport -/

namespace Connection

structure Sealed (log : History) (c : Connection) : Prop where
  queued : ∀ closure, .closure closure ∈ c.inbox → c.transportClosed = true
  ended : (∃ h ∈ log, h.closes = true) → c.transportClosed = true

variable {log : History} {h : Happening} {c d : Connection}

theorem Sealed.go (sealed : c.Sealed log) (kept : c.transportClosed = true → d.transportClosed = true)
    (queued : ∀ closure, .closure closure ∈ d.inbox →
      .closure closure ∈ c.inbox ∨ d.transportClosed = true)
    (closes : h.closes = true → c.transportClosed = true) : d.Sealed (log ++ [h]) := by
  constructor
  · intro closure member
    rcases queued closure member with old | shut
    · exact kept (sealed.queued closure old)
    · exact shut
  · rintro ⟨other, member, closing⟩
    rcases List.mem_append.mp member with old | new
    · exact kept (sealed.ended ⟨other, old, closing⟩)
    · rw [List.mem_singleton.mp new] at closing
      exact kept (closes closing)

theorem Sealed.keep (sealed : c.Sealed log) (open_ : h.closes = false) (queue : d.inbox = c.inbox)
    (transport : d.transportClosed = c.transportClosed) : d.Sealed (log ++ [h]) := by
  refine sealed.go (fun shut => transport.trans shut) (fun closure member => ?_)
    (fun closing => absurd (closing.symm.trans open_) nofun)
  rw [queue] at member
  exact .inl member

theorem Sealed.deliver (sealed : c.Sealed log) (open_ : h.closes = false) (arrivals : List Inbound) :
    (c.deliver arrivals).Sealed (log ++ [h]) := by
  refine sealed.go (fun shut => ?_) (fun closure member => ?_) (fun closing => absurd (closing.symm.trans open_) nofun)
  · change (c.transportClosed || _) = true
    rw [shut, Bool.true_or]
  · rcases List.mem_append.mp member with old | new
    · exact .inl old
    · refine .inr (Bool.or_eq_true_iff.mpr (.inr (List.any_eq_true.mpr ⟨_, new, rfl⟩)))

theorem queue_receive [Halves] {first : Inbound} {rest : List Inbound} {arrival : Arrival}
    (queue : c.inbox = first :: rest) (arrived : c.receive? = some (arrival, d)) : d.inbox = rest := by
  rcases received arrived with ⟨_, ⟨message, rest, known, taken⟩ | ⟨closure, rest, known, ended⟩⟩
  · cases queue.symm.trans known
    rw [← show _ = d from congrArg Prod.snd taken]
    exact (queue_take { c with inbox := rest } message).1
  · cases queue.symm.trans known
    cases ended
    rfl

end Connection

/-! ### How requests end -/

namespace Session

variable [Halves] {σ ω : Type} [Peer σ] {s : Session σ ω} {log before rest : History} {number : Int}
  {method : String} {timeout : Json} {outcome : Outcome Json} {h : Happening}

theorem Run.sealed (run : Run log s) : s.connection.Sealed log := by
  induction run with
  | start fresh => exact ⟨fresh.sealed, fun ⟨_, member, _⟩ => absurd member List.not_mem_nil⟩
  | step run permits stepped ih =>
      cases stepped with
      | ask method => exact ih.keep rfl rfl rfl
      | refuse emitted =>
          rcases connection_of_emit emitted with same | ⟨impossible, _⟩
          · exact ih.keep rfl (by rw [same]) (by rw [same])
          · cases impossible
      | withdraw number => exact ih.keep rfl rfl rfl
      | await _ ended => cases awaited_of_ends ended <;> exact ih.keep rfl rfl rfl
      | @take first _ _ _ queue arrived =>
          have shorter := Connection.queue_receive queue arrived
          have transport := Connection.transportClosed_receive arrived
          refine ih.go (fun shut => transport.trans shut) (fun closure member => ?_) fun closing => ?_
          · rw [queue]
            exact .inl (List.mem_cons_of_mem _ (shorter ▸ member))
          · cases first with
            | message message => cases closing
            | closure closure => exact ih.queued closure (queue ▸ List.mem_cons_self)
      | finish shut => exact ih.go id (fun _ member => .inl member) fun _ => shut
      | send emitted =>
          rcases connection_of_emit emitted with same | ⟨_, _, same⟩
          · exact ih.keep rfl (by rw [same]) (by rw [same])
          · rw [same]
            exact ih.deliver rfl _
      | arrive arrivals => exact ih.deliver rfl arrivals
      | shut closure =>
          exact ih.go (fun _ => Connection.transportClosed_endTransport _ _)
            (fun _ _ => .inr (Connection.transportClosed_endTransport _ _)) nofun
      | hangUp =>
          exact ih.go (fun _ => Connection.transportClosed_endTransport _ _)
            (fun _ _ => .inr (Connection.transportClosed_endTransport _ _)) nofun
      | elsewhere same => exact ih.keep rfl (by rw [same]) (by rw [same])

/-- The caller of a request gets what decided it, or its time is over or cannot be waited for. -/
theorem Run.returned (run : Run (before ++ .returned number method timeout outcome :: rest) s) :
    (before.decision? number).bind (·.outcome? method) = some outcome ∨
      ((before.decision? number).bind (·.outcome? method) = none ∧ timeout ≠ .null ∧
        ((∃ seconds, waitingTime timeout = .ok seconds ∧
            outcome = .error (.problem (.requestTimeout method seconds))) ∨
          ∃ failure, waitingTime timeout = .error failure ∧ outcome = .error failure)) := by
  obtain ⟨mid, last, earlier, ⟨member, _, open_⟩, stepped⟩ := run.split
  have stored := (earlier.books.entered number method member).outcomes open_
  cases stepped with
  | await timed ended =>
      have timed (unknown : mid.connection.outcomes.lookup number = none) : timeout ≠ .null := by
        intro endless
        have found := timed endless
        rw [unknown] at found
        cases found
      cases awaited_of_ends ended with
      | fetched found =>
          rw [stored] at found
          exact .inl found
      | late unknown waited =>
          have undecided := stored.symm.trans unknown
          exact .inr ⟨undecided, timed unknown, .inl ⟨_, waited, rfl⟩⟩
      | endless unknown waited =>
          have undecided := stored.symm.trans unknown
          exact .inr ⟨undecided, timed unknown, .inr ⟨_, waited, rfl⟩⟩

theorem Run.permits {h : Happening} (run : Run (before ++ h :: rest) s) : before.Permits h := by
  obtain ⟨_, _, _, permits, _⟩ := run.split
  exact permits

theorem Run.refused {failure : Failure} (run : Run (before ++ .refused number failure :: rest) s)
    (ended : ∃ h ∈ before, h.closes = true) :
    ∃ name, failure = .problem (.closed ("Transport to " ++ name ++ " is closed")) := by
  obtain ⟨mid, last, earlier, _, stepped⟩ := run.split
  have shut := earlier.sealed.ended ended
  cases stepped with
  | refuse emitted =>
      rcases ends_emit.mp emitted with ⟨_, _, same⟩ | ⟨open_, _⟩ | ⟨open_, _⟩
      · exact ⟨_, Except.error.inj same⟩
      · cases shut.symm.trans open_
      · cases shut.symm.trans open_

theorem Run.ends_once (run : Run log s) (number : Int) :
    (log.filter (·.ends number)).length ≤ 1 := by
  induction run with
  | start => exact Nat.zero_le 1
  | @step log h mid after run permits stepped ih =>
      rw [List.filter_append, List.length_append]
      by_cases ended : h.ends number = true
      · have open_ : ¬log.Over number := by
          cases h with
          | withdrawn other =>
              have same : other = number := of_decide_eq_true ended
              exact same ▸ permits.2.2
          | returned other method timeout outcome =>
              have same : other = number := of_decide_eq_true ended
              exact same ▸ permits.2.2
          | _ => cases ended
        have nothing : log.filter (·.ends number) = [] :=
          List.filter_eq_nil_iff.mpr fun h member ended => open_ ⟨h, member, ended⟩
        rw [nothing, List.filter_cons_of_pos ended]
        exact Nat.le_refl 1
      · rw [List.filter_cons_of_neg ended]
        exact ih

theorem Run.ends_unique (run : Run log s) {first second : Happening} (one : first ∈ log)
    (two : second ∈ log) (ended : first.ends number = true) (again : second.ends number = true) :
    first = second := by
  have once := run.ends_once number
  have left := List.mem_filter.mpr ⟨one, ended⟩
  have right := List.mem_filter.mpr ⟨two, again⟩
  generalize log.filter (·.ends number) = ends at once left right
  rcases ends with _ | ⟨only, _ | ⟨other, more⟩⟩
  · cases left
  · rw [List.mem_singleton.mp left, List.mem_singleton.mp right]
  · simp at once

theorem Run.method_unique (run : Run log s) {name : String} (one : (number, name) ∈ log.asked)
    (two : (number, method) ∈ log.asked) : name = method :=
  (Prod.mk.inj (List.inj_on_of_nodup_map run.books.distinct one two rfl)).2

theorem Run.unwaited (run : Run log s) (member : .returned number method timeout outcome ∈ log)
    (undecided : log.decision? number = none) (endless : (waitingTime timeout).isOk = false) :
    ∃ failure, waitingTime timeout = .error failure ∧ outcome = .error failure := by
  obtain ⟨before, rest, rfl⟩ : ∃ before rest : History,
      log = before ++ .returned number method timeout outcome :: rest := List.append_of_mem member
  rcases run.returned with decided | ⟨_, _, ⟨seconds, waited, _⟩ | unwaited⟩
  · cases earlier : before.decision? number with
    | none =>
        rw [earlier] at decided
        cases decided
    | some first =>
        rw [History.decision_stands earlier] at undecided
        cases undecided
  · rw [waited] at endless
    cases endless
  · exact unwaited

theorem Run.asked_of_returned (run : Run log s)
    (member : .returned number method timeout outcome ∈ log) : (number, method) ∈ log.asked := by
  obtain ⟨before, rest, rfl⟩ : ∃ before rest : History,
      log = before ++ .returned number method timeout outcome :: rest := List.append_of_mem member
  rw [History.asked_append]
  exact List.mem_append_left _ run.permits.1

/-- A request that is over is still in the table only if its time could not be waited for, and nothing
has decided it since. -/
theorem Run.stranded (run : Run log s) (past : log.Over number) :
    (number, method) ∈ s.connection.waiting ↔ (number, method) ∈ log.asked ∧
      log.decision? number = none ∧ ∃ timeout failure, waitingTime timeout = .error failure ∧
        .returned number method timeout (.error failure) ∈ log := by
  rw [run.books.mem_waiting]
  refine and_congr_right fun asked => ?_
  unfold History.waits
  rw [Bool.and_eq_true_iff, Option.isNone_iff_eq_none]
  refine and_congr_right fun undecided => ?_
  rw [Bool.not_eq_true']
  constructor
  · intro kept
    obtain ⟨h, member, ended⟩ := past
    have stays : h.drops number = false := by
      refine Bool.eq_false_iff.mpr fun off => ?_
      have dropped : log.dropped number = true := List.any_eq_true.mpr ⟨h, member, off⟩
      rw [kept] at dropped
      cases dropped
    cases h with
    | withdrawn other => cases ended.symm.trans stays
    | returned other name timeout outcome =>
        have same : other = number := of_decide_eq_true ended
        subst same
        have named := run.method_unique (run.asked_of_returned member) asked
        subst named
        have endless : (waitingTime timeout).isOk = false := by
          simpa [Happening.drops] using stays
        obtain ⟨failure, unwaited, rfl⟩ := run.unwaited member undecided endless
        exact ⟨timeout, failure, unwaited, member⟩
    | _ => cases ended
  · rintro ⟨timeout, failure, unwaited, member⟩
    refine Bool.eq_false_iff.mpr fun dropped => ?_
    obtain ⟨h, known, off⟩ := List.any_eq_true.mp dropped
    have same := run.ends_unique known member (h.ends_of_drops off) (decide_eq_true rfl)
    subst same
    simp [Happening.drops, unwaited, Except.isOk, Except.toBool] at off

end Session

/-! ### Correlation -/

namespace Session

variable [Halves] {σ ω : Type} [Peer σ] {s : Session σ ω} {log : History} {number : Int}

/-- The requests of a session and what has happened belong together. -/
structure Correlated (log : History) (s : Session σ ω) : Prop where
  distinct : (log.asked.map Prod.fst).Nodup
  once : ∀ number, (log.filter (·.ends number)).length ≤ 1
  /-- A caller gets what the first decision since it asked says. Without one its time is over, or it
  could not be waited for. -/
  returned : ∀ {before rest : History} {number method timeout outcome},
    log = before ++ .returned number method timeout outcome :: rest →
    match before.decision? number with
    | some first => first.outcome? method = some outcome
    | none => timeout ≠ .null ∧
      ((∃ seconds, waitingTime timeout = .ok seconds ∧
          outcome = .error (.problem (.requestTimeout method seconds))) ∨
        ∃ failure, waitingTime timeout = .error failure ∧ outcome = .error failure)
  refused : ∀ {before rest : History} {number failure},
    log = before ++ .refused number failure :: rest → (∃ h ∈ before, h.closes = true) →
    ∃ name, failure = .problem (.closed ("Transport to " ++ name ++ " is closed"))
  /-- An answer leaves all requests but its own as they are. -/
  apart : ∀ {answer : Json} {after : Session σ ω}, s.Step (.taken (.message answer)) after →
    ∀ number, Desk.answered? answer ≠ some number →
      after.connection.waiting.lookup number = s.connection.waiting.lookup number ∧
        after.connection.outcomes.lookup number = s.connection.outcomes.lookup number
  waiting : ∀ number method, (number, method) ∈ s.connection.waiting ↔
    (number, method) ∈ log.asked ∧ log.decision? number = none ∧ log.dropped number = false
  /-- Once every request is over, only those are in the table whose time could not be waited for. -/
  cleared : (∀ entry ∈ log.asked, log.Over entry.1) → ∀ number method,
    (number, method) ∈ s.connection.waiting ↔ (number, method) ∈ log.asked ∧
      log.decision? number = none ∧ ∃ timeout failure, waitingTime timeout = .error failure ∧
        .returned number method timeout (.error failure) ∈ log
  empty : (∀ entry ∈ log.asked, log.Over entry.1) →
    (∀ number method timeout outcome, .returned number method timeout outcome ∈ log →
      (waitingTime timeout).isOk = true) → s.connection.waiting = []

theorem apart_of_take {answer : Json} {after : Session σ ω}
    (stepped : s.Step (.taken (.message answer)) after)
    (other : Desk.answered? answer ≠ some number) :
    after.connection.waiting.lookup number = s.connection.waiting.lookup number ∧
      after.connection.outcomes.lookup number = s.connection.outcomes.lookup number := by
  obtain ⟨rest, _, same⟩ := stepped.taken
  have spared := Connection.spared_take { s.connection with inbox := rest } other
  rw [same]
  exact ⟨spared.waiting, spared.outcomes⟩

/-- Answers find their requests in whatever order they come, late, twice or for nobody, among other
messages, timeouts and the end of the connection: each caller gets what came first for it. A request
leaves the table when it is over, except for one whose time cannot be waited for. -/
theorem requests_correlated (run : Run log s)
    (proper : ∀ answer number, .taken (.message answer) ∈ log →
      Desk.answered? answer = some number → answer.ErrsProperly) : Correlated log s where
  distinct := run.books.distinct
  once := run.ends_once
  returned := by
    rintro before rest number method timeout outcome rfl
    cases decided : before.decision? number with
    | some first =>
        have given := History.outcome_of_decision decided
          (fun answer member => proper answer number (List.mem_append_left _ member)) method
        rcases run.returned with got | ⟨none, _⟩
        · rw [decided] at got
          exact got
        · rw [decided] at none
          exact absurd none given
    | none =>
        rcases run.returned with got | ⟨_, late⟩
        · rw [decided] at got
          cases got
        · exact late
  refused := by
    rintro before rest number failure rfl ended
    exact run.refused ended
  apart stepped _ other := apart_of_take stepped other
  waiting number method := by
    rw [run.books.mem_waiting]
    unfold History.waits
    simp
  cleared past number method := by
    constructor
    · intro member
      have asked := (run.books.mem_waiting.mp member).1
      exact (run.stranded (past _ asked)).mp member
    · intro stranded
      exact (run.stranded (past _ stranded.1)).mpr stranded
  empty past waitable := by
    refine List.eq_nil_iff_forall_not_mem.mpr fun entry member => ?_
    have asked := (run.books.mem_waiting.mp member).1
    obtain ⟨_, _, timeout, failure, unwaited, returned⟩ := (run.stranded (past _ asked)).mp member
    have waited := waitable _ _ _ _ returned
    rw [unwaited] at waited
    cases waited

end Session

/-! ### Two requests that are answered in turn -/

namespace Session

local instance correlationHalves : Halves :=
  Halves.trial

def bareSession : Session Script.Servers Unit :=
  { world := { server := {} }, owner := () }

def replyOf (number : Int) (text : String) : Json :=
  .obj [("id", .int number), ("result", .str text)]

/-- Two requests are asked, and answered the other way round; one answer comes twice, and one is for
nobody. -/
def crossedLog : History :=
  [.asked 1 "a", .asked 2 "b", .aside, .taken (.message (replyOf 2 "second")),
    .taken (.message (replyOf 7 "stray")), .taken (.message (replyOf 2 "late")),
    .taken (.message (replyOf 1 "first")), .returned 2 "b" (.int 5) (.ok (.str "second")),
    .returned 1 "a" .null (.ok (.str "first"))]

theorem run_crossedLog : ∃ last : Session Script.Servers Unit, Run crossedLog last := by
  have start : Run [] bareSession := .start ⟨rfl, rfl, fun _ => rfl, nofun⟩
  have first := start.step (h := .asked 1 "a") trivial (.ask "a")
  have second := first.step (h := .asked 2 "b") trivial (.ask "b")
  have arrived := second.step (h := .aside) trivial (.arrive [.message (replyOf 2 "second"),
    .message (replyOf 7 "stray"), .message (replyOf 2 "late"), .message (replyOf 1 "first")])
  have taken := arrived.step (h := .taken (.message (replyOf 2 "second"))) trivial (.take rfl rfl)
  have stray := taken.step (h := .taken (.message (replyOf 7 "stray"))) trivial (.take rfl rfl)
  have late := stray.step (h := .taken (.message (replyOf 2 "late"))) trivial (.take rfl rfl)
  have all := late.step (h := .taken (.message (replyOf 1 "first"))) trivial (.take rfl rfl)
  have got := all.step (h := .returned 2 "b" (.int 5) (.ok (.str "second")))
    ⟨by decide, by simp, by unfold History.Over; decide⟩ (.await nofun rfl)
  have last := got.step (h := .returned 1 "a" .null (.ok (.str "first")))
    ⟨by decide, by simp, by unfold History.Over; decide⟩ (.await (fun _ => rfl) rfl)
  exact ⟨_, last⟩

theorem requests_correlated_of_crossed : ∃ last : Session Script.Servers Unit,
    Run crossedLog last ∧ (∀ answer number, .taken (.message answer) ∈ crossedLog →
      Desk.answered? answer = some number → answer.ErrsProperly) ∧
    Correlated crossedLog last ∧ last.connection.waiting = [] := by
  obtain ⟨last, run⟩ := run_crossedLog
  have proper : ∀ answer number, .taken (.message answer) ∈ crossedLog →
      Desk.answered? answer = some number → answer.ErrsProperly := by
    intro answer number member _
    simp only [crossedLog, List.mem_cons, reduceCtorEq, false_or, Happening.taken.injEq,
      Inbound.message.injEq, List.not_mem_nil, or_false] at member
    rcases member with rfl | rfl | rfl | rfl <;> exact .inl rfl
  have correlated := requests_correlated run proper
  refine ⟨last, run, proper, correlated, List.eq_nil_iff_forall_not_mem.mpr fun entry member => ?_⟩
  obtain ⟨asked, undecided, _⟩ := (correlated.waiting entry.1 entry.2).mp member
  have both : entry ∈ [(1, "a"), (2, "b")] := asked
  rcases List.mem_pair.mp both with rfl | rfl <;> cases undecided

end Session

/-! ### Requests without an outcome

Taking an answer removes its request from the table
first and reads the error of the answer then. If that error is no object the request has no outcome:
it is lost, and even the end of the connection does not tell its caller. Nothing else loses a request.
-/

/-- A request is lost: the first that decided it was an answer whose error is no object. -/
def History.Lost (log : History) (number : Int) : Prop :=
  ∃ answer, log.decision? number = some (.taken (.message answer)) ∧ ¬answer.ErrsProperly

namespace History

variable {log : History} {number : Int} {first : Happening} {method : String}

theorem not_lost_of_undecided (undecided : log.decision? number = none) : ¬log.Lost number := by
  rintro ⟨answer, decided, _⟩
  cases undecided.symm.trans decided

theorem decides_of_closes (ended : first.closes = true) : first.decides number = true := by
  cases first with
  | taken arrival =>
      cases arrival with
      | message answer => cases ended
      | closure closure => rfl
  | finished => rfl
  | _ => cases ended

variable [Halves]

theorem lost_iff (decided : log.decision? number = some first) :
    log.Lost number ↔ first.outcome? method = none := by
  unfold Lost
  rw [decided]
  constructor
  · rintro ⟨answer, same, improper⟩
    cases same
    exact Connection.outcomeOf_eq_none_iff.mpr improper
  · intro none
    cases first with
    | taken arrival =>
        cases arrival with
        | message answer => exact ⟨answer, rfl, Connection.outcomeOf_eq_none_iff.mp none⟩
        | closure closure => cases none
    | finished => cases none
    | _ => cases (mem_of_decision decided).2

end History

namespace Session

variable [Halves] {σ ω : Type} [Peer σ] {s after : Session σ ω} {log before rest : History} {number : Int}
  {method : String} {timeout message : Json} {outcome : Outcome Json} {closing : Happening}

/-- An answer takes its request off the table, and gives it the outcome that it has if it has one. -/
theorem tables_of_answer (run : Run log s) (stepped : s.Step (.taken (.message message)) after)
    (waits : (number, method) ∈ s.connection.waiting) (answered : Desk.answered? message = some number) :
    after.connection.waiting.lookup number = none ∧
      after.connection.outcomes = s.connection.outcomes ++
        ((Connection.outcomeOf method message).map fun outcome => (number, outcome)).toList := by
  have waiting := run.books.lookup_waiting.mpr waits
  have gone (c : Connection) := c.lookup_forgotten number
  obtain ⟨rest, _, taken⟩ := stepped.taken
  obtain ⟨value, index, same⟩ :=
    Connection.take_of_answered (c := { s.connection with inbox := rest }) answered
  rw [taken, same, Connection.answer_of_index index, waiting]
  dsimp only
  cases Connection.outcomeOf method message with
  | none => exact ⟨gone _, (List.append_nil _).symm⟩
  | some outcome => exact ⟨gone _, rfl⟩

theorem removed_iff (run : Run log s) (stepped : s.Step (.taken (.message message)) after)
    (waits : (number, method) ∈ s.connection.waiting) :
    (number, method) ∉ after.connection.waiting ↔ Desk.answered? message = some number := by
  have books := (run.step (h := .taken (.message message)) trivial stepped).books
  rw [← books.lookup_waiting]
  constructor
  · intro removed
    refine Decidable.byContradiction fun other => removed ?_
    rw [(apart_of_take stepped other).1]
    exact run.books.lookup_waiting.mpr waits
  · intro answered still
    rw [(tables_of_answer run stepped waits answered).1] at still
    cases still

/-- A request whose caller is not done is neither in the table nor has an outcome exactly if it is
lost. -/
theorem absent_iff (run : Run log s) (asked : (number, method) ∈ log.asked)
    (open_ : ¬log.Over number) :
    ((number, method) ∉ s.connection.waiting ∧ s.connection.outcomes.lookup number = none) ↔
      log.Lost number := by
  rw [run.books.mem_waiting, (run.books.entered number method asked).outcomes open_,
    History.waits_of_open open_]
  cases decided : log.decision? number with
  | none => simp [asked, History.not_lost_of_undecided decided]
  | some first => simp [@History.lost_iff _ _ _ method _ decided]

/-- What the end of the connection tells the caller of a request that nothing has decided before. -/
theorem outcome_of_closing (run : Run (before ++ closing :: rest) s) (ended : closing.closes = true)
    (asked : (number, method) ∈ before.asked) (undecided : before.decision? number = none)
    (open_ : ¬History.Over (before ++ closing :: rest) number) :
    s.connection.outcomes.lookup number = closing.outcome? method := by
  have known := History.mem_fst asked
  have decided : History.decision? (before ++ [closing]) number = some closing := by
    rw [History.decision_append known, undecided, if_pos (History.decides_of_closes ended),
      Option.none_or]
  have stands := History.decision_stands decided rest
  rw [List.append_assoc, List.singleton_append] at stands
  have later : (number, method) ∈ History.asked (before ++ closing :: rest) := by
    rw [History.asked_append]
    exact List.mem_append_left _ asked
  rw [(run.books.entered number method later).outcomes open_, stands, Option.bind_some]

/-- A message takes a request off the table exactly if it answers it, and gives it an outcome unless its
error is no object. Then the request is lost: its caller hears nothing, not even that the connection
ended, and waits until its time is over, or for ever if it has none. All other requests end with what
was decided for them; those that the end of the connection finds undecided hear of it. -/
theorem dropped_unanswered_iff (run : Run log s) :
    (∀ {message after}, s.Step (.taken (.message message)) after →
      ∀ {number method}, (number, method) ∈ s.connection.waiting →
        ((number, method) ∉ after.connection.waiting ↔ Desk.answered? message = some number) ∧
        (Desk.answered? message = some number →
          after.connection.outcomes = s.connection.outcomes ++
            ((Connection.outcomeOf method message).map fun outcome => (number, outcome)).toList ∧
          (Connection.outcomeOf method message = none ↔ ¬message.ErrsProperly))) ∧
    (∀ {number method}, (number, method) ∈ log.asked → ¬log.Over number →
      (((number, method) ∉ s.connection.waiting ∧ s.connection.outcomes.lookup number = none) ↔
        log.Lost number)) ∧
    (∀ {before rest : History} {number method timeout outcome},
      log = before ++ .returned number method timeout outcome :: rest →
      (before.Lost number → timeout ≠ .null ∧
        ((∃ seconds, waitingTime timeout = .ok seconds ∧
            outcome = .error (.problem (.requestTimeout method seconds))) ∨
          ∃ failure, waitingTime timeout = .error failure ∧ outcome = .error failure)) ∧
      (¬before.Lost number → ∀ first, before.decision? number = some first →
        first.outcome? method = some outcome)) ∧
    ∀ {before rest : History} {closing number method}, log = before ++ closing :: rest →
      closing.closes = true → (number, method) ∈ before.asked → before.decision? number = none →
      ¬log.Over number →
      ∃ reason, s.connection.outcomes.lookup number = some (.error (.problem (.closed reason))) := by
  refine ⟨fun stepped _ _ waits => ?_, fun asked open_ => absent_iff run asked open_, ?_, ?_⟩
  · refine ⟨removed_iff run stepped waits, fun answered => ?_⟩
    exact ⟨(tables_of_answer run stepped waits answered).2, Connection.outcomeOf_eq_none_iff⟩
  · rintro before rest number method timeout outcome rfl
    constructor
    · intro lost
      have ⟨answer, decided, _⟩ := lost
      have none : Happening.outcome? method (.taken (.message answer)) = none := (History.lost_iff decided).mp lost
      rcases run.returned with got | ⟨_, late⟩
      · rw [decided, Option.bind_some, none] at got
        cases got
      · exact late
    · intro kept first decided
      rcases run.returned with got | ⟨none, _⟩
      · rwa [decided] at got
      · rw [decided] at none
        exact absurd ((History.lost_iff decided).mpr none) kept
  · rintro before rest closing number method rfl ended asked undecided open_
    rw [outcome_of_closing run ended asked undecided open_]
    cases closing with
    | taken arrival =>
        cases arrival with
        | message answer => cases ended
        | closure closure => exact ⟨_, rfl⟩
    | finished => exact ⟨_, rfl⟩
    | _ => cases ended

end Session

/-! ### A request that is lost -/

namespace Session

local instance unansweredHalves : Halves :=
  Halves.trial

def badAnswer : Json :=
  .obj [("id", .int 1), ("error", .str "boom")]

/-- A request is answered with an error that is no object, and then the server ends. -/
def lostLog : History :=
  [.asked 1 "foo", .aside, .taken (.message badAnswer), .taken (.closure (.exited (some 1) none))]

theorem run_lostLog : ∃ last : Session Script.Servers Unit, Run lostLog last := by
  have start : Run [] bareSession := .start ⟨rfl, rfl, fun _ => rfl, nofun⟩
  have asked := start.step (h := .asked 1 "foo") trivial (.ask "foo")
  have arrived := asked.step (h := .aside) trivial
    (.arrive [.message badAnswer, .closure (.exited (some 1) none)])
  have taken := arrived.step (h := .taken (.message badAnswer)) trivial (.take rfl rfl)
  have last := taken.step (h := .taken (.closure (.exited (some 1) none))) trivial (.take rfl rfl)
  exact ⟨_, last⟩

theorem dropped_unanswered_of_text : ∃ last : Session Script.Servers Unit, Run lostLog last ∧
    (1, "foo") ∉ last.connection.waiting ∧ last.connection.outcomes.lookup 1 = none := by
  obtain ⟨last, run⟩ := run_lostLog
  have asked : (1, "foo") ∈ History.asked lostLog := by decide
  have open_ : ¬History.Over lostLog 1 := by
    unfold History.Over
    decide
  have lost : History.Lost lostLog 1 := by
    refine ⟨badAnswer, rfl, ?_⟩
    rintro (none | ⟨_, object⟩)
    · cases none
    · cases object
  exact ⟨last, run, ((dropped_unanswered_iff run).2.1 asked open_).mpr lost⟩

end Session

end Scalpel
