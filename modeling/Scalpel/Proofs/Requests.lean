import Scalpel.Proofs.EditRequest

/-!
The requests of a connection, asked by any number of callers at once. Everything that touches them is a
step of its own, and the steps of the callers, of the dispatcher and of the transport come in any
order: a caller asks, fails to send, withdraws its request or is done with waiting; the dispatcher
takes what arrived; the owner finishes the connection. What has happened decides each request: the
first answer to it since it was asked, or the end of the connection if that came first.
-/

set_option autoImplicit false

namespace Scalpel

/-- What happens to the requests of a connection. `aside` stands for all that does not touch them. -/
inductive Happening where
  | asked (number : Int) (method : String)
  | refused (number : Int) (failure : Failure)
  | withdrawn (number : Int)
  | returned (number : Int) (method : String) (timeout : Json) (outcome : Outcome Json)
  | taken (arrival : Inbound)
  | finished
  | aside

namespace Happening

def asked? : Happening → Option (Int × String)
  | asked number method => some (number, method)
  | _ => none

def ends (number : Int) : Happening → Bool
  | withdrawn other => other = number
  | returned other _ _ _ => other = number
  | _ => false

def decides (number : Int) : Happening → Bool
  | taken (.message message) => Desk.answered? message = some number
  | taken (.closure _) => true
  | finished => true
  | _ => false

/-- The caller of a request takes it off the table. One whose time cannot be waited for leaves it
there. -/
def drops (number : Int) : Happening → Bool
  | withdrawn other => other = number
  | returned other _ timeout _ => other = number && (Session.waitingTime timeout).isOk
  | _ => false

/-- The outcome of a request of a method that something decides. An answer whose error is no object
gives none. -/
def outcome? [Halves] (method : String) : Happening → Option (Outcome Json)
  | taken (.message message) => Connection.outcomeOf method message
  | taken (.closure closure) =>
    some (.error (.problem (.closed ("Connection closed: " ++ closure.reason))))
  | finished => some (.error (.problem (.closed "Connection closed by client")))
  | _ => none

theorem ends_of_drops {number : Int} {h : Happening} (dropped : h.drops number = true) :
    h.ends number = true := by
  cases h with
  | withdrawn other => exact dropped
  | returned other method timeout outcome => exact (Bool.and_eq_true_iff.mp dropped).1
  | _ => cases dropped

structure Idle (h : Happening) : Prop where
  plain : h.asked? = none
  open_ : ∀ number, h.ends number = false
  undecided : ∀ number, h.decides number = false
  kept : ∀ number, h.drops number = false

theorem idle_aside : Idle aside :=
  ⟨rfl, fun _ => rfl, fun _ => rfl, fun _ => rfl⟩

theorem idle_refused (number : Int) (failure : Failure) : Idle (refused number failure) :=
  ⟨rfl, fun _ => rfl, fun _ => rfl, fun _ => rfl⟩

end Happening

/-! ### What has happened -/

abbrev History : Type :=
  List Happening

namespace History

def asked (log : History) : List (Int × String) :=
  log.filterMap Happening.asked?

def since (number : Int) : History → History
  | [] => []
  | .asked other _ :: rest => if other = number then rest else since number rest
  | _ :: rest => since number rest

def decision? (log : History) (number : Int) : Option Happening :=
  (since number log).find? (·.decides number)

def Over (log : History) (number : Int) : Prop :=
  ∃ h ∈ log, h.ends number = true

section

variable {log : History} {number : Int} {method : String} {h : Happening}

theorem asked_append (log more : History) : asked (log ++ more) = asked log ++ asked more :=
  List.filterMap_append

theorem mem_fst (member : (number, method) ∈ log.asked) : number ∈ log.asked.map Prod.fst :=
  List.mem_map.mpr ⟨_, member, rfl⟩

theorem since_of_unasked (unasked : number ∉ log.asked.map Prod.fst) (more : History) :
    since number (log ++ more) = since number more := by
  induction log with
  | nil => rfl
  | cons first rest ih =>
      cases first with
      | asked other name =>
          have split : asked (.asked other name :: rest) = (other, name) :: asked rest := rfl
          rw [split, List.map_cons, List.mem_cons, not_or] at unasked
          rw [List.cons_append, since, if_neg (Ne.symm unasked.1)]
          exact ih unasked.2
      | _ => exact ih unasked

theorem since_append (known : number ∈ log.asked.map Prod.fst) (more : History) :
    since number (log ++ more) = since number log ++ more := by
  induction log with
  | nil => cases known
  | cons first rest ih =>
      cases first with
      | asked other name =>
          have split : asked (.asked other name :: rest) = (other, name) :: asked rest := rfl
          rw [List.cons_append, since, since]
          by_cases same : other = number
          · rw [if_pos same, if_pos same]
          · rw [if_neg same, if_neg same]
            rw [split, List.map_cons, List.mem_cons] at known
            exact ih (known.resolve_left (Ne.symm same))
      | _ => exact ih known

/-- What decides a request goes on to decide it; an undecided one is decided by the next thing that
does. -/
theorem decision_append (known : number ∈ log.asked.map Prod.fst) :
    decision? (log ++ [h]) number =
      (decision? log number).or (if h.decides number then some h else none) := by
  unfold decision?
  rw [since_append known, List.find?_append]
  congr 1
  by_cases decided : h.decides number = true
  · rw [List.find?_cons_of_pos decided, if_pos decided]
  · rw [List.find?_cons_of_neg decided, if_neg decided, List.find?_nil]

theorem decision_of_new (unasked : number ∉ log.asked.map Prod.fst) :
    decision? (log ++ [.asked number method]) number = none := by
  unfold decision?
  rw [since_of_unasked unasked, since, if_pos rfl, List.find?_nil]

theorem over_append : Over (log ++ [h]) number ↔ Over log number ∨ h.ends number = true := by
  unfold Over
  constructor
  · rintro ⟨other, member, ended⟩
    rcases List.mem_append.mp member with old | new
    · exact .inl ⟨other, old, ended⟩
    · rw [List.mem_singleton.mp new] at ended
      exact .inr ended
  · rintro (⟨other, member, ended⟩ | ended)
    · exact ⟨other, List.mem_append_left _ member, ended⟩
    · exact ⟨h, List.mem_append_right _ (List.mem_singleton.mpr rfl), ended⟩

theorem open_before (still : ¬Over (log ++ [h]) number) : ¬Over log number :=
  fun past => still (over_append.mpr (.inl past))

end

def dropped (log : History) (number : Int) : Bool :=
  log.any (·.drops number)

theorem dropped_append (log : History) (h : Happening) (number : Int) :
    dropped (log ++ [h]) number = (dropped log number || h.drops number) := by
  unfold dropped
  rw [List.any_append, List.any_cons, List.any_nil, Bool.or_false]

theorem over_of_dropped {log : History} {number : Int} (gone : dropped log number = true) :
    Over log number := by
  obtain ⟨h, member, off⟩ := List.any_eq_true.mp gone
  exact ⟨h, member, h.ends_of_drops off⟩

/-- A request waits: nothing has decided it, and its caller has not taken it off the table. -/
def waits (log : History) (number : Int) : Bool :=
  (decision? log number).isNone && !dropped log number

theorem waits_of_open {log : History} {number : Int} (open_ : ¬Over log number) :
    log.waits number = (log.decision? number).isNone := by
  have kept : log.dropped number = false :=
    Bool.eq_false_iff.mpr fun gone => open_ (over_of_dropped gone)
  unfold waits
  rw [kept, Bool.not_false, Bool.and_true]

theorem waits_of_decides {log : History} {number : Int} {h : Happening} (known : number ∈ log.asked.map Prod.fst)
    (decides : h.decides number = true) : waits (log ++ [h]) number = false := by
  unfold waits
  rw [decision_append known, if_pos decides]
  cases log.decision? number <;> rfl

/-- Each request has one caller, which asks first, then fails to send and withdraws, or waits until it
is done. -/
def Permits (log : History) : Happening → Prop
  | .refused number _ =>
    number ∈ log.asked.map Prod.fst ∧ (∀ failure, .refused number failure ∉ log) ∧ ¬log.Over number
  | .withdrawn number =>
    number ∈ log.asked.map Prod.fst ∧ (∃ failure, .refused number failure ∈ log) ∧ ¬log.Over number
  | .returned number method _ _ =>
    (number, method) ∈ log.asked ∧ (∀ failure, .refused number failure ∉ log) ∧ ¬log.Over number
  | _ => True

end History

/-! ### Steps -/

namespace Session

variable [Halves] {σ ω : Type} [Peer σ]

/-- One step of a caller, of the dispatcher, of the transport or of anybody else. A caller without a
time waits until its request has an outcome. Sending a message, whatever comes of it, and handling what
was taken do not touch the requests, and so does nothing that leaves the connection alone. -/
inductive Step (s : Session σ ω) : Happening → Session σ ω → Prop
  | ask (method : String) :
    Step s (.asked s.connection.nextId method)
      { s with connection := (s.connection.register method).2 }
  | refuse {number method params failure after} :
    Ends (emit (Connection.requestMessage number method params)) s (.error failure) after →
    Step s (.refused number failure) after
  | withdraw (number : Int) :
    Step s (.withdrawn number) { s with connection := s.connection.forget number }
  | await {number method timeout outcome after} :
    (timeout = .null → (s.connection.outcomes.lookup number).isSome) →
    Ends (await number method timeout) s outcome after →
    Step s (.returned number method timeout outcome) after
  | take {first rest arrival connection} : s.connection.inbox = first :: rest →
    s.connection.receive? = some (arrival, connection) →
    Step s (.taken first) { s with connection }
  | finish : s.connection.transportClosed = true →
    Step s .finished { s with connection := s.connection.finish }
  | send {message outcome after} : Ends (emit message) s outcome after → Step s .aside after
  | arrive (arrivals : List Inbound) :
    Step s .aside { s with connection := s.connection.deliver arrivals }
  | shut (closure : Closure) :
    Step s .aside { s with connection := s.connection.endTransport closure }
  | hangUp : Step s .aside { s with connection := s.connection.hangUp }
  | elsewhere {after} : after.connection = s.connection → Step s .aside after

end Session

/-- A connection on which nothing was asked. The end of its transport is in its queue only if the
transport is closed. -/
structure Connection.Fresh (c : Connection) : Prop where
  waiting : c.waiting = []
  outcomes : c.outcomes = []
  awake : c.closed = false → c.listening = true
  sealed : ∀ closure, .closure closure ∈ c.inbox → c.transportClosed = true

/-- What can happen to a session whose connection is fresh, with the session that it leads to. -/
inductive Session.Run [Halves] {σ ω : Type} [Peer σ] : History → Session σ ω → Prop
  | start {s : Session σ ω} : s.connection.Fresh → Run [] s
  | step {log : History} {h : Happening} {s after : Session σ ω} : Run log s → log.Permits h →
    s.Step h after → Run (log ++ [h]) after

/-! ### The tables of a connection -/

namespace Connection

variable [Halves]

structure Entered (log : History) (number : Int) (method : String) (c : Connection) : Prop where
  waiting : c.waiting.lookup number = if log.waits number then some method else none
  outcomes : ¬log.Over number →
    c.outcomes.lookup number = (log.decision? number).bind (·.outcome? method)

/-- The tables of a connection hold what has happened: the requests that were asked have numbers of
their own, those that wait are among them, and each has the outcome that was decided for it. -/
structure Books (log : History) (c : Connection) : Prop where
  sound : c.Sound
  numbered : ∀ entry ∈ log.asked, entry.1 < c.nextId
  distinct : (log.asked.map Prod.fst).Nodup
  known : ∀ number, log.Over number → number ∈ log.asked.map Prod.fst
  waiting : c.waiting.Sublist log.asked
  entered : ∀ number method, (number, method) ∈ log.asked → c.Entered log number method

variable {log : History} {h : Happening} {c d : Connection} {number : Int} {method : String}

theorem Fresh.books (fresh : c.Fresh) : c.Books [] := by
  refine ⟨⟨?_, ?_, fresh.awake⟩, ?_, List.nodup_nil, ?_, ?_, ?_⟩
  · simp [fresh.waiting]
  · simp [fresh.outcomes]
  · simp [History.asked]
  · rintro number ⟨_, member, _⟩
    cases member
  · rw [fresh.waiting]
    exact List.nil_sublist _
  · intro number method member
    cases member

namespace Entered

theorem idle (entered : c.Entered log number method) (known : number ∈ log.asked.map Prod.fst)
    (undecided : h.decides number = false) (kept : h.drops number = false)
    (waiting : d.waiting.lookup number = c.waiting.lookup number)
    (outcomes : d.outcomes.lookup number = c.outcomes.lookup number) :
    d.Entered (log ++ [h]) number method := by
  have decision : (log ++ [h]).decision? number = log.decision? number := by
    rw [History.decision_append known, undecided, if_neg Bool.false_ne_true, Option.or_none]
  have same : (log ++ [h]).waits number = log.waits number := by
    unfold History.waits
    rw [decision, History.dropped_append, kept, Bool.or_false]
  constructor
  · rw [waiting, same]
    exact entered.waiting
  · intro open_
    rw [outcomes, decision]
    exact entered.outcomes (History.open_before open_)

variable {message : Json}

theorem answered (entered : c.Entered log number method) (known : number ∈ log.asked.map Prod.fst)
    (answered : Desk.answered? message = some number) (waits : log.waits number = true) :
    (c.take message).2.Entered (log ++ [.taken (.message message)]) number method := by
  have decides : (Happening.taken (.message message)).decides number = true :=
    decide_eq_true answered
  have gone : (log ++ [Happening.taken (.message message)] : History).waits number = false :=
    History.waits_of_decides known decides
  have undecided : log.decision? number = none :=
    Option.isNone_iff_eq_none.mp (Bool.and_eq_true_iff.mp waits).1
  have decision := History.decision_append (h := .taken (.message message)) known
  rw [if_pos decides, undecided, Option.none_or] at decision
  have waiting : c.waiting.lookup number = some method := by
    rw [entered.waiting, if_pos waits]
  have forgotten := lookup_forgotten c number
  obtain ⟨value, index, taken⟩ := take_of_answered (c := c) answered
  rw [taken, answer_of_index index, waiting]
  dsimp only
  cases decided : outcomeOf method message with
  | none =>
      refine ⟨?_, fun still => ?_⟩
      · rw [gone, if_neg Bool.false_ne_true]
        exact forgotten
      · have before := entered.outcomes (History.open_before still)
        rw [undecided] at before
        rw [decision]
        exact before.trans decided.symm
  | some outcome =>
      refine ⟨?_, fun still => ?_⟩
      · rw [gone, if_neg Bool.false_ne_true]
        exact forgotten
      · have before := entered.outcomes (History.open_before still)
        rw [undecided] at before
        change (c.outcomes ++ [(number, outcome)]).lookup number = _
        rw [List.lookup_append, before, List.lookup_cons_self, decision]
        exact decided.symm

theorem late (entered : c.Entered log number method) (known : number ∈ log.asked.map Prod.fst)
    (answered : Desk.answered? message = some number) (waits : log.waits number = false) :
    (c.take message).2.Entered (log ++ [.taken (.message message)]) number method := by
  have decides : (Happening.taken (.message message)).decides number = true :=
    decide_eq_true answered
  have gone : (log ++ [Happening.taken (.message message)] : History).waits number = false :=
    History.waits_of_decides known decides
  have waiting : c.waiting.lookup number = none := by
    rw [entered.waiting, waits, if_neg Bool.false_ne_true]
  obtain ⟨value, index, taken⟩ := take_of_answered (c := c) answered
  rw [taken, answer_of_index index, waiting]
  refine ⟨?_, fun still => ?_⟩
  · rw [waiting, gone, if_neg Bool.false_ne_true]
  · have open_ := History.open_before still
    have settled := History.waits_of_open open_
    rw [waits] at settled
    rw [entered.outcomes open_, History.decision_append known]
    cases before : log.decision? number with
    | none =>
        rw [before] at settled
        cases settled
    | some first => rfl

end Entered

theorem Books.lookup_waiting (books : c.Books log) :
    c.waiting.lookup number = some method ↔ (number, method) ∈ c.waiting := by
  have distinct : (c.waiting.map Prod.fst).Nodup :=
    (books.waiting.map Prod.fst).nodup books.distinct
  constructor
  · intro found
    obtain ⟨before, rest, parted, _⟩ := List.lookup_eq_some_iff.mp found
    rw [parted]
    exact List.mem_append_right _ List.mem_cons_self
  · intro member
    obtain ⟨before, rest, parted⟩ := List.append_of_mem member
    refine List.lookup_eq_some_iff.mpr ⟨before, rest, parted, fun entry earlier => ?_⟩
    refine bne_iff_ne.mpr fun same => ?_
    rw [parted, List.map_append, List.nodup_append] at distinct
    refine distinct.2.2 entry.1 (List.mem_map_of_mem earlier) number ?_ same.symm
    exact List.mem_cons_self

theorem Books.mem_waiting (books : c.Books log) :
    (number, method) ∈ c.waiting ↔ (number, method) ∈ log.asked ∧ log.waits number = true := by
  constructor
  · intro member
    have known := books.waiting.subset member
    have entered := (books.entered number method known).waiting
    rw [books.lookup_waiting.mpr member] at entered
    by_cases waits : log.waits number = true
    · exact ⟨known, waits⟩
    · rw [if_neg waits] at entered
      cases entered
  · rintro ⟨known, waits⟩
    have entered := (books.entered number method known).waiting
    rw [if_pos waits] at entered
    exact books.lookup_waiting.mp entered

/-! ### What each step does to the tables -/

namespace Books

theorem unasked (books : c.Books log) : c.nextId ∉ log.asked.map Prod.fst := by
  intro member
  obtain ⟨entry, known, same⟩ := List.mem_map.mp member
  have below := books.numbered entry known
  omega

theorem ask (books : c.Books log) (method : String) :
    (c.register method).2.Books (log ++ [.asked c.nextId method]) := by
  have split : History.asked (log ++ [.asked c.nextId method]) =
      log.asked ++ [(c.nextId, method)] := History.asked_append _ _
  refine ⟨(tended_register c method).sound books.sound, ?_, ?_, ?_, ?_, ?_⟩
  · intro entry member
    change entry.1 < c.nextId + 1
    rw [split] at member
    rcases List.mem_append.mp member with old | new
    · have below := books.numbered entry old
      omega
    · rw [List.mem_singleton.mp new]
      exact Int.lt_succ c.nextId
  · rw [split, List.map_append, List.nodup_append]
    refine ⟨books.distinct, List.pairwise_singleton _ _, fun number old other new => ?_⟩
    rw [List.mem_singleton.mp new]
    rintro rfl
    exact books.unasked old
  · intro number past
    rw [split, List.map_append]
    rcases History.over_append.mp past with old | new
    · exact List.mem_append_left _ (books.known number old)
    · cases new
  · rw [split]
    exact books.waiting.append (List.Sublist.refl _)
  · intro number name member
    rw [split] at member
    rcases List.mem_append.mp member with old | new
    · have different : number ≠ c.nextId := fun same => books.unasked (same ▸ History.mem_fst old)
      refine (books.entered number name old).idle (History.mem_fst old) rfl rfl ?_ rfl
      change (c.waiting ++ [(c.nextId, method)]).lookup number = _
      rw [List.lookup_append, List.lookup_cons, beq_eq_false_iff_ne.mpr different]
      exact Option.or_none
    · cases List.mem_singleton.mp new
      have awaits := awaits_register books.sound method
      have kept : log.dropped c.nextId = false := Bool.eq_false_iff.mpr fun gone =>
        books.unasked (books.known _ (History.over_of_dropped gone))
      have undecided : History.decision? (log ++ [.asked c.nextId method]) c.nextId = none :=
        History.decision_of_new books.unasked
      refine ⟨?_, fun _ => ?_⟩
      · have waits : (log ++ [Happening.asked c.nextId method] : History).waits c.nextId = true := by
          unfold History.waits
          rw [undecided, History.dropped_append, kept]
          rfl
        rw [awaits.waiting, if_pos waits]
      · rw [awaits.outcomes, undecided]
        rfl

theorem go (books : c.Books log) (plain : h.asked? = none)
    (known : ∀ number, h.ends number = true → number ∈ log.asked.map Prod.fst) (sound : d.Sound)
    (same : d.nextId = c.nextId) (fewer : d.waiting.Sublist c.waiting)
    (each : ∀ number method, (number, method) ∈ log.asked →
      d.Entered (log ++ [h]) number method) : d.Books (log ++ [h]) := by
  have asked : History.asked (log ++ [h]) = log.asked := by
    have nothing : History.asked [h] = [] := by
      rw [History.asked, List.filterMap_cons_none plain, List.filterMap_nil]
    rw [History.asked_append, nothing, List.append_nil]
  refine ⟨sound, ?_, ?_, ?_, ?_, ?_⟩
  · rw [asked, same]
    exact books.numbered
  · rw [asked]
    exact books.distinct
  · intro number past
    rw [asked]
    rcases History.over_append.mp past with old | new
    · exact books.known number old
    · exact known number new
  · rw [asked]
    exact fewer.trans books.waiting
  · intro number method member
    rw [asked] at member
    exact each number method member

theorem idle (books : c.Books log) (idle : h.Idle) (nextId : d.nextId = c.nextId)
    (waiting : d.waiting = c.waiting) (outcomes : d.outcomes = c.outcomes)
    (closed : d.closed = c.closed) (listening : d.listening = c.listening) :
    d.Books (log ++ [h]) := by
  refine books.go idle.plain (fun number ended => ?_) ⟨?_, ?_, ?_⟩ nextId ?_ fun number method member => ?_
  · rw [idle.open_] at ended
    cases ended
  · rw [waiting, nextId]
    exact books.sound.waiting
  · rw [outcomes, nextId]
    exact books.sound.outcomes
  · rw [closed, listening]
    exact books.sound.awake
  · exact waiting ▸ List.Sublist.refl _
  · refine (books.entered number method member).idle (History.mem_fst member) (idle.undecided _)
      (idle.kept _) ?_ ?_
    · rw [waiting]
    · rw [outcomes]

theorem withdraw (books : c.Books log) (known : number ∈ log.asked.map Prod.fst) :
    (c.forget number).Books (log ++ [.withdrawn number]) := by
  refine books.go rfl (fun other ended => ?_) ((tended_forget c number).sound books.sound) rfl
    List.filter_sublist fun other method member => ?_
  · rw [← of_decide_eq_true ended]
    exact known
  · have entered := books.entered other method member
    have dropped := lookup_forget c number other
    by_cases same : other = number
    · subst same
      have gone : (log ++ [Happening.withdrawn other] : History).waits other = false := by
        unfold History.waits
        rw [History.dropped_append]
        simp [Happening.drops]
      refine ⟨?_, fun open_ => absurd ?_ open_⟩
      · rw [dropped, gone, if_pos rfl, if_neg Bool.false_ne_true]
      · exact History.over_append.mpr (.inr (decide_eq_true rfl))
    · have different : number ≠ other := Ne.symm same
      refine entered.idle (History.mem_fst member) rfl (decide_eq_false different) ?_ rfl
      rw [dropped, if_neg same]

/-- A caller is done with waiting: it has fetched the outcome of its request, its time is over, or its
time cannot be waited for. -/
theorem fetch (books : c.Books log) {timeout : Json} {outcome : Outcome Json}
    (member : (number, method) ∈ log.asked) (open_ : ¬log.Over number)
    (kept : (c.outcomes.lookup number).isSome ∨ (Session.waitingTime timeout).isOk = false) :
    (c.fetch number).2.Books (log ++ [.returned number method timeout outcome]) := by
  refine books.go rfl (fun other ended => ?_) ((tended_fetch c number).sound books.sound) rfl
    (List.Sublist.refl _) fun other name asked => ?_
  · rw [← of_decide_eq_true ended]
    exact History.mem_fst member
  · have entered := books.entered other name asked
    by_cases same : other = number
    · subst same
      have settled : (log ++ [Happening.returned other method timeout outcome] : History).waits other =
          log.waits other := by
        unfold History.waits
        rw [History.decision_append (History.mem_fst asked), History.dropped_append]
        rcases kept with found | endless
        · have decided : (log.decision? other).isNone = false := by
            rw [entered.outcomes open_] at found
            cases undecided : log.decision? other with
            | none =>
                rw [undecided] at found
                cases found
            | some first => rfl
          simp [Happening.decides, decided]
        · simp [Happening.decides, Happening.drops, endless]
      refine ⟨?_, fun still => absurd ?_ still⟩
      · rw [settled]
        exact entered.waiting
      · exact History.over_append.mpr (.inr (decide_eq_true rfl))
    · have different : number ≠ other := Ne.symm same
      refine entered.idle (History.mem_fst asked) rfl ?_ rfl ?_
      · simp [Happening.drops, different]
      · rw [lookup_fetch, if_neg same]

theorem expire (books : c.Books log) {timeout : Json} {outcome : Outcome Json}
    (member : (number, method) ∈ log.asked) (waited : (Session.waitingTime timeout).isOk = true) :
    ((c.fetch number).2.forget number).Books (log ++ [.returned number method timeout outcome]) := by
  have dropped (other : Int) : ((c.fetch number).2.forget number).waiting.lookup other =
      if other = number then none else c.waiting.lookup other := lookup_forget _ _ _
  have sound := (tended_forget _ number).sound ((tended_fetch c number).sound books.sound)
  refine books.go rfl (fun other ended => ?_) sound rfl List.filter_sublist fun other name asked => ?_
  · rw [← of_decide_eq_true ended]
    exact History.mem_fst member
  · by_cases same : other = number
    · subst same
      have gone : (log ++ [Happening.returned other method timeout outcome] : History).waits other =
          false := by
        unfold History.waits
        rw [History.dropped_append]
        simp [Happening.drops, waited]
      refine ⟨?_, fun still => absurd ?_ still⟩
      · rw [dropped, gone, if_pos rfl, if_neg Bool.false_ne_true]
      · exact History.over_append.mpr (.inr (decide_eq_true rfl))
    · have different : number ≠ other := Ne.symm same
      refine (books.entered other name asked).idle (History.mem_fst asked) rfl ?_ ?_ ?_
      · simp [Happening.drops, different]
      · rw [dropped, if_neg same]
      · exact (lookup_fetch c number other).trans (if_neg same)

theorem take (books : c.Books log) (message : Json) (rest : List Inbound) :
    (({ c with inbox := rest } : Connection).take message).2.Books
      (log ++ [.taken (.message message)]) := by
  have shorter : ({ c with inbox := rest } : Connection).Books log :=
    ⟨⟨books.sound.waiting, books.sound.outcomes, books.sound.awake⟩, books.numbered, books.distinct,
      books.known, books.waiting, fun number method member =>
        ⟨(books.entered number method member).waiting, (books.entered number method member).outcomes⟩⟩
  generalize ({ c with inbox := rest } : Connection) = c at shorter
  have sound := (tended_take c message).sound shorter.sound
  obtain ⟨nextId, fewer⟩ : (c.take message).2.nextId = c.nextId ∧
      (c.take message).2.waiting.Sublist c.waiting := by
    cases answered : Desk.answered? message with
    | none =>
        rw [take_of_unanswered answered]
        exact ⟨rfl, List.Sublist.refl _⟩
    | some number =>
        obtain ⟨value, index, taken⟩ := take_of_answered (c := c) answered
        rw [taken, answer_of_index index]
        split
        · exact ⟨rfl, List.Sublist.refl _⟩
        · split
          · exact ⟨rfl, List.filter_sublist⟩
          · exact ⟨rfl, List.filter_sublist⟩
  refine shorter.go rfl nofun sound nextId fewer fun number method member => ?_
  have entered := shorter.entered number method member
  have known := History.mem_fst member
  by_cases answered : Desk.answered? message = some number
  · cases waits : log.waits number with
    | true => exact entered.answered known answered waits
    | false => exact entered.late known answered waits
  · have spared := spared_take c answered
    exact entered.idle known (decide_eq_false answered) rfl spared.waiting spared.outcomes

theorem fail (books : c.Books log) {reason : Problem} (plain : h.asked? = none)
    (open_ : ∀ number, h.ends number = false) (decides : ∀ number, h.decides number = true)
    (outcome : ∀ method, h.outcome? method = some (.error (.problem reason))) (sound : d.Sound)
    (same : d.nextId = c.nextId) (waiting : d.waiting = [])
    (outcomes : d.outcomes = (c.failAll reason).outcomes) : d.Books (log ++ [h]) := by
  refine books.go plain (fun number ended => ?_) sound same ?_ fun number method member => ?_
  · rw [open_] at ended
    cases ended
  · rw [waiting]
    exact List.nil_sublist _
  · have known := History.mem_fst member
    have entered := books.entered number method member
    have gone : (log ++ [h] : History).waits number = false :=
      History.waits_of_decides known (decides number)
    refine ⟨?_, fun still => ?_⟩
    · rw [waiting, gone, if_neg Bool.false_ne_true]
      rfl
    · have open_ := History.open_before still
      rw [outcomes, lookup_failAll, entered.waiting, entered.outcomes open_,
        History.waits_of_open open_, History.decision_append known, if_pos (decides number)]
      cases log.decision? number with
      | none => exact (outcome method).symm
      | some first => exact Option.or_none

theorem deliver (books : c.Books log) (arrivals : List Inbound) :
    (c.deliver arrivals).Books (log ++ [.aside]) :=
  books.idle Happening.idle_aside rfl rfl rfl rfl rfl

end Books

end Connection

/-! ### What a run does to the tables -/

namespace Session

theorem Step.taken [Halves] {σ ω : Type} [Peer σ] {s after : Session σ ω} {message : Json}
    (stepped : s.Step (.taken (.message message)) after) :
    ∃ rest, s.connection.inbox = .message message :: rest ∧
      after.connection = (({ s.connection with inbox := rest } : Connection).take message).2 := by
  cases stepped with
  | take queue arrived =>
      rcases Connection.received arrived with ⟨_, ⟨_, rest, known, taken⟩ | ⟨_, _, known, _⟩⟩
      · cases queue.symm.trans known
        exact ⟨_, queue, (congrArg Prod.snd taken).symm⟩
      · cases queue.symm.trans known

variable {σ ω : Type} {s after : Session σ ω} {number : Int} {method : String} {timeout : Json}
  {outcome : Outcome Json}

variable [Halves] {log : History} {h : Happening}

theorem books_of_await (books : s.connection.Books log) (permits : log.Permits (.returned number
    method timeout outcome)) (awaited : Awaited number method timeout s outcome after) :
    after.connection.Books (log ++ [.returned number method timeout outcome]) := by
  obtain ⟨member, _, open_⟩ := permits
  cases awaited with
  | fetched found => exact books.fetch member open_ (.inl (by rw [found]; rfl))
  | late _ waited => exact books.expire member (by rw [waited]; rfl)
  | endless _ waited => exact books.fetch member open_ (.inr (by rw [waited]; rfl))

theorem books_of_take {first : Inbound} {rest : List Inbound} {arrival : Arrival}
    {connection : Connection} (books : s.connection.Books log)
    (queue : s.connection.inbox = first :: rest)
    (arrived : s.connection.receive? = some (arrival, connection)) :
    connection.Books (log ++ [.taken first]) := by
  have sound := (Connection.tended_receive arrived).sound books.sound
  rcases Connection.received arrived with ⟨_, ⟨message, rest, known, taken⟩ |
    ⟨closure, rest, known, ended⟩⟩
  · cases queue.symm.trans known
    rw [← show _ = connection from congrArg Prod.snd taken]
    exact books.take message rest
  · cases queue.symm.trans known
    have last : connection = s.connection.atEnd rest
        (.closed ("Connection closed: " ++ closure.reason)) := (congrArg Prod.snd ended).symm
    subst last
    exact books.fail rfl (fun _ => rfl) (fun _ => rfl) (fun _ => rfl) sound rfl rfl rfl

variable [Peer σ]

omit [Halves] in
/-- Sending a message leaves the connection as it is, or queues what the server sends back. -/
theorem connection_of_emit {message : Json} {outcome : Outcome Unit}
    (emitted : Ends (emit message) s outcome after) :
    after.connection = s.connection ∨
      outcome = .ok () ∧ ∃ arrivals, after.connection = s.connection.deliver arrivals := by
  rcases ends_emit.mp emitted with ⟨_, rfl, _⟩ | ⟨_, _, _, rfl, _⟩ | ⟨_, _, rfl, sent⟩
  · exact .inl rfl
  · exact .inl rfl
  · exact .inr ⟨sent, _, rfl⟩

theorem Run.books (run : Run log s) : s.connection.Books log := by
  induction run with
  | start fresh => exact fresh.books
  | step run permits stepped ih =>
      cases stepped with
      | ask method => exact ih.ask method
      | refuse emitted =>
          rcases connection_of_emit emitted with same | ⟨impossible, _⟩
          · rw [same]
            exact ih.idle (Happening.idle_refused _ _) rfl rfl rfl rfl rfl
          · cases impossible
      | withdraw number => exact ih.withdraw permits.1
      | await _ ended => exact books_of_await ih permits (awaited_of_ends ended)
      | take queue arrived => exact books_of_take ih queue arrived
      | finish _ =>
          have sound := (Connection.tended_finish _).sound ih.sound
          exact ih.fail rfl (fun _ => rfl) (fun _ => rfl) (fun _ => rfl) sound rfl rfl rfl
      | send emitted =>
          rcases connection_of_emit emitted with same | ⟨_, _, same⟩
          · rw [same]
            exact ih.idle Happening.idle_aside rfl rfl rfl rfl rfl
          · rw [same]
            exact ih.deliver _
      | arrive arrivals => exact ih.deliver arrivals
      | shut closure =>
          unfold Connection.endTransport
          dsimp only
          split
          · exact ih.idle Happening.idle_aside rfl rfl rfl rfl rfl
          · exact ih.deliver _
      | hangUp =>
          unfold Connection.hangUp Connection.endTransport
          dsimp only
          split
          · exact ih.idle Happening.idle_aside rfl rfl rfl rfl rfl
          · exact ih.idle Happening.idle_aside rfl rfl rfl rfl rfl
      | elsewhere same =>
          rw [← same] at ih
          exact ih.idle Happening.idle_aside rfl rfl rfl rfl rfl

theorem Run.split {before rest : History} (run : Run (before ++ h :: rest) s) :
    ∃ mid last : Session σ ω, Run before mid ∧ before.Permits h ∧ mid.Step h last := by
  generalize whole : before ++ h :: rest = log at run
  induction run generalizing rest with
  | start => exact absurd whole (by simp)
  | @step log latest mid last run permits stepped ih =>
      rcases List.eq_nil_or_concat rest with rfl | ⟨front, final, rfl⟩
      · obtain ⟨rfl, same⟩ := List.append_inj' whole rfl
        cases same
        exact ⟨mid, last, run, permits, stepped⟩
      · rw [List.concat_eq_append, ← List.cons_append, ← List.append_assoc] at whole
        obtain ⟨same, _⟩ := List.append_inj' whole rfl
        exact ih same

end Session

end Scalpel
