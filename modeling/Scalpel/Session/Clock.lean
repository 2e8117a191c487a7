/-!
A clock that is moved by hand. Calls are scheduled on it, once or again and again; moving the clock
makes those calls that become due, the earliest first and of equally early ones the one scheduled
first.
-/

set_option autoImplicit false

namespace Scalpel

/-- A scheduled call. A periodic one has an interval. -/
structure ScheduledCall (τ : Type) where
  id : Nat
  due : Float
  interval : Option Float
  task : τ

/-- A clock with the calls scheduled on it, in the order of their scheduling. -/
structure Clock (τ : Type) where
  now : Float := 1000.0
  nextId : Nat := 0
  calls : List (ScheduledCall τ) := []

namespace Clock

variable {τ : Type}

def schedule (c : Clock τ) (delay : Float) (interval : Option Float) (task : τ) : Nat × Clock τ :=
  (c.nextId,
    { c with
      nextId := c.nextId + 1
      calls := c.calls ++ [{ id := c.nextId, due := c.now + delay, interval, task }] })

def later (c : Clock τ) (delay : Float) (task : τ) : Nat × Clock τ :=
  c.schedule delay none task

def every (c : Clock τ) (interval : Float) (task : τ) : Nat × Clock τ :=
  c.schedule interval (some interval) task

def cancel (c : Clock τ) (id : Nat) : Clock τ :=
  { c with calls := c.calls.filter fun call => call.id ≠ id }

def pendingOnce (c : Clock τ) : Nat :=
  (c.calls.filter fun call => call.interval.isNone).length

def earliest? (c : Clock τ) (target : Float) : Option (ScheduledCall τ) :=
  c.calls.foldl (fun best call =>
    if call.due ≤ target then
      match best with
      | none => some call
      | some found => if call.due < found.due then some call else best
    else best) none

def afterCall (made : ScheduledCall τ) : List (ScheduledCall τ) → List (ScheduledCall τ)
  | [] => []
  | call :: rest =>
    if call.id = made.id then
      match call.interval with
      | none => rest
      | some interval => { call with due := call.due + interval } :: rest
    else call :: afterCall made rest

/-- The next call that is due by a time is taken and the clock moves to it, never backwards. -/
def next? (c : Clock τ) (target : Float) : Option (τ × Clock τ) :=
  (c.earliest? target).map fun call =>
    (call.task,
      { c with
        now := if c.now < call.due then call.due else c.now
        calls := afterCall call c.calls })

def callsBy (c : Clock τ) (target : Float) : Nat → Nat
  | 0 => 0
  | budget + 1 =>
    match c.next? target with
    | none => 0
    | some (_, c) => c.callsBy target budget + 1

/-- Up to a number of calls are made within a time on a new clock with one scheduled call. A delay that
is no number is no delay. -/
def callsWithin (limit delay : Float) (periodic cancelled : Bool) (budget : Nat) : Nat :=
  let delay := if delay.isNaN then 0.0 else delay
  let new : Clock Unit := {}
  let (id, c) := if periodic then new.every delay () else new.later delay ()
  let c := if cancelled then c.cancel id else c
  c.callsBy (c.now + limit) budget

end Clock

end Scalpel
