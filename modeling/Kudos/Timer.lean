import Kudos.Number.Binary64

/-!
# Timers

A timer runs a callback once its delay has passed, unless it is cancelled before. All timers that
were ever made are kept in one list and known by their places in it, so that a stale timer can still
be fired; firing one that was cancelled does nothing. What a timer is for is a parameter.

A slot holds at most one timer of one kind. Scheduling cancels what the slot held before, so a timer
that has been superseded never runs its callback.
-/

namespace Kudos

/-- A timer. -/
structure Timer (α : Type) where
  /-- The seconds after which it fires. -/
  delay : Number
  /-- What it is for. -/
  purpose : α
  /-- Whether it has been started. -/
  started : Bool := false
  /-- Whether it has been cancelled. -/
  cancelled : Bool := false
  deriving Repr, DecidableEq

namespace Timer

variable {α : Type}

/-- The timer, running. -/
def start (t : Timer α) : Timer α :=
  { t with started := true }

/-- The timer, cancelled. -/
def cancel (t : Timer α) : Timer α :=
  { t with cancelled := true }

/-- Whether the timer runs its callback when it fires. -/
def isLive (t : Timer α) : Bool :=
  t.started && !t.cancelled

end Timer

/-- The timers that were ever made, in the order in which they were made. -/
abbrev Timers (α : Type) := List (Timer α)

namespace Timers

variable {α : Type}

/-- What the callback of a timer is for, if the timer runs it when it fires. -/
def firing? (ts : Timers α) (i : Nat) : Option α :=
  match ts[i]? with
  | some t => if t.isLive then some t.purpose else none
  | none => none

end Timers

/-- The place of the one pending timer of a kind. -/
structure TimerSlot (α : Type) where
  /-- The delay of the timers that it makes. -/
  delay : Number
  /-- What they are for. -/
  purpose : α
  /-- The place of the pending timer among all timers. -/
  current : Option Nat := none
  deriving Repr, DecidableEq

namespace TimerSlot

variable {α : Type}

/-- Whether a timer is pending. -/
def active (s : TimerSlot α) : Bool :=
  s.current.isSome

/-- Cancels the pending timer. -/
def stop (s : TimerSlot α) (ts : Timers α) : TimerSlot α × Timers α :=
  match s.current with
  | none => (s, ts)
  | some i => ({ s with current := none }, ts.modify i Timer.cancel)

/-- Makes and starts a timer in place of the pending one. -/
def schedule (s : TimerSlot α) (ts : Timers α) : TimerSlot α × Timers α :=
  let (s, ts) := s.stop ts
  let made : Timer α := { delay := s.delay, purpose := s.purpose }
  ({ s with current := some ts.length }, ts ++ [made.start])

/-- After a stop no timer is pending. -/
theorem current_stop (s : TimerSlot α) (ts : Timers α) : (s.stop ts).1.current = none := by
  unfold stop
  split <;> simp_all

/-- A stop makes no timer. -/
theorem length_stop (s : TimerSlot α) (ts : Timers α) : (s.stop ts).2.length = ts.length := by
  unfold stop
  split <;> simp

/-- The timer that was scheduled last is the pending one. -/
theorem current_schedule (s : TimerSlot α) (ts : Timers α) :
    (s.schedule ts).1.current = some ts.length := by
  simp [schedule, length_stop]

/-- Scheduling makes one timer. -/
theorem length_schedule (s : TimerSlot α) (ts : Timers α) :
    (s.schedule ts).2.length = ts.length + 1 := by
  simp [schedule, length_stop]

end TimerSlot

/-- A timer with a thread of its own, which waits for the delay and then runs the callback. -/
structure Countdown where
  /-- Whether the thread has been started; it is started at most once. -/
  started : Bool := false
  /-- Whether the thread is still waiting. -/
  waiting : Bool := false
  /-- Whether the callback has been run. -/
  fired : Bool := false
  deriving Repr, DecidableEq

namespace Countdown

/-- Starts the thread, if it has not been started yet. -/
def start (c : Countdown) : Countdown :=
  if c.started then c else { c with started := true, waiting := true }

/-- Ends the thread before it runs the callback. -/
def cancel (c : Countdown) : Countdown :=
  { c with waiting := false }

/-- Marks that the callback is run. -/
def run (c : Countdown) : Countdown :=
  { c with fired := true }

/-- Whether the callback is still to come. -/
def pending (c : Countdown) : Bool :=
  c.waiting && !c.fired

end Countdown

end Kudos
