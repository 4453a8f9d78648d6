import TerminalGateway.Duration

/-!
# A clock that is moved by hand

Timers are set to deadlines in nanoseconds and go off at the first whole millisecond that is not
before.  A periodic timer is set again by its own deadline, so rounding does not add up.

Main definitions:

- `Timer`, `Clock`: what goes off when, and the time.
- `Clock.due?`: the timer that goes off first.
-/

namespace TerminalGateway.Simulation

/-- What a timer is for. -/
inductive Alarm where
  | sweep
  | tick (generation : Nat)
  | reconnect (generation : Nat)
deriving Repr, DecidableEq

/-- A timer that has been set. -/
structure Timer where
  /-- When the timer is to go off, in nanoseconds. -/
  deadline : Nat
  alarm : Alarm
  /-- The time between two deadlines, for a timer that is set again. -/
  period : Option Nat := none
deriving Repr, DecidableEq

namespace Timer

/-- When a timer goes off. -/
def goesOff (timer : Timer) : Nat :=
  Duration.ofMillis (Duration.ceilMillis timer.deadline)

/-- The timer as it is set again. -/
def again? (timer : Timer) : Option Timer :=
  timer.period.map fun period => { timer with deadline := timer.deadline + period }

end Timer

/-- The time, and the timers in the order in which they were set. -/
structure Clock where
  /-- Nanoseconds since the start. -/
  now : Nat := 0
  timers : List Timer := []
deriving Repr, DecidableEq

namespace Clock

/-- Sets a timer to a time from now. -/
def set (clock : Clock) (delay : Nat) (alarm : Alarm) (period : Option Nat) : Clock :=
  { clock with timers := clock.timers ++ [⟨clock.now + delay, alarm, period⟩] }

/-- Takes back all timers for a purpose. -/
def cancel (clock : Clock) (alarm : Alarm) : Clock :=
  { clock with timers := clock.timers.filter fun timer => timer.alarm ≠ alarm }

/-- The earlier of two timers, the first of two that go off together. -/
def earlier (first second : Timer) : Timer :=
  if second.goesOff < first.goesOff then second else first

/-- The timer that goes off first, if that is no later than a given time. -/
def due? (clock : Clock) (horizon : Nat) : Option Timer :=
  match clock.timers with
  | [] => none
  | first :: rest =>
      let timer := rest.foldl earlier first
      if timer.goesOff ≤ horizon then some timer else none

/-- The clock when a timer goes off.  A periodic timer is set again. -/
def ring (clock : Clock) (timer : Timer) : Clock where
  now := max clock.now timer.goesOff
  timers := clock.timers.erase timer ++ timer.again?.toList

end Clock

end TerminalGateway.Simulation
