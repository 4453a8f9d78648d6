/-!
# Durations

Durations are counted in nanoseconds.  Settings and requests give whole milliseconds, and timers
go off at whole milliseconds.

Main definitions:

- `Duration.ofMillis`: a number of milliseconds.
- `Duration.ceilMillis`: the whole milliseconds that cover a duration.
-/

namespace TerminalGateway.Duration

/-- The number of nanoseconds in a millisecond. -/
def milli : Nat :=
  1000000

/-- A number of milliseconds. -/
def ofMillis (count : Nat) : Nat :=
  count * milli

/-- The least number of milliseconds that are no shorter than a duration. -/
def ceilMillis (nanos : Nat) : Nat :=
  (nanos + (milli - 1)) / milli

example : ceilMillis (ofMillis 7) = 7 := by decide
example : ceilMillis 1 = 1 := by decide

end TerminalGateway.Duration
