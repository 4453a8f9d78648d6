import TerminalGateway.Connection.State
import TerminalGateway.Connection.Retry

/-!
# The life of a connection

The state of the connection, the number of the current session and the attempts made since the
last session was open.  Everything that a session causes carries its number, so what an older
session still causes can be told apart and left alone.

Main definitions:

- `Lifecycle`: state, session number and attempts.
- `Lifecycle.apply`: the effect of a trigger; one that is out of place changes nothing.
- `Lifecycle.nextGeneration`: the start of a new session.
- `Lifecycle.scheduleRetry`, `Lifecycle.resetRetries`: the count of attempts.
-/

namespace TerminalGateway.Connection

/-- Where a connection stands. -/
structure Lifecycle where
  policy : RetryPolicy
  state : State := .disconnected
  /-- The number of the current session. -/
  generation : Nat := 0
  /-- The attempts to connect again since the last open session. -/
  attempts : Nat := 0
deriving DecidableEq

namespace Lifecycle

/-- The state after a trigger, nothing for one that is out of place, and the life after it. -/
def apply (life : Lifecycle) (trigger : Trigger) : Option State × Lifecycle :=
  match next? life.state trigger with
  | some state => (some state, { life with state := state })
  | none => (none, life)

/-- The life with a new session; all earlier ones are over. -/
def nextGeneration (life : Lifecycle) : Lifecycle :=
  { life with generation := life.generation + 1 }

/-- The current session has this number. -/
def isCurrent (life : Lifecycle) (generation : Nat) : Bool :=
  generation = life.generation

/-- The current session is the one with the current number. -/
@[simp] theorem isCurrent_iff (life : Lifecycle) (generation : Nat) :
    life.isCurrent generation = true ↔ generation = life.generation :=
  decide_eq_true_iff

/-- The delay before the next attempt in nanoseconds, nothing when the policy gives up, and the
life with the attempt counted. -/
def scheduleRetry (life : Lifecycle) : Option Nat × Lifecycle :=
  match life.policy.delay? life.attempts with
  | some delay => (some delay, { life with attempts := life.attempts + 1 })
  | none => (none, life)

/-- The life with no attempts counted, as after an open session. -/
def resetRetries (life : Lifecycle) : Lifecycle :=
  { life with attempts := 0 }

end Lifecycle

end TerminalGateway.Connection
