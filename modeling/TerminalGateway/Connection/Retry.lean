import TerminalGateway.Duration
import TerminalGateway.Number.Binary64
import TerminalGateway.Number.Range

/-!
# Retry policies

After an unexpected end the gateway connects again.  A policy says how long it waits before each
attempt and after how many attempts it gives up.

Main definitions:

- `RetryPolicy`: first and greatest delay, growth and number of attempts.
- `RetryPolicy.delay?`: the delay before an attempt, nothing when there is to be none.
-/

namespace TerminalGateway.Connection

open TerminalGateway.Number (Binary64)

/-- When the gateway connects again.  Unless told otherwise it does so at once and for ever. -/
structure RetryPolicy where
  /-- The delay before the first attempt, in milliseconds. -/
  initialDelay : Nat := 0
  /-- The greatest delay, in milliseconds. -/
  maxDelay : Nat := 30000
  /-- The growth of the delay from one attempt to the next. -/
  multiplier : Binary64 := .ofNat 2
  /-- The number of attempts, without bound when absent. -/
  maxRetries : Option Nat := none
deriving DecidableEq

namespace RetryPolicy

/-- The delay grows up to this attempt. -/
def maxGrowth : Nat :=
  32

/-- The delay in nanoseconds that the growth alone would give, nothing when it has no bound. -/
def grownDelay? (policy : RetryPolicy) (attempt : Nat) : Option Nat :=
  let factor := (Binary64.max policy.multiplier .one).pow (min attempt maxGrowth)
  ((Binary64.ofNat (Duration.ofMillis policy.initialDelay)).mul factor).round?

/-- The greatest delay in nanoseconds, as a binary number. -/
def cap (policy : RetryPolicy) : Nat :=
  (Binary64.ofNat (Duration.ofMillis policy.maxDelay)).round?.getD 0

/-- The delay before an attempt in nanoseconds; attempts are counted from zero. -/
def delay? (policy : RetryPolicy) (attempt : Nat) : Option Nat :=
  if policy.maxRetries.any (· ≤ attempt) then none
  else if policy.initialDelay = 0 then some 0
  else
    let delay := match policy.grownDelay? attempt with
      | some grown => min grown policy.cap
      | none => policy.cap
    some (min delay (Number.limit64 - 1))

example : ({ initialDelay := 1000 } : RetryPolicy).delay? 1 = some 2000000000 := by
  decide +kernel
example : ({ maxRetries := some 0 } : RetryPolicy).delay? 0 = none := by decide +kernel

end RetryPolicy

end TerminalGateway.Connection
