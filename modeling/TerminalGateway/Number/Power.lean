/-!
# Powers

The powers that decimals and binary numbers are scaled by.

Main definitions:

- `tenPow`, `twoPow`: powers of ten and of two.
- `tenPow_succ`, `twoPow_succ`: the next power.
- `tenPow_pos`, `twoPow_pos`: no power is zero.
-/

namespace TerminalGateway.Number

/-- A power of ten. -/
def tenPow (n : Nat) : Nat :=
  Nat.pow 10 n

/-- A power of two. -/
def twoPow (n : Nat) : Nat :=
  Nat.pow 2 n

/-- The next power of ten. -/
theorem tenPow_succ (n : Nat) : tenPow (n + 1) = tenPow n * 10 :=
  rfl

/-- The next power of two. -/
theorem twoPow_succ (n : Nat) : twoPow (n + 1) = twoPow n * 2 :=
  rfl

/-- No power of ten is zero. -/
theorem tenPow_pos (n : Nat) : 0 < tenPow n := by
  induction n with
  | zero => exact Nat.one_pos
  | succ n ih => exact Nat.mul_pos ih (by decide)

/-- No power of two is zero. -/
theorem twoPow_pos (n : Nat) : 0 < twoPow n := by
  induction n with
  | zero => exact Nat.one_pos
  | succ n ih => exact Nat.mul_pos ih (by decide)

end TerminalGateway.Number
