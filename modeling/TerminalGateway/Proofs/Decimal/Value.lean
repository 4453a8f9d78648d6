import TerminalGateway.Proofs.Decimal.Normal
import TerminalGateway.Proofs.Number.Rounding

/-!
# Values of decimals

The value of a decimal is its mantissa with its sign, divided by the power of ten for its places.
Trailing places make no difference to it, and decimals are compared by it.

Main definitions:

- `Decimal.value`: the value as a ratio.

Main results:

- Theorem `value_le_iff`: decimals are compared by their values.
- Theorem `value_normalize`: trailing places make no difference.
-/

namespace TerminalGateway.Decimal

open TerminalGateway.Number (tenPow tenPow_cast_pos)

/-- The value as a ratio. -/
def value (d : Decimal) : Rat :=
  d.signed / tenPow d.scale

/-- On the common scale the value is a whole number. -/
theorem value_eq_key (d : Decimal) : d.value = d.key / tenPow maxScale := by
  have hscale : maxScale = d.scale + (maxScale - d.scale) :=
    (Nat.add_sub_cancel' d.scale_le).symm
  have hpos := tenPow_cast_pos (maxScale - d.scale)
  rw [value, key, signedAt]
  rw [Int.cast_mul, Int.cast_natCast]
  nth_rewrite 2 [hscale]
  rw [tenPow_add, Nat.cast_mul, mul_div_mul_right _ _ hpos.ne']

/-- Decimals are compared by their values. -/
theorem value_le_iff {c d : Decimal} : c.value ≤ d.value ↔ c.le d = true := by
  rw [value_eq_key, value_eq_key, div_le_div_iff_of_pos_right (tenPow_cast_pos _), Int.cast_le, le,
    decide_eq_true_eq]

/-- Trailing places make no difference. -/
theorem value_normalize (d : Decimal) : d.normalize.value = d.value := by
  rw [value_eq_key, key_normalize, ← value_eq_key]

end TerminalGateway.Decimal
