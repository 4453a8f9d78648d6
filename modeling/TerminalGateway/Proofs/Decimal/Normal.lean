import TerminalGateway.Proofs.Decimal.Reading

/-!
# Decimals without trailing places

Trailing places are taken off one by one, each with a zero, so the value stays as it is.  What is
left ends in another digit than zero, or is whole, and a zero keeps no sign: so a value has one
normal form only, and this is read back from its digits as it stands.

Main results:

- Theorem `key_normalize`: the value stays the same.
- Theorem `read?_normalize`: the digits of a normal form are read as it.
-/

namespace TerminalGateway.Decimal

open TerminalGateway.Number (tenPow tenPow_succ)

/-- The zeros that were taken off make up the mantissa again. -/
theorem stripPlaces_fst_mul (mantissa scale : Nat) :
    (stripPlaces mantissa scale).1 * tenPow (scale - (stripPlaces mantissa scale).2) = mantissa := by
  induction scale generalizing mantissa with
  | zero => exact Nat.mul_one mantissa
  | succ scale ih =>
      unfold stripPlaces
      split
      · rename_i hzero
        have hplaces := stripPlaces_snd_le (mantissa / 10) scale
        rw [Nat.succ_sub hplaces, tenPow_succ, ← Nat.mul_assoc, ih,
          Nat.div_mul_cancel (Nat.dvd_of_mod_eq_zero hzero)]
      · rw [Nat.sub_self]
        exact Nat.mul_one mantissa

theorem signed_of_mantissa_eq_zero {d : Decimal} (h : d.mantissa = 0) : d.signed = 0 := by
  rw [signed, h]
  split <;> rfl

theorem tenPow_add (m n : Nat) : tenPow (m + n) = tenPow m * tenPow n :=
  Nat.pow_add 10 m n

/-- The value stays the same. -/
theorem key_normalize (d : Decimal) : d.normalize.key = d.key := by
  unfold normalize
  split
  · rename_i hzero
    rw [key, key, signedAt, signedAt, signed_of_mantissa_eq_zero hzero,
      signed_of_mantissa_eq_zero rfl, Int.zero_mul, Int.zero_mul]
  · have hmantissa := stripPlaces_fst_mul d.mantissa d.scale
    have hplaces := stripPlaces_snd_le d.mantissa d.scale
    have hscale := d.scale_le
    have hsplit : maxScale - (stripPlaces d.mantissa d.scale).2 =
        (d.scale - (stripPlaces d.mantissa d.scale).2) + (maxScale - d.scale) := by
      unfold maxScale
      omega
    have hvalue : (stripPlaces d.mantissa d.scale).1 *
        tenPow (maxScale - (stripPlaces d.mantissa d.scale).2) =
          d.mantissa * tenPow (maxScale - d.scale) := by
      rw [hsplit, tenPow_add, ← Nat.mul_assoc, hmantissa]
    have hvalue := congrArg Int.ofNat hvalue
    simp only [Int.ofNat_eq_natCast, Int.natCast_mul] at hvalue
    unfold key signedAt signed
    cases d.negative with
    | false => exact hvalue
    | true => exact (Int.neg_mul _ _).trans ((congrArg Neg.neg hvalue).trans (Int.neg_mul _ _).symm)

/-- A zero keeps neither sign nor places. -/
theorem normalize_eq_zero {d : Decimal} (h : d.normalize.mantissa = 0) : d.normalize = zero := by
  unfold normalize at h ⊢
  split at h
  · rename_i hzero
    exact if_pos hzero
  · rename_i hmantissa
    have hproduct := stripPlaces_fst_mul d.mantissa d.scale
    dsimp only at h
    rw [h, Nat.zero_mul] at hproduct
    exact absurd hproduct.symm hmantissa

theorem isZero_normalize (d : Decimal) (hsign : d.normalize.negative = true) :
    d.normalize.isZero = false := by
  apply decide_eq_false
  intro hzero
  rw [normalize_eq_zero hzero] at hsign
  exact absurd hsign (by decide)

theorem plain_normalize (d : Decimal) : d.normalize.plain = d.normalize :=
  plain_eq_self (isZero_normalize d)

/-- The digits of a normal form are read as it. -/
theorem read?_normalize (d : Decimal) : read? d.normalize.text.toList = some d.normalize := by
  rw [read?_text, plain_normalize]

/-- A decimal is written with digits, a minus sign and a point. -/
theorem mem_toList_text {d : Decimal} {c : Char} (h : c ∈ d.text.toList) :
    c.isDigit = true ∨ c = '-' ∨ c = '.' := by
  have hdigits : ∀ c ∈ d.digits, c.isDigit = true ∨ c = '.' := by
    intro c hc
    rcases List.mem_append.mp hc with hwhole | hplaces
    · exact .inl (Text.isDigit_of_mem_toDigits hwhole)
    split at hplaces
    · exact absurd hplaces List.not_mem_nil
    rcases List.mem_cons.mp hplaces with hpoint | hpadded
    · exact .inr hpoint
    · exact .inl (Text.isDigit_of_mem_padded hpadded)
  rw [toList_text] at h
  split at h
  · rcases List.mem_cons.mp h with hsign | h
    · exact .inr (.inl hsign)
    · exact (hdigits c h).imp_right .inr
  · exact (hdigits c h).imp_right .inr

end TerminalGateway.Decimal
