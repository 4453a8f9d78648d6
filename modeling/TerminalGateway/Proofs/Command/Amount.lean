import TerminalGateway.Command.Frames
import TerminalGateway.Proofs.Decimal.Value
import TerminalGateway.Proofs.Json.Accuracy

/-!
# Amounts on the wire of the web server

A decimal goes out as the number that its digits are understood as.  A whole number of 64 bits is
understood as itself.  Every other decimal is rounded on its way: it is written as a value near it,
and exactly if it has few digits.

Main definitions:

- `FitsNumber`: a decimal that is written exactly.

Main results:

- Theorem `value_numeral`: the digits of a decimal denote its value.
- Theorem `exists_number`: every decimal is written, as a value near it.
- Theorem `exists_amount`: no decimal is out of range.
-/

namespace TerminalGateway.Command

open TerminalGateway.Json (Numeral Number)
open TerminalGateway.Json.Numeral (digitsValue)
open TerminalGateway.Number (tenPow tenPow_pos)

variable {d : Decimal}

/-! ## Digits -/

theorem length_fraction (d : Decimal) : ((numeral d).fraction.getD []).length = d.scale := by
  unfold numeral
  dsimp only
  split
  · rename_i hscale
    exact hscale.symm
  · rename_i hscale
    exact Text.length_padded (Nat.pos_of_ne_zero hscale)
      (Nat.mod_lt d.mantissa (tenPow_pos d.scale))

/-- The digits of a decimal make a numeral. -/
theorem isPlain_numeral (d : Decimal) : (numeral d).IsPlain := by
  have hwhole : (numeral d).whole = Nat.toDigits 10 (d.mantissa / tenPow d.scale) :=
    Nat.toList_repr
  constructor
  case whole =>
    rw [hwhole]
    exact Json.areDigits_toDigits _
  case leading =>
    rw [hwhole]
    exact Json.toDigits_ne_zero_cons _
  case fraction =>
    intro digits hdigits
    have hlength := length_fraction d
    unfold numeral at hdigits hlength
    dsimp only at hdigits hlength
    split at hdigits
    · exact nomatch hdigits
    · rename_i hscale
      obtain rfl := Option.some.inj hdigits
      rw [if_neg hscale, Option.getD_some] at hlength
      exact ⟨List.ne_nil_of_length_pos (by omega), fun _ hc => Text.isDigit_of_mem_padded hc⟩
  case exponent => exact fun written h => nomatch h

/-- The digits before and behind the point together are those of the mantissa. -/
theorem digitsValue_numeral (d : Decimal) :
    digitsValue ((numeral d).whole ++ (numeral d).fraction.getD []) = d.mantissa := by
  have hlength := length_fraction d
  have hwhole : (numeral d).whole = Nat.toDigits 10 (d.mantissa / tenPow d.scale) :=
    Nat.toList_repr
  have hfraction : digitsValue ((numeral d).fraction.getD []) = d.mantissa % tenPow d.scale := by
    unfold numeral
    dsimp only
    split
    · rename_i hscale
      rw [hscale, show tenPow 0 = 1 from rfl, Nat.mod_one]
      rfl
    · exact Text.ofDigitChars_padded _ _
  rw [Json.digitsValue_append, hwhole, Json.digitsValue_toDigits, hfraction, hlength]
  exact Nat.div_add_mod' d.mantissa (tenPow d.scale)

theorem magnitude_numeral (d : Decimal) :
    (numeral d).magnitude = d.mantissa * 10 ^ (-d.scale : Int) := by
  rw [Numeral.magnitude, digitsValue_numeral, length_fraction]
  unfold numeral Numeral.exponentValue
  dsimp only
  rw [zero_sub]

/-- The digits of a decimal denote its value. -/
theorem value_numeral (d : Decimal) : (numeral d).value = d.value := by
  have hmagnitude : (numeral d).magnitude = d.mantissa / (tenPow d.scale : Nat) := by
    rw [magnitude_numeral, zpow_neg, zpow_natCast, div_eq_mul_inv, tenPow]
    congr 2
    exact (Nat.cast_pow 10 d.scale).symm
  have hsign : (numeral d).negative = d.negative := rfl
  rw [Numeral.value, hmagnitude, hsign, Decimal.value, Decimal.signed]
  cases d.negative with
  | false => simp
  | true => simp [neg_div]

/-- A decimal has at most 29 digits before its point. -/
theorem length_whole_le (d : Decimal) : (numeral d).whole.length ≤ 29 := by
  have hmantissa : d.mantissa < 10 ^ 29 := Nat.lt_trans d.mantissa_lt (by decide)
  have hwhole := Nat.lt_of_le_of_lt (Nat.div_le_self d.mantissa (tenPow d.scale)) hmantissa
  have hlength := (Nat.length_toDigits_le_iff (by decide) (by decide)).mpr hwhole
  rwa [← Nat.toList_repr] at hlength

/-! ## Numbers -/

/-- A decimal that is written exactly: a whole number of 64 bits, with a sign or without one, or one
of fifteen digits at most and no more than 22 places. -/
inductive FitsNumber (d : Decimal) : Prop where
  | whole (hscale : d.normalize.scale = 0)
      (hlow : -(Number.signedLimit64 : Int) ≤ d.normalize.signed)
      (hhigh : d.normalize.signed < Number.limit64)
  | short (hdigits : d.normalize.mantissa < 10 ^ 15) (hplaces : d.normalize.scale ≤ 22)

/-- The digits of a decimal without places are those of a whole number. -/
theorem numeral_whole (hscale : d.scale = 0) (hsign : d.negative = true → d.isZero = false) :
    numeral d = Numeral.ofInt d.signed := by
  have hnegative : d.negative = decide (d.signed < 0) := by
    cases hcase : d.negative with
    | false => simp [Decimal.signed, hcase]
    | true =>
        have hpos := of_decide_eq_false (hsign hcase)
        simp only [Decimal.signed, hcase, if_true]
        exact (decide_eq_true (by omega)).symm
  have hmagnitude : d.signed.natAbs = d.mantissa := by
    unfold Decimal.signed
    split <;> omega
  unfold numeral Numeral.ofInt
  rw [hscale, hmagnitude, ← hnegative, Nat.toList_repr, show tenPow 0 = 1 from rfl, Nat.div_one]
  rfl

/-- A decimal is written as a number that denotes a near value, and its own value if it fits. -/
theorem exists_number (d : Decimal) :
    ∃ number value, number? d = some number ∧ number.Denotes value ∧
      |value - d.value| ≤ |d.value| / 2 ^ 49 ∧ (FitsNumber d → value = d.value) := by
  unfold number?
  rw [← Decimal.value_normalize]
  by_cases hwhole : d.normalize.scale = 0 ∧ -(Number.signedLimit64 : Int) ≤ d.normalize.signed ∧
    d.normalize.signed < Number.limit64
  · rcases hwhole with ⟨hscale, hlow, hhigh⟩
    have hnumber := Numeral.number?_ofInt hlow hhigh
    rw [← numeral_whole hscale (Decimal.isZero_normalize d)] at hnumber
    have hvalue : (d.normalize.signed : Rat) = d.normalize.value := by
      rw [Decimal.value, hscale, show tenPow 0 = 1 from rfl, Nat.cast_one, div_one]
    refine ⟨_, _, hnumber, Number.denotes_whole _, ?_, fun _ => hvalue⟩
    rw [hvalue, sub_self, abs_zero]
    positivity
  · have hmantissa : 0 < d.normalize.mantissa := by
      apply Nat.pos_of_ne_zero
      intro hzero
      rw [Decimal.normalize_eq_zero hzero] at hwhole
      exact hwhole (by decide)
    have hpos : 0 < (numeral d.normalize).magnitude := by
      rw [magnitude_numeral]
      positivity
    have hplaces : ((numeral d.normalize).fraction.getD []).length ≤ 30 := by
      rw [length_fraction]
      exact Nat.le_trans d.normalize.scale_le (by decide)
    rcases Numeral.isWrittenNear_magnitude (isPlain_numeral d.normalize) rfl hpos
      (Nat.le_succ_of_le (length_whole_le d.normalize)) hplaces with
      ⟨number, magnitude, hnumber, hdenotes, hnear, hexact⟩
    have herror := Numeral.abs_sub_le_of_near hnear hpos.le
    refine ⟨number, _, hnumber, hdenotes, ?_, fun hfits => ?_⟩
    · rw [← value_numeral, Numeral.value]
      cases (numeral d.normalize).negative with
      | false => rwa [if_neg Bool.false_ne_true, if_neg Bool.false_ne_true, abs_of_pos hpos]
      | true =>
          rwa [if_pos rfl, if_pos rfl, neg_sub_neg, abs_sub_comm, abs_neg, abs_of_pos hpos]
    · have hshort : (numeral d.normalize).IsShort := by
        rcases hfits with ⟨hscale, hlow, hhigh⟩ | ⟨hdigits, hplaces⟩
        · exact absurd ⟨hscale, hlow, hhigh⟩ hwhole
        · exact ⟨by rwa [digitsValue_numeral], by rwa [length_fraction]⟩
      rw [hexact hshort, ← value_numeral, Numeral.value]

/-- No decimal is out of range. -/
theorem exists_amount (d : Decimal) : ∃ value, amount d = .ok value := by
  rcases exists_number d with ⟨number, -, hnumber, -⟩
  exact ⟨.number number, by rw [amount, hnumber]⟩

end TerminalGateway.Command
