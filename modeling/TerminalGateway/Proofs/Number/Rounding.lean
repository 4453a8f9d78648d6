import Mathlib.Algebra.Order.Field.Power
import Mathlib.Data.Rat.Cast.Order
import Mathlib.Tactic.Linarith
import Mathlib.Tactic.Positivity
import Mathlib.Tactic.Ring
import TerminalGateway.Number.Shortest

/-!
# Which values round to a binary number

A ratio is scaled so that its leading bit becomes that of a significand, and rounded there.  What
rounds to a number lies within half a unit in the last place of it, and within a quarter below a
power of two, where the numbers lie closer.  A half is rounded to the even significand, so the ends
belong to the numbers with even significands.

Main definitions:

- `Binary64.scaled`: the value of a significand and an exponent.
- `IsNear`: a value is within a half of a whole number.
- `Encloses`: the values that round to a number.

Main results:

- Theorem `leadingBit_spec`: the leading bit of a ratio.
- Theorem `ofRatio_encloses`: a ratio rounds to a number that encloses it.
- Theorem `ofNat_exact`: whole numbers with few significant bits are not rounded.
- Theorem `div_encloses`: a quotient rounds to a number that encloses it.
-/

namespace TerminalGateway.Number

/-! ## Powers -/

/-- A power split into its positive and its negative part. -/
theorem pow_toNat {base : Nat} (hbase : 0 < base) (k : Int) :
    ((base ^ k.toNat : Nat) : Rat) = (base : Rat) ^ k * ((base ^ (-k).toNat : Nat) : Rat) := by
  have hne : (base : Rat) ≠ 0 := Nat.cast_ne_zero.mpr (Nat.ne_of_gt hbase)
  have hsplit : (k.toNat : Int) = k + (-k).toNat := by omega
  rw [Nat.cast_pow, Nat.cast_pow, ← zpow_natCast, ← zpow_natCast, hsplit, zpow_add₀ hne]

theorem tenPow_toNat (k : Int) : (tenPow k.toNat : Rat) = 10 ^ k * (tenPow (-k).toNat : Rat) :=
  pow_toNat (by decide) k

theorem twoPow_toNat (k : Int) : (twoPow k.toNat : Rat) = 2 ^ k * (twoPow (-k).toNat : Rat) :=
  pow_toNat (by decide) k

theorem twoPow_cast_pos (n : Nat) : (0 : Rat) < twoPow n :=
  Nat.cast_pos.mpr (twoPow_pos n)

theorem tenPow_cast_pos (n : Nat) : (0 : Rat) < tenPow n :=
  Nat.cast_pos.mpr (tenPow_pos n)

namespace Binary64

variable {num den : Nat} {k : Int}

/-- A ratio that is scaled by a power of two. -/
theorem ratio_mul_two_zpow (num den : Nat) (k : Int) :
    ((num * twoPow k.toNat : Nat) : Rat) / ((den * twoPow (-k).toNat : Nat) : Rat) =
      num / den * 2 ^ k := by
  have hpos := twoPow_cast_pos (-k).toNat
  rw [Nat.cast_mul, Nat.cast_mul, twoPow_toNat, ← mul_assoc, mul_div_mul_right _ _ hpos.ne',
    mul_div_right_comm]

/-! ## The leading bit -/

theorem lt_two_zpow_iff (hden : 0 < den) :
    num * twoPow (-k).toNat < den * twoPow k.toNat ↔ (num : Rat) / den < 2 ^ k := by
  have hden : (0 : Rat) < den := Nat.cast_pos.mpr hden
  have hpos := twoPow_cast_pos (-k).toNat
  rw [← Nat.cast_lt (α := Rat), Nat.cast_mul, Nat.cast_mul, twoPow_toNat k, ← mul_assoc,
    mul_lt_mul_iff_left₀ hpos, div_lt_iff₀ hden, mul_comm (den : Rat)]

theorem two_zpow_log2_le {n : Nat} (hn : 0 < n) : (2 : Rat) ^ (n.log2 : Int) ≤ n := by
  rw [zpow_natCast]
  exact_mod_cast Nat.log2_self_le (Nat.ne_of_gt hn)

theorem lt_two_zpow_log2 (n : Nat) : (n : Rat) < 2 ^ ((n.log2 : Int) + 1) := by
  rw [← Nat.cast_succ, zpow_natCast]
  exact_mod_cast Nat.lt_log2_self

/-- The leading bit of a ratio. -/
theorem leadingBit_spec (hnum : 0 < num) (hden : 0 < den) :
    (2 : Rat) ^ leadingBit num den ≤ num / den ∧
      (num : Rat) / den < 2 ^ (leadingBit num den + 1) := by
  have hdenRat : (0 : Rat) < den := Nat.cast_pos.mpr hden
  have hlow := two_zpow_log2_le hnum
  have hhigh := lt_two_zpow_log2 num
  have hdenLow := two_zpow_log2_le hden
  have hdenHigh := lt_two_zpow_log2 den
  -- the ratio of the leading powers is off by less than a factor of two, up or down
  have habove : (num : Rat) / den < 2 ^ ((num.log2 : Int) - den.log2 + 1) := by
    rw [div_lt_iff₀ hdenRat]
    calc (num : Rat) < 2 ^ ((num.log2 : Int) + 1) := hhigh
      _ = 2 ^ ((num.log2 : Int) - den.log2 + 1) * 2 ^ (den.log2 : Int) := by
          rw [← zpow_add₀ (by norm_num)]
          congr 1
          omega
      _ ≤ 2 ^ ((num.log2 : Int) - den.log2 + 1) * den :=
          mul_le_mul_of_nonneg_left hdenLow (by positivity)
  have hbelow : (2 : Rat) ^ ((num.log2 : Int) - den.log2 - 1) ≤ num / den := by
    rw [le_div_iff₀ hdenRat]
    calc (2 : Rat) ^ ((num.log2 : Int) - den.log2 - 1) * den
        ≤ 2 ^ ((num.log2 : Int) - den.log2 - 1) * 2 ^ ((den.log2 : Int) + 1) :=
          mul_le_mul_of_nonneg_left hdenHigh.le (by positivity)
      _ = 2 ^ (num.log2 : Int) := by
          rw [← zpow_add₀ (by norm_num)]
          congr 1
          omega
      _ ≤ num := hlow
  unfold leadingBit
  dsimp only
  split
  · rename_i hless
    rw [lt_two_zpow_iff hden] at hless
    exact ⟨hbelow, by rwa [sub_add_cancel]⟩
  · rename_i hless
    rw [lt_two_zpow_iff hden, not_lt] at hless
    exact ⟨hless, habove⟩

/-! ## Rounding -/

/-- A value is a half from a whole number at most, and less than that from an odd one. -/
structure IsNear (n : Nat) (value : Rat) : Prop where
  low : 2 * n - 1 ≤ 2 * value
  high : 2 * value ≤ 2 * n + 1
  low_of_odd : n % 2 = 1 → 2 * n - 1 < 2 * value
  high_of_odd : n % 2 = 1 → 2 * value < 2 * n + 1

theorem isNear_of_nat {n : Nat} (hden : 0 < den) (hlow : 2 * (den * n) ≤ 2 * num + den)
    (hhigh : 2 * num ≤ 2 * (den * n) + den)
    (hodd : n % 2 = 1 → 2 * (den * n) < 2 * num + den ∧ 2 * num < 2 * (den * n) + den) :
    IsNear n ((num : Rat) / den) := by
  have hdenRat : (0 : Rat) < den := Nat.cast_pos.mpr hden
  have hvalue : (num : Rat) = num / den * den := (div_mul_cancel₀ _ hdenRat.ne').symm
  generalize (num : Rat) / den = ratio at *
  have hle {a b : Rat} (h : a * den ≤ b * den) : a ≤ b := le_of_mul_le_mul_right h hdenRat
  have hlt {a b : Rat} (h : a * den < b * den) : a < b := lt_of_mul_lt_mul_right h hdenRat.le
  have hlowRat : (2 : Rat) * (den * n) ≤ 2 * num + den := by exact_mod_cast hlow
  have hhighRat : (2 : Rat) * num ≤ 2 * (den * n) + den := by exact_mod_cast hhigh
  constructor
  case low => apply hle; linarith
  case high => apply hle; linarith
  case low_of_odd =>
    intro h
    have hlowRat : (2 : Rat) * (den * n) < 2 * num + den := by exact_mod_cast (hodd h).1
    apply hlt
    linarith
  case high_of_odd =>
    intro h
    have hhighRat : (2 : Rat) * num < 2 * (den * n) + den := by exact_mod_cast (hodd h).2
    apply hlt
    linarith

/-- A ratio is rounded to a whole number near it. -/
theorem isNear_roundHalfEven (num : Nat) (hden : 0 < den) :
    IsNear (roundHalfEven num den) ((num : Rat) / den) := by
  have hdiv := Nat.div_add_mod num den
  have hmod := Nat.mod_lt num hden
  have hsucc : den * (num / den + 1) = den * (num / den) + den := Nat.mul_succ _ _
  unfold roundHalfEven
  dsimp only
  split
  · apply isNear_of_nat hden <;> omega
  split
  · apply isNear_of_nat hden <;> rw [hsucc] <;> omega
  · rcases Nat.mod_two_eq_zero_or_one (num / den) with heven | hodd
    · rw [heven, Nat.add_zero]
      apply isNear_of_nat hden <;> omega
    · rw [hodd]
      apply isNear_of_nat hden <;> rw [hsucc] <;> omega

/-! ## Enclosures -/

/-- The value of a significand and an exponent. -/
def scaled (significand : Nat) (exponent : Int) : Rat :=
  significand * 2 ^ exponent

end Binary64

open Binary64

/-- The values that round to a number: those between the bounds, and the bounds themselves if the
significand is even. -/
structure Encloses (significand : Nat) (exponent : Int) (value : Rat) : Prop where
  low : (bounds significand exponent).1 * (2 : Rat) ^ (exponent - 2) ≤ value
  high : value ≤ (bounds significand exponent).2 * (2 : Rat) ^ (exponent - 2)
  low_of_odd : significand % 2 = 1 →
    (bounds significand exponent).1 * (2 : Rat) ^ (exponent - 2) < value
  high_of_odd : significand % 2 = 1 →
    value < (bounds significand exponent).2 * (2 : Rat) ^ (exponent - 2)

namespace Binary64

variable {num den : Nat}

theorem leadingUnit_eq : leadingUnit = 4503599627370496 := rfl

/-- A unit in the last place in quarters. -/
theorem two_zpow_eq (exponent : Int) : (2 : Rat) ^ exponent = 4 * 2 ^ (exponent - 2) := by
  rw [zpow_sub₀ (by norm_num)]
  ring

/-- The bounds of an enclosure on the scale of the significand. -/
theorem encloses_of_scaled {significand : Nat} {exponent : Int} {value unit : Rat}
    (hvalue : value = unit * 2 ^ exponent)
    (hlow : ((bounds significand exponent).1 : Rat) ≤ 4 * unit)
    (hhigh : 4 * unit ≤ (bounds significand exponent).2)
    (hodd : significand % 2 = 1 → ((bounds significand exponent).1 : Rat) < 4 * unit ∧
      4 * unit < (bounds significand exponent).2) : Encloses significand exponent value := by
  have hquarter : value = 4 * unit * 2 ^ (exponent - 2) := by
    rw [hvalue, two_zpow_eq]
    ring
  have hpos : (0 : Rat) < 2 ^ (exponent - 2) := by positivity
  rw [hquarter]
  constructor
  case low => exact mul_le_mul_of_nonneg_right hlow hpos.le
  case high => exact mul_le_mul_of_nonneg_right hhigh hpos.le
  case low_of_odd => exact fun h => mul_lt_mul_of_pos_right (hodd h).1 hpos
  case high_of_odd => exact fun h => mul_lt_mul_of_pos_right (hodd h).2 hpos

theorem bounds_snd (significand : Nat) (exponent : Int) :
    ((bounds significand exponent).2 : Rat) = 4 * significand + 2 := by
  unfold bounds
  push_cast
  rfl

/-- Below a power of two the lower bound is closer. -/
theorem bounds_fst {significand : Nat} (exponent : Int) (h : leadingUnit ≤ significand) :
    ((bounds significand exponent).1 : Rat) = 4 * significand - 2 ∨
      significand = leadingUnit ∧ minExponent < exponent ∧
      ((bounds significand exponent).1 : Rat) = 4 * significand - 1 := by
  rw [leadingUnit_eq] at h
  unfold bounds
  dsimp only
  split
  · rename_i hunit
    rw [Nat.cast_sub (by omega)]
    push_cast
    exact .inr ⟨hunit.1, hunit.2, rfl⟩
  · rw [Nat.cast_sub (by omega)]
    push_cast
    exact .inl rfl

theorem bounds_unit {exponent : Int} (h : minExponent < exponent) :
    ((bounds leadingUnit exponent).1 : Rat) = 4 * leadingUnit - 1 := by
  unfold bounds
  rw [if_pos ⟨rfl, h⟩, Nat.cast_sub (by decide)]
  push_cast
  rfl

/-- What is enclosed lies half a unit below the number at most. -/
theorem lower_of_encloses {significand : Nat} {exponent : Int} {value : Rat}
    (hsignificand : leadingUnit ≤ significand) (h : Encloses significand exponent value) :
    (4 * significand - 2) * (2 : Rat) ^ (exponent - 2) ≤ value := by
  have hpos : (0 : Rat) < 2 ^ (exponent - 2) := by positivity
  have hlow := h.low
  rcases bounds_fst exponent hsignificand with heq | ⟨-, -, heq⟩
  · rwa [heq] at hlow
  · rw [heq] at hlow
    linarith

/-- What is enclosed lies half a unit above the number at most. -/
theorem upper_of_encloses {significand : Nat} {exponent : Int} {value : Rat}
    (h : Encloses significand exponent value) :
    value ≤ (4 * significand + 2) * (2 : Rat) ^ (exponent - 2) := by
  have hhigh := h.high
  rwa [bounds_snd] at hhigh

/-- A significand encloses the values near it on its scale, as long as they do not lie below a power
of two. -/
theorem encloses_of_isNear {significand : Nat} {exponent : Int} {value unit : Rat}
    (hvalue : value = unit * 2 ^ exponent) (h : IsNear significand unit)
    (hunit : leadingUnit ≤ unit) (hsignificand : leadingUnit ≤ significand) :
    Encloses significand exponent value := by
  have hlow := h.low
  have hhigh := h.high
  apply encloses_of_scaled hvalue
  · rcases bounds_fst exponent hsignificand with heq | ⟨rfl, -, heq⟩
    · linarith
    · linarith
  · rw [bounds_snd]
    linarith
  · intro hodd
    have hlowOdd := h.low_of_odd hodd
    have hhighOdd := h.high_of_odd hodd
    rw [bounds_snd]
    rcases bounds_fst exponent hsignificand with heq | ⟨rfl, -, -⟩
    · constructor <;> linarith
    · exact absurd hodd (by decide)

/-- A value near a significand that is one bit too long is enclosed by the power of two. -/
theorem encloses_of_isNear_carry {exponent : Int} {value unit : Rat}
    (hvalue : value = unit * 2 ^ exponent) (h : IsNear (2 * leadingUnit) unit)
    (hexponent : minExponent ≤ exponent) : Encloses leadingUnit (exponent + 1) value := by
  have hlow := h.low
  have hhigh := h.high
  have hhalf : value = unit / 2 * 2 ^ (exponent + 1) := by
    rw [hvalue, zpow_add_one₀ (by norm_num)]
    ring
  push_cast at hlow hhigh
  apply encloses_of_scaled hhalf
  · rw [bounds_unit (Int.lt_add_one_of_le hexponent)]
    linarith
  · rw [bounds_snd]
    linarith
  · intro hodd
    exact absurd hodd (by decide)

/-- A value with its leading bit in the right place is near a significand of the right length, or of
one bit more. -/
theorem significand_of_isNear {significand : Nat} {unit : Rat} (h : IsNear significand unit)
    (hlow : leadingUnit ≤ unit) (hhigh : unit < 2 * leadingUnit) :
    leadingUnit ≤ significand ∧ significand ≤ 2 * leadingUnit := by
  have habove : (2 * leadingUnit : Rat) < 2 * significand + 2 := by linarith [h.high]
  have hbelow : (2 * significand : Rat) < 4 * leadingUnit + 1 := by linarith [h.low]
  have habove : 2 * leadingUnit < 2 * significand + 2 := by exact_mod_cast habove
  have hbelow : 2 * significand < 4 * leadingUnit + 1 := by exact_mod_cast hbelow
  omega

/-- Scaling puts the leading bit into its place. -/
theorem leadingUnit_le_scaled {value : Rat} {leading : Int} (hlow : 2 ^ leading ≤ value)
    (hhigh : value < 2 ^ (leading + 1)) :
    leadingUnit ≤ value * 2 ^ (-(leading - 52)) ∧
      value * 2 ^ (-(leading - 52)) < 2 * leadingUnit := by
  have hpos : (0 : Rat) < 2 ^ (-(leading - 52)) := by positivity
  have hunit : (2 : Rat) ^ leading * 2 ^ (-(leading - 52)) = leadingUnit := by
    rw [← zpow_add₀ (by norm_num), show leading + -(leading - 52) = 52 by omega]
    norm_num [leadingUnit_eq]
  have hnext : (2 : Rat) ^ (leading + 1) * 2 ^ (-(leading - 52)) = 2 * leadingUnit := by
    rw [zpow_add_one₀ (by norm_num), mul_right_comm, hunit, mul_comm]
  constructor
  · calc (leadingUnit : Rat) = 2 ^ leading * 2 ^ (-(leading - 52)) := hunit.symm
      _ ≤ value * 2 ^ (-(leading - 52)) := mul_le_mul_of_nonneg_right hlow hpos.le
  · calc value * 2 ^ (-(leading - 52)) < 2 ^ (leading + 1) * 2 ^ (-(leading - 52)) :=
          mul_lt_mul_of_pos_right hhigh hpos
      _ = 2 * leadingUnit := hnext

/-- A ratio that is neither very small nor very great is scaled to the length of a significand and
rounded there. -/
theorem exists_ofRatio (negative : Bool) (hnum : 0 < num) (hden : 0 < den)
    (hlow : (2 : Rat) ^ (-1022 : Int) ≤ num / den) (hhigh : (num : Rat) / den < 2 ^ (1000 : Int)) :
    ∃ (significand : Nat) (exponent : Int) (unit : Rat), num / den = unit * 2 ^ exponent ∧
      leadingUnit ≤ unit ∧ unit < 2 * leadingUnit ∧ minExponent ≤ exponent ∧
      IsNear significand unit ∧
      ofRatio negative num den =
        if significand = 2 * leadingUnit then .finite negative leadingUnit (exponent + 1)
        else .finite negative significand exponent := by
  rcases leadingBit_spec hnum hden with ⟨hleading, hnext⟩
  have hleast : -1022 < leadingBit num den + 1 :=
    (zpow_lt_zpow_iff_right₀ (by norm_num)).mp (hlow.trans_lt hnext)
  have hgreatest : leadingBit num den < 1000 :=
    (zpow_lt_zpow_iff_right₀ (by norm_num)).mp (hleading.trans_lt hhigh)
  have hmax : Max.max (leadingBit num den - 52) minExponent = leadingBit num den - 52 := by
    unfold minExponent
    omega
  rcases leadingUnit_le_scaled hleading hnext with ⟨hunitLow, hunitHigh⟩
  unfold ofRatio
  rw [if_neg (Nat.ne_of_gt hnum)]
  dsimp only
  rw [hmax]
  generalize hexponent : leadingBit num den - 52 = exponent at *
  have hnear := isNear_roundHalfEven (num * twoPow (-exponent).toNat)
    (Nat.mul_pos hden (twoPow_pos exponent.toNat))
  have hunit := ratio_mul_two_zpow num den (-exponent)
  rw [neg_neg] at hunit
  rw [hunit] at hnear
  have hvalue : (num : Rat) / den = num / den * 2 ^ (-exponent) * 2 ^ exponent := by
    rw [mul_assoc, ← zpow_add₀ (by norm_num), neg_add_cancel, zpow_zero, mul_one]
  refine ⟨_, exponent, _, hvalue, hunitLow, hunitHigh, by unfold minExponent; omega, hnear, ?_⟩
  split
  · dsimp only
    rw [if_neg (by unfold maxExponent; omega)]
  · dsimp only
    rw [if_neg (by unfold maxExponent; omega)]

/-- A significand with all its bits. -/
structure IsLong (significand : Nat) : Prop where
  low : leadingUnit ≤ significand
  high : significand < 2 * leadingUnit

/-- A ratio rounds to a number that encloses it. -/
theorem ofRatio_encloses (negative : Bool) (hnum : 0 < num) (hden : 0 < den)
    (hlow : (2 : Rat) ^ (-1022 : Int) ≤ num / den) (hhigh : (num : Rat) / den < 2 ^ (1000 : Int)) :
    ∃ significand exponent, ofRatio negative num den = .finite negative significand exponent ∧
      IsLong significand ∧ Encloses significand exponent ((num : Rat) / den) := by
  rcases exists_ofRatio negative hnum hden hlow hhigh with
    ⟨significand, exponent, unit, hvalue, hunitLow, hunitHigh, hexponent, hnear, heq⟩
  by_cases hcarry : significand = 2 * leadingUnit
  · rw [if_pos hcarry] at heq
    subst hcarry
    have hlong : IsLong leadingUnit := ⟨Nat.le_refl _, by decide⟩
    exact ⟨_, _, heq, hlong, encloses_of_isNear_carry hvalue hnear hexponent⟩
  · rw [if_neg hcarry] at heq
    rcases significand_of_isNear hnear hunitLow hunitHigh with ⟨hlow, hhigh⟩
    have hlong : IsLong significand := ⟨hlow, Nat.lt_of_le_of_ne hhigh hcarry⟩
    exact ⟨_, _, heq, hlong, encloses_of_isNear hvalue hnear hunitLow hlow⟩

/-- No whole number is near another one. -/
theorem IsNear.eq {m n : Nat} (h : IsNear n (m : Rat)) : n = m := by
  have hlow : (2 * n : Rat) ≤ 2 * m + 1 := by linarith [h.low]
  have hhigh : (2 * m : Rat) ≤ 2 * n + 1 := h.high
  have hlow : 2 * n ≤ 2 * m + 1 := by exact_mod_cast hlow
  have hhigh : 2 * m ≤ 2 * n + 1 := by exact_mod_cast hhigh
  omega

/-- Whole numbers with few significant bits are not rounded. -/
theorem ofNat_exact {a b : Nat} (ha : 0 < a) (hlength : a < 2 * leadingUnit) (hb : b ≤ 900) :
    ∃ significand exponent, ofNat (a * 2 ^ b) = .finite false significand exponent ∧
      0 < significand ∧ scaled significand exponent = (a * 2 ^ b : Nat) := by
  have hnum : 0 < a * 2 ^ b := Nat.mul_pos ha (Nat.pow_pos (by decide))
  have hratio : ((a * 2 ^ b : Nat) : Rat) / (1 : Nat) = a * 2 ^ (b : Int) := by
    rw [Nat.cast_one, div_one, zpow_natCast]
    push_cast
    rfl
  have haRat : (a : Rat) < 2 * leadingUnit := by exact_mod_cast hlength
  have hlow : (2 : Rat) ^ (-1022 : Int) ≤ ((a * 2 ^ b : Nat) : Rat) / (1 : Nat) := by
    rw [Nat.cast_one, div_one]
    calc (2 : Rat) ^ (-1022 : Int) ≤ 1 := zpow_le_one_of_nonpos₀ (by norm_num) (by norm_num)
      _ ≤ (a * 2 ^ b : Nat) := Nat.one_le_cast.mpr hnum
  have hhigh : ((a * 2 ^ b : Nat) : Rat) / (1 : Nat) < 2 ^ (1000 : Int) := by
    rw [hratio]
    calc (a : Rat) * 2 ^ (b : Int) < 2 ^ (53 : Int) * 2 ^ (b : Int) :=
          mul_lt_mul_of_pos_right (haRat.trans_le (by norm_num [leadingUnit_eq])) (by positivity)
      _ = 2 ^ (53 + (b : Int)) := (zpow_add₀ (by norm_num) _ _).symm
      _ ≤ 2 ^ (1000 : Int) := zpow_le_zpow_right₀ (by norm_num) (by omega)
  rcases exists_ofRatio false hnum Nat.one_pos hlow hhigh with
    ⟨significand, exponent, unit, hvalue, hunitLow, hunitHigh, -, hnear, heq⟩
  rw [hratio] at hvalue
  have hleading : (0 : Rat) < leadingUnit := by norm_num [leadingUnit_eq]
  have hexponent : exponent ≤ b := by
    have hpower : (2 : Rat) ^ exponent < 2 ^ ((b : Int) + 1) := by
      apply lt_of_mul_lt_mul_left _ hleading.le
      calc leadingUnit * (2 : Rat) ^ exponent ≤ unit * 2 ^ exponent :=
            mul_le_mul_of_nonneg_right hunitLow (by positivity)
        _ = a * 2 ^ (b : Int) := hvalue.symm
        _ < 2 * leadingUnit * 2 ^ (b : Int) := mul_lt_mul_of_pos_right haRat (by positivity)
        _ = leadingUnit * 2 ^ ((b : Int) + 1) := by rw [zpow_add_one₀ (by norm_num)]; ring
    exact Int.lt_add_one_iff.mp ((zpow_lt_zpow_iff_right₀ (by norm_num)).mp hpower)
  -- the exponent takes no more from the number than its power of two
  have hwhole : unit = (a * 2 ^ (b - exponent).toNat : Nat) := by
    have hsplit : (b : Int) = ((b - exponent).toNat : Int) + exponent := by omega
    rw [hsplit, zpow_add₀ (by norm_num), ← mul_assoc] at hvalue
    rw [← mul_right_cancel₀ (by positivity) hvalue, zpow_natCast]
    push_cast
    rfl
  rw [hwhole] at hnear hunitLow hunitHigh hvalue
  obtain rfl := hnear.eq
  have hshort : a * 2 ^ (b - exponent).toNat < 2 * leadingUnit := by exact_mod_cast hunitHigh
  rw [if_neg (Nat.ne_of_lt hshort)] at heq
  refine ⟨_, _, heq, Nat.mul_pos ha (Nat.pow_pos (by decide)), ?_⟩
  rw [scaled, ← hvalue, zpow_natCast]
  push_cast
  rfl

/-- A whole number rounds to a number that encloses it. -/
theorem ofNat_encloses {n : Nat} (hn : 0 < n) (hhigh : (n : Rat) < 2 ^ (1000 : Int)) :
    ∃ significand exponent, ofNat n = .finite false significand exponent ∧ IsLong significand ∧
      Encloses significand exponent n := by
  have hratio : (n : Rat) / (1 : Nat) = n := by rw [Nat.cast_one, div_one]
  have hlow : (2 : Rat) ^ (-1022 : Int) ≤ n :=
    (zpow_le_one_of_nonpos₀ (by norm_num) (by norm_num)).trans (Nat.one_le_cast.mpr hn)
  rw [← hratio] at hlow hhigh ⊢
  exact ofRatio_encloses false hn Nat.one_pos hlow hhigh

/-- A product rounds to a number that encloses it. -/
theorem mul_encloses {m n : Nat} {e f : Int} (hm : 0 < m) (hn : 0 < n)
    (hlow : (2 : Rat) ^ (-1022 : Int) ≤ scaled m e * scaled n f)
    (hhigh : scaled m e * scaled n f < 2 ^ (1000 : Int)) :
    ∃ significand exponent,
      (finite false m e).mul (finite false n f) = .finite false significand exponent ∧
        IsLong significand ∧ Encloses significand exponent (scaled m e * scaled n f) := by
  have hproduct : ((m * n * twoPow (e + f).toNat : Nat) : Rat) / (twoPow (-(e + f)).toNat : Nat) =
      scaled m e * scaled n f := by
    have hratio := ratio_mul_two_zpow (m * n) 1 (e + f)
    rw [Nat.one_mul] at hratio
    rw [hratio, scaled, scaled, zpow_add₀ (by norm_num)]
    push_cast
    ring
  have hnum : 0 < m * n * twoPow (e + f).toNat := Nat.mul_pos (Nat.mul_pos hm hn) (twoPow_pos _)
  have hden := twoPow_pos (-(e + f)).toNat
  rw [← hproduct] at hlow hhigh ⊢
  exact ofRatio_encloses (false != false) hnum hden hlow hhigh

/-- A quotient rounds to a number that encloses it. -/
theorem div_encloses {m n : Nat} {e f : Int} (hm : 0 < m) (hn : 0 < n)
    (hlow : (2 : Rat) ^ (-1022 : Int) ≤ scaled m e / scaled n f)
    (hhigh : scaled m e / scaled n f < 2 ^ (1000 : Int)) :
    ∃ significand exponent,
      (finite false m e).div (finite false n f) = .finite false significand exponent ∧
        IsLong significand ∧ Encloses significand exponent (scaled m e / scaled n f) := by
  have hratio : ((m * twoPow (e - f).toNat : Nat) : Rat) / (n * twoPow (-(e - f)).toNat : Nat) =
      scaled m e / scaled n f := by
    rw [ratio_mul_two_zpow, scaled, scaled, zpow_sub₀ (by norm_num), div_mul_div_comm]
  have hnum : 0 < m * twoPow (e - f).toNat := Nat.mul_pos hm (twoPow_pos _)
  have hden : 0 < n * twoPow (-(e - f)).toNat := Nat.mul_pos hn (twoPow_pos _)
  rw [← hratio] at hlow hhigh ⊢
  exact ofRatio_encloses (false != false) hnum hden hlow hhigh

end Binary64

end TerminalGateway.Number
