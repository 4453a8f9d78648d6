import TerminalGateway.Proofs.Number.Shortest

/-!
# How far rounding leads away

Two positive values that agree up to a factor a little greater than one are near each other.
Rounding leads to a near value, and so does writing a number with its shortest digits; products and
quotients of near values are near.

Main definitions:

- `Near`: two values agree up to a factor.
- `roundingFactor`: the factor of one rounding.

Main results:

- Theorem `Near.mul`, `Near.div`: products and quotients of near values are near.
- Theorem `Encloses.near`: rounding leads to a near value.
- Theorem `near_shortest`: so does writing a number with its shortest digits.
-/

namespace TerminalGateway.Number

open Binary64 (scaled leadingUnit)

/-- Two values agree up to a factor. -/
structure Near (factor a b : Rat) : Prop where
  le : a ≤ factor * b
  ge : b ≤ factor * a

namespace Near

variable {f g a b c d : Rat}

theorem symm (h : Near f a b) : Near f b a :=
  ⟨h.ge, h.le⟩

theorem trans (hab : Near f a b) (hbc : Near g b c) (hf : 0 ≤ f) (hg : 0 ≤ g) :
    Near (f * g) a c where
  le := calc
    a ≤ f * b := hab.le
    _ ≤ f * (g * c) := mul_le_mul_of_nonneg_left hbc.le hf
    _ = f * g * c := (mul_assoc f g c).symm
  ge := calc
    c ≤ g * b := hbc.ge
    _ ≤ g * (f * a) := mul_le_mul_of_nonneg_left hab.ge hg
    _ = f * g * a := by ring

theorem mono (h : Near f a b) (hfg : f ≤ g) (ha : 0 ≤ a) (hb : 0 ≤ b) : Near g a b where
  le := h.le.trans (mul_le_mul_of_nonneg_right hfg hb)
  ge := h.ge.trans (mul_le_mul_of_nonneg_right hfg ha)

theorem refl (hf : 1 ≤ f) (ha : 0 ≤ a) : Near f a a :=
  ⟨le_mul_of_one_le_left ha hf, le_mul_of_one_le_left ha hf⟩

/-- Near values on another scale are near. -/
theorem scale (h : Near f a b) (hc : 0 ≤ c) : Near f (a * c) (b * c) where
  le := by
    rw [← mul_assoc]
    exact mul_le_mul_of_nonneg_right h.le hc
  ge := by
    rw [← mul_assoc]
    exact mul_le_mul_of_nonneg_right h.ge hc

/-- Near values differ by little. -/
theorem abs_sub_le (h : Near f a b) (hf : 1 ≤ f) (hb : 0 ≤ b) : |a - b| ≤ (f - 1) * f * b := by
  have hle := h.le
  have hge := h.ge
  have hscaled := mul_le_mul_of_nonneg_left hle (sub_nonneg.mpr hf)
  have hproduct := mul_nonneg (mul_nonneg (sub_nonneg.mpr hf) (sub_nonneg.mpr hf)) hb
  rw [abs_le]
  constructor
  · linarith
  · linarith

/-- Products of near values are near. -/
theorem mul (hab : Near f a b) (hcd : Near g c d) (ha : 0 ≤ a) (hb : 0 ≤ b) (hc : 0 ≤ c)
    (hd : 0 ≤ d) : Near (f * g) (a * c) (b * d) where
  le := calc
    a * c ≤ f * b * (g * d) := mul_le_mul hab.le hcd.le hc (ha.trans hab.le)
    _ = f * g * (b * d) := by ring
  ge := calc
    b * d ≤ f * a * (g * c) := mul_le_mul hab.ge hcd.ge hd (hb.trans hab.ge)
    _ = f * g * (a * c) := by ring

theorem inv (h : Near f a b) (ha : 0 < a) (hb : 0 < b) : Near f a⁻¹ b⁻¹ where
  le := by
    rw [inv_eq_one_div, inv_eq_one_div, mul_one_div, div_le_div_iff₀ ha hb, one_mul]
    exact h.ge
  ge := by
    rw [inv_eq_one_div, inv_eq_one_div, mul_one_div, div_le_div_iff₀ hb ha, one_mul]
    exact h.le

/-- Quotients of near values are near. -/
theorem div (hab : Near f a b) (hcd : Near g c d) (ha : 0 ≤ a) (hb : 0 ≤ b) (hc : 0 < c)
    (hd : 0 < d) : Near (f * g) (a / c) (b / d) := by
  rw [div_eq_mul_inv, div_eq_mul_inv]
  exact hab.mul (hcd.inv hc hd) ha hb (inv_nonneg.mpr hc.le) (inv_nonneg.mpr hd.le)

end Near

/-- The factor of one rounding. -/
def roundingFactor : Rat :=
  1 + 1 / 2 ^ 52

theorem roundingFactor_pos : 0 < roundingFactor := by
  norm_num [roundingFactor]

variable {significand : Nat} {exponent : Int} {value : Rat}

/-- Rounding leads to a near value. -/
theorem Encloses.near (hsignificand : leadingUnit ≤ significand)
    (h : Encloses significand exponent value) :
    Near roundingFactor (scaled significand exponent) value := by
  have hlower := Binary64.lower_of_encloses hsignificand h
  have hupper := Binary64.upper_of_encloses h
  have hpos : (0 : Rat) < 2 ^ (exponent - 2) := by positivity
  have hleading : (2 ^ 52 : Rat) ≤ significand := by exact_mod_cast hsignificand
  have hproduct := mul_le_mul_of_nonneg_right hleading hpos.le
  rw [scaled, Binary64.two_zpow_eq, roundingFactor]
  constructor
  · linarith
  · linarith

/-- The shortest digits of a number are near it. -/
theorem near_shortest (tie : Tie) (exponent : Int) (hlong : Binary64.IsLong significand) :
    Near roundingFactor (shortest tie significand exponent).value (scaled significand exponent) :=
  ((encloses_shortest tie exponent hlong).near hlong.low).symm

end TerminalGateway.Number
