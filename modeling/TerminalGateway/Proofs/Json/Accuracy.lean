import TerminalGateway.Proofs.Json.Numbers
import TerminalGateway.Proofs.Number.Accuracy

/-!
# How exactly numerals are understood

A numeral that is no whole number of 64 bits is gathered into a coefficient, and this is multiplied
or divided by a power of ten.  Digits that do not fit into the coefficient are lost, and each of the
three steps rounds.  What comes out, and what is written for it, is near the numeral.  If the
coefficient has fifteen digits at most and there are no more than 22 places, only the last step
rounds, and what is written is exact.

Main definitions:

- `Numeral.gathered`: the coefficient and the power of ten that a numeral is gathered into.
- `Numeral.IsShort`: a numeral with fifteen digits at most and no more than 22 places.
- `Numeral.writtenFactor`: how far what is written for a numeral can be from it.
- `Numeral.IsWrittenNear`: what is written for a numeral is near a magnitude, and exact if it is
  short.

Main results:

- Theorem `exists_scaled?`: a coefficient scaled by a power of ten is near their product.
- Theorem `gathered_near`: a numeral is gathered into a near number.
- Theorem `isWrittenNear_magnitude`: what is written for a numeral is near what it denotes.
-/

namespace TerminalGateway.Json.Numeral

open TerminalGateway.Number
open TerminalGateway.Number.Binary64 (scaled leadingUnit IsLong)

/-! ## Whole numbers -/

/-- A whole number with few significant bits. -/
def HasFewBits (n : Nat) : Prop :=
  ∃ a b, n = a * 2 ^ b ∧ a < 2 * leadingUnit ∧ b ≤ 900

/-- A whole number rounds to a near one, and to itself if it has few bits. -/
theorem ofNat_near {n : Nat} (hn : 0 < n) (hhigh : n < 10 ^ 40) :
    ∃ significand exponent, Binary64.ofNat n = .finite false significand exponent ∧
      IsLong significand ∧ Near roundingFactor (scaled significand exponent) n ∧
      (HasFewBits n → scaled significand exponent = n) := by
  have hhigh : (n : Rat) < 2 ^ (1000 : Int) := by
    calc (n : Rat) < 10 ^ 40 := by exact_mod_cast hhigh
      _ ≤ 2 ^ (140 : Int) := by norm_num
      _ ≤ 2 ^ (1000 : Int) := zpow_le_zpow_right₀ (by norm_num) (by norm_num)
  rcases Binary64.ofNat_encloses hn hhigh with ⟨significand, exponent, heq, hlong, hencloses⟩
  refine ⟨significand, exponent, heq, hlong, hencloses.near hlong.low, ?_⟩
  rintro ⟨a, b, rfl, ha, hb⟩
  have hpos : 0 < a := Nat.pos_of_mul_pos_right hn
  rcases Binary64.ofNat_exact hpos ha hb with ⟨_, _, hsame, -, hexact⟩
  injection heq.symm.trans hsame with _ hsignificand hexponent
  rw [hsignificand, hexponent, hexact]

/-! ## Scaling by a power of ten -/

theorem shrink_of_le (value : Binary64) {power : Nat} (h : power ≤ maxPower) :
    shrink value power = value.div (Binary64.ofNat (tenPow power)) := by
  rw [shrink, if_neg (fun hlarge => Nat.not_lt.mpr h hlarge.1), Nat.min_eq_left h]

/-- A value near one that is neither small nor great is neither. -/
theorem bounds_of_near {a b : Rat} {limit : Rat} (h : Near roundingFactor a b) (hlow : 1 ≤ b)
    (hhigh : b ≤ limit) : 1 / 2 ≤ a ∧ a ≤ 2 * limit := by
  have hle := h.le
  have hge := h.ge
  unfold roundingFactor at hle hge
  constructor
  · linarith
  · linarith

theorem two_zpow_le_of_le {value : Rat} (h : 1 / 10 ^ 40 ≤ value) :
    (2 : Rat) ^ (-1022 : Int) ≤ value := by
  calc (2 : Rat) ^ (-1022 : Int) ≤ 2 ^ (-140 : Int) :=
        zpow_le_zpow_right₀ (by norm_num) (by norm_num)
    _ ≤ 1 / 10 ^ 40 := by norm_num
    _ ≤ value := h

theorem lt_two_zpow_of_lt {value : Rat} (h : value < 10 ^ 60) : value < 2 ^ (1000 : Int) := by
  calc value < 10 ^ 60 := h
    _ ≤ 2 ^ (200 : Int) := by norm_num
    _ ≤ 2 ^ (1000 : Int) := zpow_le_zpow_right₀ (by norm_num) (by norm_num)

/-- The factor of the three roundings that a numeral goes through. -/
def scalingFactor : Rat :=
  roundingFactor * (roundingFactor * roundingFactor)

section Scaling

variable {coefficient : Nat} {power : Nat}

/-- What a whole number up to a limit rounds to: a near number, neither small nor great, and the
same one if it has few bits. -/
structure RoundsTo (n significand : Nat) (exponent : Int) (limit : Rat) : Prop where
  eq_finite : Binary64.ofNat n = .finite false significand exponent
  pos : 0 < significand
  near : Near roundingFactor (scaled significand exponent) n
  eq_of_few : HasFewBits n → scaled significand exponent = n
  low : 1 / 2 ≤ scaled significand exponent
  high : scaled significand exponent ≤ 2 * limit

theorem exists_roundsTo {n : Nat} {limit : Rat} (hn : 0 < n) (hhigh : n < 10 ^ 40)
    (hlimit : (n : Rat) ≤ limit) :
    ∃ significand exponent, RoundsTo n significand exponent limit := by
  rcases ofNat_near hn hhigh with ⟨significand, exponent, heq, hlong, hnear, hexact⟩
  rcases bounds_of_near hnear (Nat.one_le_cast.mpr hn) hlimit with ⟨hlow, hhigh⟩
  exact ⟨significand, exponent, heq, Nat.lt_of_lt_of_le (by decide) hlong.low, hnear, hexact, hlow,
    hhigh⟩

theorem exists_roundsTo_coefficient (hpos : 0 < coefficient)
    (hlimit : coefficient ≤ maxCoefficient) :
    ∃ significand exponent, RoundsTo coefficient significand exponent (10 ^ 20) := by
  have hhigh : coefficient < 10 ^ 20 := Nat.lt_of_le_of_lt hlimit (by decide)
  exact exists_roundsTo hpos (Nat.lt_trans hhigh (by decide)) (by exact_mod_cast hhigh.le)

theorem exists_roundsTo_tenPow (hpower : power ≤ 30) :
    ∃ significand exponent, RoundsTo (tenPow power) significand exponent (10 ^ 30) := by
  have hhigh : tenPow power ≤ 10 ^ 30 := Nat.pow_le_pow_right (by decide) hpower
  exact exists_roundsTo (tenPow_pos power) (Nat.lt_of_le_of_lt hhigh (by decide))
    (by exact_mod_cast hhigh)

/-- A coefficient divided by a power of ten is understood as a near number, which encloses the
quotient if neither of them was rounded. -/
theorem scaled?_quotient (negative : Bool) (hpos : 0 < coefficient)
    (hlimit : coefficient ≤ maxCoefficient) (hpower : power ≤ 30) (hplaces : 0 < power) :
    ∃ significand exponent,
      scaled? negative coefficient (-power) = some (.finite negative significand exponent) ∧
      IsLong significand ∧
      Near scalingFactor (scaled significand exponent) (coefficient / (tenPow power : Nat)) ∧
      (HasFewBits coefficient → HasFewBits (tenPow power) →
        Encloses significand exponent (coefficient / (tenPow power : Nat))) := by
  rcases exists_roundsTo_coefficient hpos hlimit with ⟨m, e, hm⟩
  rcases exists_roundsTo_tenPow hpower with ⟨n, f, hn⟩
  have hmLow := hm.low
  have hmHigh := hm.high
  have hnLow := hn.low
  have hnHigh := hn.high
  have hmScaled : 0 < scaled m e := by linarith
  have hnScaled : 0 < scaled n f := by linarith
  have hlow : 1 / 10 ^ 40 ≤ scaled m e / scaled n f := by
    rw [div_le_div_iff₀ (by norm_num) hnScaled]
    linarith
  have hhigh : scaled m e / scaled n f < 10 ^ 60 := by
    rw [div_lt_iff₀ hnScaled]
    linarith
  rcases Binary64.div_encloses hm.pos hn.pos (two_zpow_le_of_le hlow) (lt_two_zpow_of_lt hhigh) with
    ⟨significand, exponent, heq, hlong, hencloses⟩
  refine ⟨significand, exponent, ?_, hlong, ?_, ?_⟩
  · have hshrink := shrink_of_le (Binary64.ofNat coefficient) (Nat.le_trans hpower (by decide))
    unfold scaled?
    dsimp only
    rw [if_pos (by omega), Int.natAbs_neg, Int.natAbs_natCast, hshrink, hm.eq_finite,
      hn.eq_finite, heq]
    rfl
  · have hquotient := hm.near.div hn.near hmScaled.le (Nat.cast_nonneg _) hnScaled
      (tenPow_cast_pos power)
    exact (hencloses.near hlong.low).trans hquotient roundingFactor_pos.le
      (mul_pos roundingFactor_pos roundingFactor_pos).le
  · intro hfew hfewTen
    rw [← hm.eq_of_few hfew, ← hn.eq_of_few hfewTen]
    exact hencloses

/-- A coefficient times a power of ten is understood as a near number. -/
theorem scaled?_product (negative : Bool) (hpos : 0 < coefficient)
    (hlimit : coefficient ≤ maxCoefficient) (hpower : power ≤ 30) :
    ∃ significand exponent,
      scaled? negative coefficient power = some (.finite negative significand exponent) ∧
      IsLong significand ∧
      Near scalingFactor (scaled significand exponent) (coefficient * (tenPow power : Nat)) := by
  rcases exists_roundsTo_coefficient hpos hlimit with ⟨m, e, hm⟩
  rcases exists_roundsTo_tenPow hpower with ⟨n, f, hn⟩
  have hmLow := hm.low
  have hnLow := hn.low
  have hmScaled : 0 < scaled m e := by linarith
  have hnScaled : 0 < scaled n f := by linarith
  have hlow : 1 / 10 ^ 40 ≤ scaled m e * scaled n f := by
    calc (1 : Rat) / 10 ^ 40 ≤ 1 / 2 * (1 / 2) := by norm_num
      _ ≤ scaled m e * scaled n f := mul_le_mul hmLow hnLow (by norm_num) hmScaled.le
  have hhigh : scaled m e * scaled n f < 10 ^ 60 := by
    calc scaled m e * scaled n f ≤ 2 * 10 ^ 20 * (2 * 10 ^ 30) :=
          mul_le_mul hm.high hn.high hnScaled.le (by norm_num)
      _ < 10 ^ 60 := by norm_num
  rcases Binary64.mul_encloses hm.pos hn.pos (two_zpow_le_of_le hlow) (lt_two_zpow_of_lt hhigh) with
    ⟨significand, exponent, heq, hlong, hencloses⟩
  refine ⟨significand, exponent, ?_, hlong, ?_⟩
  · have hzero : (Binary64.finite false m e).isZero = false := decide_eq_false hm.pos.ne'
    unfold scaled?
    dsimp only
    rw [if_neg (by omega), hm.eq_finite, hzero, if_neg Bool.false_ne_true, Int.toNat_natCast,
      if_neg (Nat.not_lt.mpr (Nat.le_trans hpower (by decide))), hn.eq_finite, heq]
    rfl
  · have hproduct := hm.near.mul hn.near hmScaled.le (Nat.cast_nonneg _) hnScaled.le
      (Nat.cast_nonneg _)
    exact (hencloses.near hlong.low).trans hproduct roundingFactor_pos.le
      (mul_pos roundingFactor_pos roundingFactor_pos).le

/-- A coefficient scaled by a power of ten is understood as a near number, which encloses the
product if the coefficient and the power were not rounded. -/
theorem exists_scaled? (negative : Bool) (hpos : 0 < coefficient)
    (hlimit : coefficient ≤ maxCoefficient) {power : Int} (hlow : -30 ≤ power)
    (hhigh : power ≤ 30) :
    ∃ significand exponent,
      scaled? negative coefficient power = some (.finite negative significand exponent) ∧
      IsLong significand ∧
      Near scalingFactor (scaled significand exponent) (coefficient * 10 ^ power) ∧
      (power < 0 → HasFewBits coefficient → HasFewBits (tenPow power.natAbs) →
        Encloses significand exponent (coefficient * 10 ^ power)) := by
  have htenPow : ∀ k : Nat, ((tenPow k : Nat) : Rat) = 10 ^ (k : Int) := by
    intro k
    rw [show tenPow k = 10 ^ k from rfl, zpow_natCast]
    push_cast
    rfl
  rcases Int.lt_or_le power 0 with hnegative | hnatural
  · obtain ⟨places, rfl⟩ : ∃ places : Nat, power = -places := ⟨power.natAbs, by omega⟩
    have hplaces : places ≤ 30 := by omega
    rcases scaled?_quotient negative hpos hlimit hplaces (by omega) with
      ⟨significand, exponent, heq, hlong, hnear, hencloses⟩
    rw [htenPow, div_eq_mul_inv, ← zpow_neg] at hnear hencloses
    rw [Int.natAbs_neg, Int.natAbs_natCast]
    exact ⟨significand, exponent, heq, hlong, hnear, fun _ => hencloses⟩
  · obtain ⟨places, rfl⟩ : ∃ places : Nat, power = places := ⟨power.natAbs, by omega⟩
    have hplaces : places ≤ 30 := by omega
    rcases scaled?_product negative hpos hlimit hplaces with
      ⟨significand, exponent, heq, hlong, hnear⟩
    rw [htenPow] at hnear
    exact ⟨significand, exponent, heq, hlong, hnear, fun h => absurd h (Int.not_lt.mpr hnatural)⟩

end Scaling

/-! ## Gathering -/

section Gathering

variable {digits others : List Char} {coefficient : Nat}

theorem gatherWhole_le (h : coefficient ≤ maxCoefficient) (cs : List Char) :
    (gatherWhole coefficient cs).1 ≤ maxCoefficient ∧
      (gatherWhole coefficient cs).2 ≤ cs.length := by
  induction cs generalizing coefficient with
  | nil => exact ⟨h, Nat.le_refl _⟩
  | cons c cs ih =>
      unfold gatherWhole
      dsimp only
      split
      · exact ⟨h, Nat.le_refl _⟩
      · rename_i hfits
        rcases ih (Nat.le_of_not_lt hfits) with ⟨hcoefficient, hplaces⟩
        exact ⟨hcoefficient, Nat.le_succ_of_le hplaces⟩

theorem gatherFraction_le (h : coefficient ≤ maxCoefficient) (taken : Nat) (cs : List Char) :
    (gatherFraction coefficient taken cs).1 ≤ maxCoefficient ∧
      (gatherFraction coefficient taken cs).2 ≤ taken + cs.length := by
  induction cs generalizing coefficient taken with
  | nil => exact ⟨h, Nat.le_refl _⟩
  | cons c cs ih =>
      unfold gatherFraction
      dsimp only
      split
      · exact ⟨h, Nat.le_add_right _ _⟩
      · rename_i hfits
        rw [List.length_cons, Nat.add_comm cs.length, ← Nat.add_assoc]
        exact ih (Nat.le_of_not_lt hfits) (taken + 1)

theorem full_of_lt {digit : Nat} (hdigit : digit ≤ 9)
    (h : maxCoefficient < 10 * coefficient + digit) : 2 ^ 60 ≤ coefficient := by
  unfold maxCoefficient Number.limit64 at h
  omega

/-- Digits before the point are gathered from the front until the coefficient is full. -/
theorem exists_gatherWhole (hdigits : ∀ c ∈ digits, c.isDigit = true) (coefficient : Nat) :
    ∃ taken left, digits = taken ++ left ∧
      gatherWhole coefficient digits = (Nat.ofDigitChars 10 taken coefficient, left.length) ∧
      (left = [] ∨ 2 ^ 60 ≤ Nat.ofDigitChars 10 taken coefficient) := by
  induction digits generalizing coefficient with
  | nil => exact ⟨[], [], rfl, rfl, .inl rfl⟩
  | cons c cs ih =>
      have hc := hdigits c List.mem_cons_self
      rw [gatherWhole, Text.digit?_of_isDigit hc, Option.getD_some, Nat.mul_comm coefficient]
      split
      · rename_i hfull
        exact ⟨[], c :: cs, rfl, rfl, .inr (full_of_lt (Text.digit_le hc) hfull)⟩
      · rcases ih (fun d hd => hdigits d (List.mem_cons_of_mem _ hd)) _ with
          ⟨taken, left, rfl, heq, hend⟩
        rw [← Nat.ofDigitChars_cons] at heq hend
        exact ⟨c :: taken, left, rfl, heq, hend⟩

/-- Digits behind the point are gathered from the front until the coefficient is full. -/
theorem exists_gatherFraction (hdigits : ∀ c ∈ digits, c.isDigit = true) (coefficient count : Nat) :
    ∃ taken left, digits = taken ++ left ∧
      gatherFraction coefficient count digits =
        (Nat.ofDigitChars 10 taken coefficient, count + taken.length) ∧
      (left = [] ∨ 2 ^ 60 ≤ Nat.ofDigitChars 10 taken coefficient) := by
  induction digits generalizing coefficient count with
  | nil => exact ⟨[], [], rfl, rfl, .inl rfl⟩
  | cons c cs ih =>
      have hc := hdigits c List.mem_cons_self
      rw [gatherFraction, Text.digit?_of_isDigit hc, Option.getD_some, Nat.mul_comm coefficient]
      split
      · rename_i hfull
        exact ⟨[], c :: cs, rfl, rfl, .inr (full_of_lt (Text.digit_le hc) hfull)⟩
      · rcases ih (fun d hd => hdigits d (List.mem_cons_of_mem _ hd)) _ (count + 1) with
          ⟨taken, left, rfl, heq, hend⟩
        rw [← Nat.ofDigitChars_cons, Nat.add_right_comm, Nat.add_assoc] at heq
        rw [← Nat.ofDigitChars_cons] at hend
        exact ⟨c :: taken, left, rfl, heq, hend⟩

/-- A number lies between the coefficient that its digits begin with and the next one. -/
theorem bounds_of_digits (hdigits : ∀ c ∈ digits, c.isDigit = true) (coefficient : Nat)
    (power : Int) :
    coefficient * (10 : Rat) ^ (power + digits.length) ≤
        Nat.ofDigitChars 10 digits coefficient * 10 ^ power ∧
      Nat.ofDigitChars 10 digits coefficient * 10 ^ power ≤
        ((coefficient : Rat) + 1) * 10 ^ (power + digits.length) := by
  have hpos : (0 : Rat) < 10 ^ power := by positivity
  have hlow : coefficient * 10 ^ digits.length ≤ Nat.ofDigitChars 10 digits coefficient := by
    rw [Nat.ofDigitChars_eq_ofDigitChars_zero, Nat.mul_comm]
    exact Nat.le_add_right _ _
  have hhigh := (Text.ofDigitChars_lt hdigits coefficient).le
  rw [add_comm, zpow_add₀ (by norm_num), zpow_natCast, ← mul_assoc, ← mul_assoc]
  exact ⟨mul_le_mul_of_nonneg_right (by exact_mod_cast hlow) hpos.le,
    mul_le_mul_of_nonneg_right (by exact_mod_cast hhigh) hpos.le⟩

/-- The factor by which numbers with the same full coefficient can differ. -/
def gatherFactor : Rat :=
  1 + 1 / 2 ^ 60

/-- Numbers whose digits begin with the same full coefficient are near. -/
theorem near_of_full (hfull : 2 ^ 60 ≤ coefficient) (hdigits : ∀ c ∈ digits, c.isDigit = true)
    (hothers : ∀ c ∈ others, c.isDigit = true) {power otherPower : Int}
    (hlevel : power + digits.length = otherPower + others.length) :
    Near gatherFactor (Nat.ofDigitChars 10 digits coefficient * 10 ^ power)
      (Nat.ofDigitChars 10 others coefficient * 10 ^ otherPower) := by
  have hpos : (0 : Rat) < 10 ^ (power + digits.length) := by positivity
  have hfull : (2 ^ 60 : Rat) ≤ coefficient := by exact_mod_cast hfull
  have hscaled := mul_le_mul_of_nonneg_right hfull hpos.le
  rcases bounds_of_digits hdigits coefficient power with ⟨hdigitsLow, hdigitsHigh⟩
  rcases bounds_of_digits hothers coefficient otherPower with ⟨hothersLow, hothersHigh⟩
  rw [← hlevel] at hothersLow hothersHigh
  unfold gatherFactor
  constructor
  · linarith
  · linarith

end Gathering

/-- What a numeral without an exponent is gathered into: a coefficient and a power of ten. -/
def gathered (n : Numeral) : Nat × Int :=
  let (coefficient, places) := gatherWhole 0 n.whole
  let (coefficient, taken) := gatherFraction coefficient 0 (n.fraction.getD [])
  (coefficient, places - taken)

theorem IsPlain.isDigit_fraction {n : Numeral} (h : n.IsPlain) :
    ∀ c ∈ n.fraction.getD [], c.isDigit = true := by
  intro c hc
  cases hfraction : n.fraction with
  | none =>
      rw [hfraction] at hc
      exact absurd hc List.not_mem_nil
  | some digits =>
      rw [hfraction] at hc
      exact (h.fraction digits hfraction).2 c hc

/-- A numeral is gathered into a near number, and into all its digits if these fit easily. -/
theorem gathered_near {n : Numeral} (hplain : n.IsPlain) (hexponent : n.exponent = none) :
    Near gatherFactor ((gathered n).1 * 10 ^ (gathered n).2) n.magnitude ∧
      (digitsValue (n.whole ++ n.fraction.getD []) < 2 ^ 60 →
        gathered n =
          (digitsValue (n.whole ++ n.fraction.getD []), -((n.fraction.getD []).length : Int))) := by
  have hfraction := hplain.isDigit_fraction
  have hwhole := hplain.whole.2
  unfold gathered magnitude exponentValue digitsValue
  rw [hexponent]
  generalize n.fraction.getD [] = fraction at *
  generalize n.whole = whole at *
  rcases exists_gatherWhole hwhole 0 with ⟨taken, left, rfl, hgathered, hend⟩
  rcases exists_gatherFraction hfraction (Nat.ofDigitChars 10 taken 0) 0 with
    ⟨fractionTaken, fractionLeft, rfl, hgatheredFraction, hfractionEnd⟩
  rw [hgathered]
  dsimp only
  rw [hgatheredFraction, List.append_assoc, Nat.ofDigitChars_append]
  generalize Nat.ofDigitChars 10 taken 0 = coefficient at *
  rcases hend with rfl | hfull
  · rw [List.nil_append, Nat.ofDigitChars_append]
    generalize Nat.ofDigitChars 10 fractionTaken coefficient = full at *
    rcases hfractionEnd with rfl | hfull
    · -- all digits were taken
      have hpower : ((0 : Nat) : Int) - (0 + fractionTaken.length : Nat) =
          -((fractionTaken ++ []).length : Int) := by
        rw [List.append_nil]
        omega
      dsimp only [List.length_nil]
      rw [hpower, zero_sub]
      exact ⟨.refl (by norm_num [gatherFactor]) (by positivity), fun _ => rfl⟩
    · have hnone : ∀ c ∈ ([] : List Char), c.isDigit = true := fun _ h => nomatch h
      refine ⟨near_of_full hfull hnone (fun c hc => hfraction c (List.mem_append_right _ hc)) ?_,
        fun hsmall => ?_⟩
      · simp
      · exact absurd (Nat.le_trans hfull (Text.le_ofDigitChars _ _)) (Nat.not_le.mpr hsmall)
  · refine ⟨near_of_full hfull (fun c hc => hfraction c (List.mem_append_left _ hc)) ?_ ?_,
      fun hsmall => ?_⟩
    · intro c hc
      rcases List.mem_append.mp hc with hleft | hc
      · exact hwhole c (List.mem_append_right _ hleft)
      · exact hfraction c hc
    · simp only [List.length_append]
      omega
    · exact absurd (Nat.le_trans hfull (Text.le_ofDigitChars _ _)) (Nat.not_le.mpr hsmall)

/-- The coefficient fits, and the power of ten stays within the places of the numeral. -/
theorem gathered_bounds (n : Numeral) :
    (gathered n).1 ≤ maxCoefficient ∧ -((n.fraction.getD []).length : Int) ≤ (gathered n).2 ∧
      (gathered n).2 ≤ n.whole.length := by
  rcases gatherWhole_le (Nat.zero_le maxCoefficient) n.whole with ⟨hcoefficient, hplaces⟩
  rcases gatherFraction_le hcoefficient 0 (n.fraction.getD []) with ⟨hfits, htaken⟩
  unfold gathered
  dsimp only
  omega

/-! ## What is written -/

/-- A numeral with fifteen digits at most and no more than 22 places. -/
structure IsShort (n : Numeral) : Prop where
  digits : digitsValue (n.whole ++ n.fraction.getD []) < 10 ^ 15
  places : (n.fraction.getD []).length ≤ 22

/-- The factor by which the value that is written for a numeral can differ from it. -/
def writtenFactor : Rat :=
  roundingFactor * (scalingFactor * gatherFactor)

theorem one_le_writtenFactor : 1 ≤ writtenFactor := by
  norm_num [writtenFactor, scalingFactor, roundingFactor, gatherFactor]

/-- The factor as a bound on the difference. -/
theorem abs_sub_le_of_near {written magnitude : Rat} (h : Near writtenFactor written magnitude)
    (hmagnitude : 0 ≤ magnitude) : |written - magnitude| ≤ magnitude / 2 ^ 49 := by
  have hfactor : (writtenFactor - 1) * writtenFactor ≤ 1 / 2 ^ 49 := by
    norm_num [writtenFactor, scalingFactor, roundingFactor, gatherFactor]
  calc |written - magnitude| ≤ (writtenFactor - 1) * writtenFactor * magnitude :=
        h.abs_sub_le one_le_writtenFactor hmagnitude
    _ ≤ 1 / 2 ^ 49 * magnitude := mul_le_mul_of_nonneg_right hfactor hmagnitude
    _ = magnitude / 2 ^ 49 := by ring

theorem number?_of_some {n : Numeral} (hexponent : n.exponent = none) {digits : List Char}
    (hfraction : n.fraction = some digits) :
    n.number? = (scaled? n.negative (gathered n).1 (gathered n).2).map .real := by
  unfold number? gathered
  rw [hexponent, hfraction]
  dsimp only [Option.getD_some]
  rw [add_zero]

theorem number?_of_none {n : Numeral} (hexponent : n.exponent = none)
    (hfraction : n.fraction = none) (hplaces : (gatherWhole 0 n.whole).2 ≠ 0) :
    n.number? = (scaled? n.negative (gathered n).1 (gathered n).2).map .real := by
  unfold number? gathered
  rw [hexponent, hfraction]
  dsimp only [Option.getD_none, gatherFraction]
  rw [if_pos hplaces, Nat.cast_zero, sub_zero]

theorem hasFewBits_of_lt {n : Nat} (h : n < 10 ^ 15) : HasFewBits n :=
  ⟨n, 0, (Nat.mul_one n).symm, Nat.lt_trans h (by decide), by decide⟩

theorem hasFewBits_tenPow {power : Nat} (h : power ≤ 22) : HasFewBits (tenPow power) := by
  refine ⟨5 ^ power, power, Nat.mul_pow 5 2 power, ?_, Nat.le_trans h (by decide)⟩
  exact Nat.lt_of_le_of_lt (Nat.pow_le_pow_right (by decide) h) (by decide)

/-- A long binary number is written with its shortest digits. -/
theorem denotes_long (negative : Bool) {significand : Nat} (exponent : Int)
    (hlong : IsLong significand) :
    (Number.real (.finite negative significand exponent)).Denotes
      (if negative then -(shortest Layout.json.tie significand exponent).value
        else (shortest Layout.json.tie significand exponent).value) := by
  have hsignificand : 0 < significand := Nat.lt_of_lt_of_le (by decide) hlong.low
  refine Number.denotes_real negative hsignificand.ne' fun hzero => ?_
  have hscaled : 0 < scaled significand exponent := by
    unfold scaled
    positivity
  have hle := (near_shortest Layout.json.tie exponent hlong).ge
  rw [Digits.value, hzero, Nat.cast_zero, zero_mul, mul_zero] at hle
  exact absurd hscaled (not_lt.mpr hle)

/-- A numeral of a given magnitude is understood, and what is written for it is near that magnitude,
and the same if the numeral is short. -/
def IsWrittenNear (n : Numeral) (size : Rat) : Prop :=
  ∃ number magnitude, n.number? = some number ∧
    number.Denotes (if n.negative then -magnitude else magnitude) ∧
    Near writtenFactor magnitude size ∧ (n.IsShort → magnitude = size)

/-- A numeral that is understood as a scaled coefficient is written as a near value. -/
theorem isWrittenNear_scaled {n : Numeral} (hplain : n.IsPlain) (hexponent : n.exponent = none)
    (hpos : 0 < n.magnitude) (hwhole : n.whole.length ≤ 30)
    (hfraction : (n.fraction.getD []).length ≤ 30)
    (hshort : n.IsShort → n.fraction ≠ none)
    (hnumber : n.number? = (scaled? n.negative (gathered n).1 (gathered n).2).map .real) :
    n.IsWrittenNear n.magnitude := by
  rcases gathered_near hplain hexponent with ⟨hnear, hfew⟩
  rcases gathered_bounds n with ⟨hlimit, hlow, hhigh⟩
  have hcoefficient : 0 < (gathered n).1 := by
    apply Nat.pos_of_ne_zero
    intro hzero
    have hge := hnear.ge
    rw [hzero, Nat.cast_zero, zero_mul, mul_zero] at hge
    exact absurd hpos (not_lt.mpr hge)
  have hpowerLow : -30 ≤ (gathered n).2 := by omega
  rcases exists_scaled? n.negative hcoefficient hlimit hpowerLow (by omega) with
    ⟨significand, exponent, hscaled, hlong, hrounded, hencloses⟩
  refine ⟨_, _, by rw [hnumber, hscaled]; rfl, denotes_long _ exponent hlong, ?_, ?_⟩
  · have hgathered := hrounded.trans hnear (by norm_num [scalingFactor, roundingFactor])
      (by norm_num [gatherFactor])
    exact (near_shortest _ exponent hlong).trans hgathered roundingFactor_pos.le
      (by norm_num [scalingFactor, roundingFactor, gatherFactor])
  · intro h
    rw [hfew (Nat.lt_trans h.digits (by decide))] at hencloses
    dsimp only at hencloses
    rw [Int.natAbs_neg, Int.natAbs_natCast] at hencloses
    have hplaces : 0 < (n.fraction.getD []).length := by
      rcases Option.ne_none_iff_exists'.mp (hshort h) with ⟨digits, hdigits⟩
      rw [hdigits, Option.getD_some]
      exact List.length_pos_of_ne_nil (hplain.fraction digits hdigits).1
    unfold magnitude exponentValue
    rw [hexponent]
    dsimp only
    rw [zero_sub]
    exact shortest_value _ hlong.low h.digits
      (hencloses (by omega) (hasFewBits_of_lt h.digits) (hasFewBits_tenPow h.places))

/-- A whole number is gathered in full, or is greater than what surely fits. -/
theorem gatherWhole_cases {whole : List Char} (hwhole : ∀ c ∈ whole, c.isDigit = true) :
    gatherWhole 0 whole = (digitsValue whole, 0) ∨
      (gatherWhole 0 whole).2 ≠ 0 ∧ 2 ^ 60 ≤ digitsValue whole := by
  rcases exists_gatherWhole hwhole 0 with ⟨taken, left, rfl, heq, hend⟩
  rw [heq]
  rcases Nat.eq_zero_or_pos left.length with hnone | hsome
  · obtain rfl := List.eq_nil_of_length_eq_zero hnone
    rw [List.append_nil]
    exact .inl rfl
  · refine .inr ⟨hsome.ne', ?_⟩
    rw [digitsValue, Nat.ofDigitChars_append]
    exact Nat.le_trans (hend.resolve_left (List.ne_nil_of_length_pos hsome))
      (Text.le_ofDigitChars _ _)

/-- A whole number that is gathered in full is written as itself, unless it is negative and has more
than 63 bits. -/
theorem isWrittenNear_whole {n : Numeral} (hexponent : n.exponent = none)
    (hfraction : n.fraction = none) (hpos : 0 < digitsValue n.whole)
    (hall : gatherWhole 0 n.whole = (digitsValue n.whole, 0)) :
    n.IsWrittenNear (digitsValue n.whole) := by
  have hself : Near writtenFactor (digitsValue n.whole) (digitsValue n.whole) :=
    .refl one_le_writtenFactor (Nat.cast_nonneg _)
  have hlimit := (gatherWhole_le (Nat.zero_le maxCoefficient) n.whole).1
  have hnumber : n.number? =
      if !n.negative then some (.whole (digitsValue n.whole))
      else if digitsValue n.whole = 0 ∨ Number.signedLimit64 < digitsValue n.whole then
        some (.real ((Binary64.ofNat (digitsValue n.whole)).withSign true))
      else some (.whole (-(digitsValue n.whole : Int))) := by
    unfold number?
    rw [hexponent, hfraction, hall]
    rfl
  rw [hall] at hlimit
  unfold IsWrittenNear
  rw [hnumber]
  cases n.negative with
  | false =>
      refine ⟨_, _, rfl, ?_, hself, fun _ => rfl⟩
      exact_mod_cast Number.denotes_whole (digitsValue n.whole)
  | true =>
      by_cases hlarge : Number.signedLimit64 < digitsValue n.whole
      · have hhigh : digitsValue n.whole < 10 ^ 40 := Nat.lt_of_le_of_lt hlimit (by decide)
        rcases ofNat_near hpos hhigh with ⟨significand, exponent, heq, hlong, hnear, -⟩
        rw [if_neg (by decide), if_pos (.inr hlarge), heq]
        refine ⟨_, _, rfl, denotes_long true exponent hlong, ?_, fun hshort => ?_⟩
        · refine ((near_shortest _ exponent hlong).trans hnear roundingFactor_pos.le
            roundingFactor_pos.le).mono ?_ ?_ (Nat.cast_nonneg _)
          · norm_num [writtenFactor, scalingFactor, roundingFactor, gatherFactor]
          · unfold Digits.value
            positivity
        · have hdigits := hshort.digits
          rw [hfraction, Option.getD_none, List.append_nil] at hdigits
          exact absurd (Nat.lt_trans hlarge hdigits) (by decide)
      · rw [if_neg (by decide), if_neg (by omega)]
        refine ⟨_, _, rfl, ?_, hself, fun _ => rfl⟩
        exact_mod_cast Number.denotes_whole (-(digitsValue n.whole : Int))

/-- A numeral of a positive number within reach of a decimal is written as a near value. -/
theorem isWrittenNear_magnitude {n : Numeral} (hplain : n.IsPlain) (hexponent : n.exponent = none)
    (hpos : 0 < n.magnitude) (hwhole : n.whole.length ≤ 30)
    (hfraction : (n.fraction.getD []).length ≤ 30) :
    n.IsWrittenNear n.magnitude := by
  cases hcase : n.fraction with
  | some digits =>
      exact isWrittenNear_scaled hplain hexponent hpos hwhole hfraction (fun _ => by simp [hcase])
        (number?_of_some hexponent hcase)
  | none =>
      have hdigits : n.whole ++ n.fraction.getD [] = n.whole := by
        rw [hcase, Option.getD_none, List.append_nil]
      rcases gatherWhole_cases hplain.whole.2 with hall | ⟨hplaces, hlarge⟩
      · have hmagnitude : n.magnitude = digitsValue n.whole := by
          rw [magnitude, hdigits, exponentValue, hexponent, hcase]
          norm_num
        rw [hmagnitude] at hpos ⊢
        exact isWrittenNear_whole hexponent hcase (by exact_mod_cast hpos) hall
      · refine isWrittenNear_scaled hplain hexponent hpos hwhole hfraction (fun hshort => ?_)
          (number?_of_none hexponent hcase hplaces)
        have hdigitsShort := hshort.digits
        rw [hdigits] at hdigitsShort
        omega

end TerminalGateway.Json.Numeral
