import TerminalGateway.Proofs.Number.Rounding

/-!
# Short decimals come back from their nearest number

The values that round to a binary number span no more than one unit in its last place.  A decimal
grid that is wider than this has one such value at most.  So if a decimal on such a grid rounds to
the number, the search for the shortest digits, which goes from wide grids to narrow ones and tries
the neighbours of the number on each, ends with that decimal.  This is so for decimals of fifteen
digits, since a significand has nearly sixteen.

Main definitions:

- `Digits.value`: the value of digits.
- `readsBack`: the test of a candidate on a grid.

Main results:

- Theorem `leadingDigit_spec`: the leading digit of a ratio.
- Theorem `readsBack_iff`: a candidate is accepted if the number encloses it.
- Theorem `shortestFrom_accepts`: the search ends with an accepted candidate.
- Theorem `shortest_value`: fifteen digits come back.
- Theorem `encloses_shortest`: seventeen digits are always enough.
-/

namespace TerminalGateway.Number

open Binary64 (scaled leadingUnit minExponent)

/-! ## The leading digit -/

namespace Digits

theorem count_le_iff {n k : Nat} (hk : 0 < k) : count n ≤ k ↔ n < 10 ^ k :=
  Nat.length_toDigits_le_iff (by decide) hk

theorem count_pos (n : Nat) : 0 < count n :=
  List.length_pos_of_ne_nil Nat.toDigits_ne_nil

theorem lt_pow_count (n : Nat) : n < 10 ^ count n :=
  (count_le_iff (count_pos n)).mp (Nat.le_refl _)

theorem pow_le_of_count {n k : Nat} (hn : 0 < n) (h : count n = k + 1) : 10 ^ k ≤ n := by
  rcases Nat.eq_zero_or_pos k with rfl | hk
  · exact hn
  · exact Nat.le_of_not_lt fun hlt => by
      have hle := (count_le_iff hk).mpr hlt
      omega

end Digits

variable {num den : Nat}

/-- The leading digit of a ratio. -/
theorem leadingDigit_spec (hnum : 0 < num) (hden : 0 < den) :
    (10 : Rat) ^ leadingDigit num den ≤ num / den ∧
      (num : Rat) / den < 10 ^ (leadingDigit num den + 1) := by
  have hnumRat : (0 : Rat) < num := Nat.cast_pos.mpr hnum
  have hdenRat : (0 : Rat) < den := Nat.cast_pos.mpr hden
  unfold leadingDigit
  split
  · rename_i hle
    have hquotient : 0 < num / den := Nat.div_pos hle hden
    obtain ⟨k, hk⟩ : ∃ k, Digits.count (num / den) = k + 1 :=
      Nat.exists_eq_succ_of_ne_zero (Nat.ne_of_gt (Digits.count_pos _))
    have hlow := Nat.mul_le_of_le_div _ _ _ (Digits.pow_le_of_count hquotient hk)
    have hhigh := (Nat.div_lt_iff_lt_mul hden).mp (Digits.lt_pow_count (num / den))
    rw [hk] at hhigh ⊢
    have hpower : ((k + 1 : Nat) : Int) - 1 = k := by omega
    rw [hpower]
    constructor
    · rw [le_div_iff₀ hdenRat, zpow_natCast]
      exact_mod_cast hlow
    · rw [div_lt_iff₀ hdenRat, ← Nat.cast_succ, zpow_natCast]
      exact_mod_cast hhigh
  · rename_i hlt
    have hdiv := Nat.div_add_mod (den + num - 1) num
    have hmod := Nat.mod_lt (den + num - 1) hnum
    generalize (den + num - 1) / num = ceiling at *
    have hceiling : 0 < ceiling - 1 := by
      have hmany : ¬ceiling ≤ 1 := by
        intro hle
        have hproduct := Nat.mul_le_mul_left num hle
        omega
      omega
    obtain ⟨k, hk⟩ : ∃ k, Digits.count (ceiling - 1) = k + 1 :=
      Nat.exists_eq_succ_of_ne_zero (Nat.ne_of_gt (Digits.count_pos _))
    have hlow := Digits.pow_le_of_count hceiling hk
    have hhigh := Digits.lt_pow_count (ceiling - 1)
    rw [hk] at hhigh ⊢
    have hden : den ≤ num * 10 ^ (k + 1) := by
      have hproduct := Nat.mul_le_mul_left num (show ceiling ≤ 10 ^ (k + 1) by omega)
      omega
    have hnum : num * 10 ^ k < den := by
      have hproduct := Nat.mul_le_mul_left num (show 10 ^ k + 1 ≤ ceiling by omega)
      rw [Nat.mul_succ] at hproduct
      omega
    have hpower : -((k + 1 : Nat) : Int) + 1 = -k := by omega
    rw [hpower, zpow_neg, zpow_neg, zpow_natCast, zpow_natCast]
    constructor
    · rw [inv_le_comm₀ (by positivity) (by positivity), inv_div, div_le_iff₀ hnumRat]
      rw [mul_comm]
      exact_mod_cast hden
    · rw [lt_inv_comm₀ (by positivity) (by positivity), inv_div, lt_div_iff₀ hnumRat]
      rw [mul_comm]
      exact_mod_cast hnum

/-! ## Candidates -/

/-- The value of digits. -/
def Digits.value (d : Digits) : Rat :=
  d.coefficient * 10 ^ d.power

/-- The unit of a decimal grid and that of the bounds, on a common scale. -/
def gridUnit (exponent power : Int) : Nat :=
  tenPow power.toNat * twoPow (-(exponent - 2)).toNat

/-- The scale of the bounds. -/
def boundScale (exponent power : Int) : Nat :=
  twoPow (exponent - 2).toNat * tenPow (-power).toNat

/-- The test of a candidate on a grid. -/
def readsBack (significand : Nat) (exponent power : Int) (candidate : Nat) : Bool :=
  ((bounds significand exponent).1 * boundScale exponent power <
      candidate * gridUnit exponent power ||
    (significand % 2 = 0 && (bounds significand exponent).1 * boundScale exponent power =
      candidate * gridUnit exponent power)) &&
  (candidate * gridUnit exponent power <
      (bounds significand exponent).2 * boundScale exponent power ||
    (significand % 2 = 0 && candidate * gridUnit exponent power =
      (bounds significand exponent).2 * boundScale exponent power))

/-- The neighbour below a number on a grid. -/
def floorOn (significand : Nat) (exponent power : Int) : Nat :=
  4 * significand * boundScale exponent power / gridUnit exponent power

variable {tie : Tie} {significand : Nat} {exponent top power : Int} {digits remaining : Nat}

theorem settle_eq_or_eq (tie : Tie) (floor : Nat) :
    tie.settle floor = floor ∨ tie.settle floor = floor + 1 := by
  cases tie with
  | even =>
      change floor + floor % 2 = floor ∨ floor + floor % 2 = floor + 1
      omega
  | up => exact .inr rfl

/-- On each grid the neighbours of the number are tested. -/
theorem shortestFrom_succ (tie : Tie) (significand : Nat) (exponent top : Int)
    (digits remaining : Nat) :
    ∃ nearest, (nearest = floorOn significand exponent (top - digits + 1) ∨
        nearest = floorOn significand exponent (top - digits + 1) + 1) ∧
      shortestFrom tie significand exponent top digits (remaining + 1) =
        if readsBack significand exponent (top - digits + 1)
            (floorOn significand exponent (top - digits + 1)) &&
          readsBack significand exponent (top - digits + 1)
            (floorOn significand exponent (top - digits + 1) + 1) then
          ⟨nearest, top - digits + 1⟩
        else if readsBack significand exponent (top - digits + 1)
            (floorOn significand exponent (top - digits + 1)) then
          ⟨floorOn significand exponent (top - digits + 1), top - digits + 1⟩
        else if readsBack significand exponent (top - digits + 1)
            (floorOn significand exponent (top - digits + 1) + 1) then
          ⟨floorOn significand exponent (top - digits + 1) + 1, top - digits + 1⟩
        else shortestFrom tie significand exponent top (digits + 1) remaining := by
  refine ⟨_, ?_, rfl⟩
  split
  · exact .inl rfl
  split
  · exact .inr rfl
  · exact settle_eq_or_eq tie _

/-- What the bounds and the units of a grid are multiplied by to make them whole. -/
def commonScale (exponent power : Int) : Rat :=
  twoPow (-(exponent - 2)).toNat * tenPow (-power).toNat

theorem commonScale_pos (exponent power : Int) : 0 < commonScale exponent power :=
  mul_pos (twoPow_cast_pos _) (tenPow_cast_pos _)

theorem cast_mul_boundScale (n : Nat) (exponent power : Int) :
    ((n * boundScale exponent power : Nat) : Rat) =
      n * 2 ^ (exponent - 2) * commonScale exponent power := by
  rw [boundScale, commonScale, Nat.cast_mul, Nat.cast_mul, twoPow_toNat]
  ring

theorem cast_mul_gridUnit (n : Nat) (exponent power : Int) :
    ((n * gridUnit exponent power : Nat) : Rat) =
      n * 10 ^ power * commonScale exponent power := by
  rw [gridUnit, commonScale, Nat.cast_mul, Nat.cast_mul, tenPow_toNat]
  ring

theorem bound_lt_iff (n candidate : Nat) :
    n * boundScale exponent power < candidate * gridUnit exponent power ↔
      (n : Rat) * 2 ^ (exponent - 2) < candidate * 10 ^ power := by
  rw [← Nat.cast_lt (α := Rat), cast_mul_boundScale, cast_mul_gridUnit,
    mul_lt_mul_iff_left₀ (commonScale_pos exponent power)]

theorem lt_bound_iff (n candidate : Nat) :
    candidate * gridUnit exponent power < n * boundScale exponent power ↔
      candidate * 10 ^ power < (n : Rat) * 2 ^ (exponent - 2) := by
  rw [← Nat.cast_lt (α := Rat), cast_mul_boundScale, cast_mul_gridUnit,
    mul_lt_mul_iff_left₀ (commonScale_pos exponent power)]

theorem bound_eq_iff (n candidate : Nat) :
    n * boundScale exponent power = candidate * gridUnit exponent power ↔
      (n : Rat) * 2 ^ (exponent - 2) = candidate * 10 ^ power := by
  rw [← Nat.cast_inj (R := Rat), cast_mul_boundScale, cast_mul_gridUnit,
    mul_left_inj' (commonScale_pos exponent power).ne']

theorem eq_bound_iff (n candidate : Nat) :
    candidate * gridUnit exponent power = n * boundScale exponent power ↔
      candidate * 10 ^ power = (n : Rat) * 2 ^ (exponent - 2) := by
  rw [eq_comm, bound_eq_iff, eq_comm]

/-- The ends belong to the numbers with even significands. -/
theorem lt_or_even_iff {a b : Rat} :
    a < b ∨ significand % 2 = 0 ∧ a = b ↔ a ≤ b ∧ (significand % 2 = 1 → a < b) := by
  constructor
  · rintro (hlt | ⟨heven, heq⟩)
    · exact ⟨hlt.le, fun _ => hlt⟩
    · exact ⟨heq.le, fun hodd => absurd hodd (by omega)⟩
  · rintro ⟨hle, hodd⟩
    rcases Nat.mod_two_eq_zero_or_one significand with heven | h
    · exact hle.lt_or_eq.imp_right fun heq => ⟨heven, heq⟩
    · exact .inl (hodd h)

/-- A candidate is accepted if the number encloses it. -/
theorem readsBack_iff (candidate : Nat) :
    readsBack significand exponent power candidate = true ↔
      Encloses significand exponent (candidate * 10 ^ power) := by
  simp only [readsBack, Bool.and_eq_true, Bool.or_eq_true, decide_eq_true_eq, bound_lt_iff,
    bound_eq_iff, lt_bound_iff, eq_bound_iff, lt_or_even_iff]
  constructor
  · rintro ⟨⟨hlow, hlowOdd⟩, hhigh, hhighOdd⟩
    exact ⟨hlow, hhigh, hlowOdd, hhighOdd⟩
  · rintro ⟨hlow, hhigh, hlowOdd, hhighOdd⟩
    exact ⟨⟨hlow, hlowOdd⟩, hhigh, hhighOdd⟩

/-- The neighbours of a number on a grid lie around it. -/
theorem floorOn_spec (significand : Nat) (exponent power : Int) :
    (floorOn significand exponent power : Rat) * 10 ^ power ≤ scaled significand exponent ∧
      scaled significand exponent < (floorOn significand exponent power + 1 : Nat) * 10 ^ power := by
  have hscaled : ((4 * significand : Nat) : Rat) * 2 ^ (exponent - 2) =
      scaled significand exponent := by
    rw [scaled, Binary64.two_zpow_eq exponent]
    push_cast
    ring
  have hunit : 0 < gridUnit exponent power :=
    Nat.mul_pos (tenPow_pos _) (twoPow_pos _)
  constructor
  · rw [← hscaled, ← not_lt, ← bound_lt_iff, Nat.not_lt]
    exact Nat.div_mul_le_self _ _
  · rw [← hscaled, ← bound_lt_iff]
    exact (Nat.div_lt_iff_lt_mul hunit).mp (Nat.lt_succ_self _)

/-! ## The search -/

/-- A candidate on a grid, on a narrower one. -/
theorem cast_pow_sub (candidate : Nat) {narrow : Int} (h : narrow ≤ power) :
    ((candidate * 10 ^ (power - narrow).toNat : Nat) : Rat) * 10 ^ narrow =
      candidate * 10 ^ power := by
  have hpower : power = ((power - narrow).toNat : Int) + narrow := by omega
  conv_rhs => rw [hpower, zpow_add₀ (by norm_num), zpow_natCast]
  push_cast
  ring

/-- What a number encloses spans one unit in its last place at most. -/
theorem Encloses.sub_le {a b : Rat} (hsignificand : leadingUnit ≤ significand)
    (ha : Encloses significand exponent a) (hb : Encloses significand exponent b) :
    a - b ≤ 2 ^ exponent := by
  have hupper := Binary64.upper_of_encloses ha
  have hlower := Binary64.lower_of_encloses hsignificand hb
  rw [Binary64.two_zpow_eq]
  linarith

/-- A grid that is wider than that has one value that a number encloses. -/
theorem Encloses.eq_of_grid {a b : Nat} (hsignificand : leadingUnit ≤ significand)
    (hgrid : (2 : Rat) ^ exponent < 10 ^ power)
    (ha : Encloses significand exponent (a * 10 ^ power))
    (hb : Encloses significand exponent (b * 10 ^ power)) : a = b := by
  have hpos : (0 : Rat) < 10 ^ power := by positivity
  have habove {m n : Nat} (h : (m : Rat) * 10 ^ power - n * 10 ^ power ≤ 2 ^ exponent) :
      m < n + 1 := by
    have hlt : (m : Rat) * 10 ^ power < (n + 1 : Nat) * 10 ^ power := by
      push_cast
      linarith
    exact_mod_cast lt_of_mul_lt_mul_right hlt hpos.le
  have hab := habove (ha.sub_le hsignificand hb)
  have hba := habove (hb.sub_le hsignificand ha)
  omega

/-- A number encloses itself. -/
theorem encloses_scaled (exponent : Int) (hsignificand : leadingUnit ≤ significand) :
    Encloses significand exponent (scaled significand exponent) := by
  have hnear : Binary64.IsNear significand (significand : Rat) := by
    constructor
    case low => linarith
    case high => linarith
    case low_of_odd =>
      intro _
      linarith
    case high_of_odd =>
      intro _
      linarith
  exact Binary64.encloses_of_isNear rfl hnear (Nat.cast_le.mpr hsignificand) hsignificand

/-- On a grid that is wider than that, the value that a number encloses is a neighbour of it. -/
theorem Encloses.eq_floorOn_or {candidate : Nat} (hsignificand : leadingUnit ≤ significand)
    (hgrid : (2 : Rat) ^ exponent < 10 ^ power)
    (h : Encloses significand exponent (candidate * 10 ^ power)) :
    candidate = floorOn significand exponent power ∨
      candidate = floorOn significand exponent power + 1 := by
  have hpos : (0 : Rat) < 10 ^ power := by positivity
  have hself := encloses_scaled exponent hsignificand
  have habove := h.sub_le hsignificand hself
  have hbelow := hself.sub_le hsignificand h
  rcases floorOn_spec significand exponent power with ⟨hfloor, hceiling⟩
  push_cast at hceiling
  have hlow : (floorOn significand exponent power : Rat) * 10 ^ power <
      (candidate + 1 : Nat) * 10 ^ power := by
    push_cast
    linarith
  have hhigh : (candidate : Rat) * 10 ^ power <
      (floorOn significand exponent power + 2 : Nat) * 10 ^ power := by
    push_cast
    linarith
  have hlow : floorOn significand exponent power < candidate + 1 := by
    exact_mod_cast lt_of_mul_lt_mul_right hlow hpos.le
  have hhigh : candidate < floorOn significand exponent power + 2 := by
    exact_mod_cast lt_of_mul_lt_mul_right hhigh hpos.le
  omega

/-- The search ends with an accepted candidate, at the latest on a grid where one of the neighbours
is accepted. -/
theorem shortestFrom_accepts (tie : Tie) (top : Int) (digits : Nat) {narrow : Int}
    (h : readsBack significand exponent narrow (floorOn significand exponent narrow) = true ∨
      readsBack significand exponent narrow (floorOn significand exponent narrow + 1) = true)
    (remaining : Nat) (hnarrow : narrow ≤ top - digits + 1)
    (hremaining : top - digits + 1 - narrow < remaining) :
    ∃ candidate power, narrow ≤ power ∧
      shortestFrom tie significand exponent top digits remaining = ⟨candidate, power⟩ ∧
      readsBack significand exponent power candidate = true := by
  induction remaining generalizing digits with
  | zero => omega
  | succ remaining ih =>
      rcases shortestFrom_succ tie significand exponent top digits remaining with
        ⟨nearest, hnearest, heq⟩
      rw [heq]
      split
      · rename_i hboth
        rw [Bool.and_eq_true] at hboth
        refine ⟨nearest, _, hnarrow, rfl, ?_⟩
        rcases hnearest with rfl | rfl
        · exact hboth.1
        · exact hboth.2
      split
      · rename_i hfloor
        exact ⟨_, _, hnarrow, rfl, hfloor⟩
      split
      · rename_i hceiling
        exact ⟨_, _, hnarrow, rfl, hceiling⟩
      · rename_i hfloor hceiling
        have hwider : narrow ≠ top - digits + 1 := by
          rintro rfl
          exact h.elim hfloor hceiling
        apply ih
        · push_cast
          omega
        · push_cast
          omega

/-- Ten units of a power are one of the next. -/
theorem carry_value (d : Digits) : d.carry.value = d.value := by
  unfold Digits.carry
  split
  · rename_i hten
    rw [Digits.value, Digits.value, hten, zpow_add_one₀ (by norm_num)]
    push_cast
    ring
  · rfl

/-- The leading digit of a number. -/
theorem leadingDigit_scaled (hsignificand : 0 < significand) (exponent : Int) :
    (10 : Rat) ^ leadingDigit (significand * twoPow exponent.toNat) (twoPow (-exponent).toNat) ≤
        scaled significand exponent ∧
      scaled significand exponent <
        10 ^ (leadingDigit (significand * twoPow exponent.toNat) (twoPow (-exponent).toNat) + 1) := by
  have hratio := Binary64.ratio_mul_two_zpow significand 1 exponent
  rw [Nat.one_mul, Nat.cast_one, div_one] at hratio
  have hspec := leadingDigit_spec (Nat.mul_pos hsignificand (twoPow_pos exponent.toNat))
    (twoPow_pos (-exponent).toNat)
  rw [hratio] at hspec
  exact hspec

/-- A unit in the last place is small against all that is enclosed. -/
theorem Encloses.unit_le {value : Rat} (hsignificand : leadingUnit ≤ significand)
    (h : Encloses significand exponent value) : 2 ^ 51 * 2 ^ exponent ≤ value := by
  have hlower := Binary64.lower_of_encloses hsignificand h
  have hpos : (0 : Rat) < 2 ^ (exponent - 2) := by positivity
  have hleading : (2 ^ 52 : Rat) ≤ significand := by exact_mod_cast hsignificand
  have hproduct := mul_le_mul_of_nonneg_right hleading hpos.le
  rw [Binary64.two_zpow_eq]
  linarith

/-- A decimal on a wide grid is the one that the search ends with. -/
theorem shortestFrom_value (tie : Tie) {candidate : Nat} {narrow : Int}
    (hsignificand : leadingUnit ≤ significand) (hgrid : (2 : Rat) ^ exponent < 10 ^ narrow)
    (h : Encloses significand exponent (candidate * 10 ^ narrow)) (remaining : Nat)
    (hnarrow : narrow ≤ top - digits + 1) (hremaining : top - digits + 1 - narrow < remaining) :
    (shortestFrom tie significand exponent top digits remaining).value =
      candidate * 10 ^ narrow := by
  have hneighbour := h.eq_floorOn_or hsignificand hgrid
  have haccepted : readsBack significand exponent narrow candidate = true :=
    (readsBack_iff candidate).mpr h
  obtain ⟨other, power, hpower, heq, hother⟩ := shortestFrom_accepts tie top digits
    (hneighbour.imp (fun heq => heq ▸ haccepted) (fun heq => heq ▸ haccepted)) remaining hnarrow
    hremaining
  rw [readsBack_iff, ← cast_pow_sub other hpower] at hother
  rw [heq, Digits.value, ← cast_pow_sub other hpower, hother.eq_of_grid hsignificand hgrid h]

/-- A decimal of fifteen digits comes back from the number that encloses it. -/
theorem shortest_value (tie : Tie) {mantissa scale : Nat} (hsignificand : leadingUnit ≤ significand)
    (hshort : mantissa < 10 ^ 15)
    (h : Encloses significand exponent (mantissa * 10 ^ (-scale : Int))) :
    (shortest tie significand exponent).value = mantissa * 10 ^ (-scale : Int) := by
  have hself := encloses_scaled exponent hsignificand
  have hunit := h.unit_le hsignificand
  have hunitSelf := hself.unit_le hsignificand
  have hnear := hself.sub_le hsignificand h
  have hpos : (0 : Rat) < 10 ^ (-scale : Int) := by positivity
  have hvalue : (mantissa : Rat) * 10 ^ (-scale : Int) < 10 ^ 15 * 10 ^ (-scale : Int) :=
    mul_lt_mul_of_pos_right (by exact_mod_cast hshort) hpos
  have hunitPos : (0 : Rat) < 2 ^ exponent := by positivity
  unfold shortest
  rw [carry_value]
  rcases leadingDigit_scaled (Nat.lt_of_lt_of_le (by decide) hsignificand) exponent with
    ⟨hleading, hnext⟩
  generalize leadingDigit _ _ = top at *
  rcases le_or_gt (-scale : Int) top with hscale | hscale
  · have hgrid : (2 : Rat) ^ exponent < 10 ^ (-scale : Int) := by
      nlinarith
    have htop : (10 : Rat) ^ top < 10 ^ (16 - scale : Int) := by
      rw [sub_eq_add_neg, zpow_add₀ (by norm_num)]
      calc (10 : Rat) ^ top ≤ scaled significand exponent := hleading
        _ ≤ 2 * (mantissa * 10 ^ (-scale : Int)) := by linarith
        _ < 10 * (10 ^ 15 * 10 ^ (-scale : Int)) := by linarith
        _ = 10 ^ (16 : Int) * 10 ^ (-scale : Int) := by
            rw [← mul_assoc]
            norm_num
    have htop := (zpow_lt_zpow_iff_right₀ (by norm_num)).mp htop
    exact shortestFrom_value tie hsignificand hgrid h 17 (by push_cast; omega) (by push_cast; omega)
  · have hgrid : (2 : Rat) ^ exponent < 10 ^ top := by
      rw [zpow_add_one₀ (by norm_num)] at hnext
      nlinarith
    have hfine := cast_pow_sub mantissa hscale.le
    rw [← hfine] at h ⊢
    exact shortestFrom_value tie hsignificand hgrid h 17 (by push_cast; omega) (by push_cast; omega)

/-! ## Seventeen digits are enough -/

/-- On a grid that is narrow enough a neighbour is accepted: the one above, if it lies within half a
unit of the number, and else the one below. -/
theorem readsBack_of_fine (hlong : Binary64.IsLong significand)
    (hgrid : 10 ^ 16 * (10 : Rat) ^ power ≤ scaled significand exponent) :
    readsBack significand exponent power (floorOn significand exponent power) = true ∨
      readsBack significand exponent power (floorOn significand exponent power + 1) = true := by
  rcases floorOn_spec significand exponent power with ⟨hfloor, hceiling⟩
  have hunit : (0 : Rat) < 2 ^ exponent := by positivity
  -- everything in units of the last place
  obtain ⟨floor, hfloorValue⟩ : ∃ floor : Rat,
      floorOn significand exponent power * (10 : Rat) ^ power = floor * 2 ^ exponent :=
    ⟨_, (div_mul_cancel₀ _ hunit.ne').symm⟩
  obtain ⟨grid, hgridValue⟩ : ∃ grid : Rat, (10 : Rat) ^ power = grid * 2 ^ exponent :=
    ⟨_, (div_mul_cancel₀ _ hunit.ne').symm⟩
  have hceilingValue : ((floorOn significand exponent power + 1 : Nat) : Rat) * 10 ^ power =
      (floor + grid) * 2 ^ exponent := by
    rw [Nat.cast_succ, add_mul, one_mul, hfloorValue, hgridValue, add_mul]
  rw [hfloorValue, scaled, mul_le_mul_iff_left₀ hunit] at hfloor
  rw [hceilingValue, scaled, mul_lt_mul_iff_left₀ hunit] at hceiling
  rw [hgridValue, scaled, ← mul_assoc, mul_le_mul_iff_left₀ hunit] at hgrid
  rcases hlong with ⟨hsignificand, hlength⟩
  have hlow : (leadingUnit : Rat) ≤ significand := Nat.cast_le.mpr hsignificand
  have hhigh : (significand : Rat) < 2 * leadingUnit := by exact_mod_cast hlength
  have hleading : (leadingUnit : Rat) = 4503599627370496 := by norm_num [Binary64.leadingUnit_eq]
  rw [readsBack_iff, readsBack_iff]
  rcases lt_or_ge (2 * (floor + grid - significand)) 1 with hnear | hfar
  · right
    refine Binary64.encloses_of_isNear hceilingValue ?_ (by linarith) hsignificand
    exact ⟨by linarith, by linarith, fun _ => by linarith, fun _ => by linarith⟩
  · left
    have hlonger : (leadingUnit : Rat) + 1 ≤ significand := by
      have hne : leadingUnit ≠ significand := by
        rintro rfl
        linarith
      exact_mod_cast Nat.lt_of_le_of_ne hsignificand hne
    refine Binary64.encloses_of_isNear hfloorValue ?_ (by linarith) hsignificand
    exact ⟨by linarith, by linarith, fun _ => by linarith, fun _ => by linarith⟩

/-- The shortest digits read back as the number. -/
theorem encloses_shortest (tie : Tie) (exponent : Int) (hlong : Binary64.IsLong significand) :
    Encloses significand exponent (shortest tie significand exponent).value := by
  unfold shortest
  rw [carry_value]
  rcases leadingDigit_scaled (Nat.lt_of_lt_of_le (by decide) hlong.low) exponent with
    ⟨hleading, -⟩
  generalize leadingDigit _ _ = top at *
  have hgrid : 10 ^ 16 * (10 : Rat) ^ (top - 16) ≤ scaled significand exponent := by
    rw [zpow_sub₀ (by norm_num)]
    norm_num at hleading ⊢
    linarith
  rcases shortestFrom_accepts tie top 1 (readsBack_of_fine hlong hgrid) 17 (by push_cast; omega)
    (by push_cast; omega) with ⟨candidate, power, -, heq, haccepted⟩
  rw [heq]
  exact (readsBack_iff candidate).mp haccepted

end TerminalGateway.Number
