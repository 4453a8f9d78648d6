import TerminalGateway.Number.Power
import TerminalGateway.Text.Integer

/-!
# Decimal numbers

Prices and quantities are decimal numbers with a 96-bit mantissa and up to 28 places after the
point.  The number of places is part of a number: `1.50` and `1.5` differ as they are written
and agree in value.

Main definitions:

- `Decimal`: sign, mantissa and places, within their ranges.
- `Decimal.key`: the value on a common scale, by which decimals are compared.
- `Decimal.normalize`: the same value without trailing places.
- `Decimal.sub?`: the difference, rounded only where it does not fit.
- `Decimal.text`: the digits of a decimal.
-/

namespace TerminalGateway

/-- A decimal number `± mantissa / 10 ^ scale`. -/
structure Decimal where
  negative : Bool
  mantissa : Nat
  scale : Nat
  mantissa_lt : mantissa < Number.limit96 := by decide
  scale_le : scale ≤ 28 := by decide
deriving DecidableEq

namespace Decimal

/-- The greatest mantissa. -/
def maxMantissa : Nat :=
  Number.limit96 - 1

/-- The greatest number of places. -/
def maxScale : Nat :=
  28

/-- The decimal with the given parts, if they are within range. -/
def ofParts? (negative : Bool) (mantissa scale : Nat) : Option Decimal :=
  if h : mantissa < Number.limit96 ∧ scale ≤ 28 then some ⟨negative, mantissa, scale, h.1, h.2⟩
  else none

/-- Zero without places. -/
def zero : Decimal :=
  ⟨false, 0, 0, by decide, by decide⟩

instance : Inhabited Decimal :=
  ⟨zero⟩

/-- Zero of any sign and scale. -/
def isZero (d : Decimal) : Bool :=
  d.mantissa = 0

/-- A whole number as a decimal. -/
def ofInt? (value : Int) : Option Decimal :=
  ofParts? (value < 0) value.natAbs 0

/-- A decimal whose zero has no sign. -/
def unsignedZero? (negative : Bool) (mantissa scale : Nat) : Option Decimal :=
  ofParts? (negative && mantissa ≠ 0) mantissa scale

/-! ## Order -/

/-- The mantissa with its sign. -/
def signed (d : Decimal) : Int :=
  if d.negative then -(d.mantissa : Int) else d.mantissa

/-- The mantissa with its sign at a greater number of places. -/
def signedAt (d : Decimal) (scale : Nat) : Int :=
  d.signed * Number.tenPow (scale - d.scale)

/-- The value as a multiple of the least positive decimal. -/
def key (d : Decimal) : Int :=
  d.signedAt maxScale

/-- Order by value. -/
def le (x y : Decimal) : Bool :=
  x.key ≤ y.key

/-! ## Trailing places -/

/-- The mantissa and the places left after removing trailing zeros. -/
def stripPlaces (mantissa : Nat) : Nat → Nat × Nat
  | 0 => (mantissa, 0)
  | scale + 1 =>
      if mantissa % 10 = 0 then stripPlaces (mantissa / 10) scale else (mantissa, scale + 1)

theorem stripPlaces_fst_le (mantissa scale : Nat) : (stripPlaces mantissa scale).1 ≤ mantissa := by
  induction scale generalizing mantissa with
  | zero => exact Nat.le_refl _
  | succ scale ih =>
      unfold stripPlaces
      split
      · exact Nat.le_trans (ih _) (Nat.div_le_self _ _)
      · exact Nat.le_refl _

theorem stripPlaces_snd_le (mantissa scale : Nat) : (stripPlaces mantissa scale).2 ≤ scale := by
  induction scale generalizing mantissa with
  | zero => exact Nat.le_refl _
  | succ scale ih =>
      unfold stripPlaces
      split
      · exact Nat.le_succ_of_le (ih _)
      · exact Nat.le_refl _

/-- The same value with as few places as possible; zero loses its sign as well. -/
def normalize (d : Decimal) : Decimal :=
  if d.mantissa = 0 then zero
  else
    ⟨d.negative, (stripPlaces d.mantissa d.scale).1, (stripPlaces d.mantissa d.scale).2,
      Nat.lt_of_le_of_lt (stripPlaces_fst_le _ _) d.mantissa_lt,
      Nat.le_trans (stripPlaces_snd_le _ _) d.scale_le⟩

/-! ## Difference -/

/-- The nearest multiple of a power of ten that fits, a half going to the even neighbour.
Places are given up one by one; without places left a number that does not fit is refused. -/
def fit? (negative : Bool) (magnitude : Nat) (dropped : Nat) : Nat → Option Decimal
  | 0 =>
      let mantissa := nearest magnitude dropped
      unsignedZero? negative mantissa 0
  | scale + 1 =>
      let mantissa := nearest magnitude dropped
      if mantissa < Number.limit96 then unsignedZero? negative mantissa (scale + 1)
      else fit? negative magnitude (dropped + 1) scale
where
  nearest (magnitude dropped : Nat) : Nat :=
    let unit := Number.tenPow dropped
    let quotient := magnitude / unit
    let remainder := magnitude % unit
    if 2 * remainder < unit then quotient
    else if unit < 2 * remainder then quotient + 1
    else quotient + quotient % 2

/-- The number with the other sign. -/
def negate (d : Decimal) : Decimal :=
  { d with negative := !d.negative }

/-- The difference.  Subtracting zero, or from zero, keeps the places of the other number;
otherwise the result has the places of the longer one, less those that do not fit. -/
def sub? (x y : Decimal) : Option Decimal :=
  if x.isZero then some (if y.isZero then y else y.negate)
  else if y.isZero then some x
  else
    let scale := max x.scale y.scale
    let difference := x.signedAt scale - y.signedAt scale
    fit? (difference < 0) difference.natAbs 0 scale

/-! ## Text -/

/-- The digits of a decimal with all its places. -/
def text (d : Decimal) : String :=
  let sign := if d.negative then "-" else ""
  let whole := Nat.repr (d.mantissa / Number.tenPow d.scale)
  if d.scale = 0 then sign ++ whole
  else sign ++ whole ++ "." ++ Text.padded d.scale (d.mantissa % Number.tenPow d.scale)

example : (ofParts? true 150 2).map text = some "-1.50" := by decide +kernel
example : (ofParts? true 150 2).map (text ∘ normalize) = some "-1.5" := by decide +kernel

end Decimal

end TerminalGateway
