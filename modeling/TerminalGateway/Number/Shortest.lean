import TerminalGateway.Number.Binary64

/-!
# Shortest decimal digits

The decimal text of a binary number is the shortest one that reads back as the same number,
and of those the nearest.  The reals that read back as a number form an interval around it;
for one, two, … digits the two neighbours of the number on that decimal grid are tested, and
the first grid with a neighbour inside the interval decides.  A number halfway between its
neighbours is settled by the kind of text that is written.

Main definitions:

- `Digits`: a whole number of a power of ten.
- `Tie`: how a number halfway between its neighbours is settled.
- `shortest`: the digits of a positive number.
- `Layout`, `Layout.text`: where the point and the exponent go.
-/

namespace TerminalGateway.Number

/-- The value `coefficient * 10 ^ power`. -/
structure Digits where
  coefficient : Nat
  power : Int
deriving Repr, DecidableEq

namespace Digits

/-- The number of decimal digits of a number. -/
def count (n : Nat) : Nat :=
  (Nat.toDigits 10 n).length

/-- Ten units written as one of the next power.  On the first grid that fits, no greater
coefficient ends in a zero: it would already lie on the grid before. -/
def carry (d : Digits) : Digits :=
  if d.coefficient = 10 then ⟨1, d.power + 1⟩ else d

/-- The power of ten of the leading digit. -/
def leading (d : Digits) : Int :=
  d.power + count d.coefficient - 1

end Digits

/-- The greatest `t` with `10 ^ t ≤ num / den`, for a positive ratio. -/
def leadingDigit (num den : Nat) : Int :=
  if den ≤ num then (Digits.count (num / den) : Int) - 1
  else -(Digits.count ((den + num - 1) / num - 1) : Int)

/-- The multiples of a quarter of the unit in the last place that bound the reals which round
to a number: below a power of two the next number is only half as far. -/
def bounds (significand : Nat) (exponent : Int) : Nat × Nat :=
  let below :=
    if significand = Binary64.leadingUnit ∧ Binary64.minExponent < exponent then 1 else 2
  (4 * significand - below, 4 * significand + 2)

/-- How a number halfway between its neighbours on a decimal grid is settled. -/
inductive Tie where
  /-- By the neighbour with an even coefficient. -/
  | even
  /-- By the greater neighbour. -/
  | up
deriving Repr, DecidableEq

/-- The neighbour above `floor` or `floor` itself, for a number halfway between them. -/
def Tie.settle (floor : Nat) : Tie → Nat
  | .even => floor + floor % 2
  | .up => floor + 1

/-- The first decimal grid, from `digits` digits on, with a neighbour of the number that reads
back as it. -/
def shortestFrom (tie : Tie) (significand : Nat) (exponent : Int) (top : Int) (digits : Nat) :
    Nat → Digits
  | 0 => ⟨significand, 0⟩
  | remaining + 1 =>
      let power := top - (digits : Int) + 1
      let quarter := exponent - 2
      let unit := tenPow power.toNat * twoPow (-quarter).toNat
      let scale := twoPow quarter.toNat * tenPow (-power).toNat
      let value := 4 * significand * scale
      let (low, high) := bounds significand exponent
      let closed := significand % 2 = 0
      let inside (d : Nat) : Bool :=
        (low * scale < d * unit || (closed && low * scale = d * unit)) &&
          (d * unit < high * scale || (closed && d * unit = high * scale))
      let floor := value / unit
      let ceiling := floor + 1
      if inside floor && inside ceiling then
        let down := value - floor * unit
        let up := ceiling * unit - value
        let nearest :=
          if down < up then floor
          else if up < down then ceiling
          else tie.settle floor
        ⟨nearest, power⟩
      else if inside floor then ⟨floor, power⟩
      else if inside ceiling then ⟨ceiling, power⟩
      else shortestFrom tie significand exponent top (digits + 1) remaining

/-- The shortest digits that read back as `significand * 2 ^ exponent`, for a positive number.
Seventeen digits are always enough. -/
def shortest (tie : Tie) (significand : Nat) (exponent : Int) : Digits :=
  let top := leadingDigit (significand * twoPow exponent.toNat) (twoPow (-exponent).toNat)
  (shortestFrom tie significand exponent top 1 17).carry

/-- How digits are laid out as text. -/
structure Layout where
  /-- The least power of ten of a leading digit that is written without an exponent. -/
  least : Int
  /-- The greatest one. -/
  greatest : Int
  /-- What follows the digits of a whole number. -/
  wholeEnd : String
  tie : Tie
deriving Repr, DecidableEq

namespace Layout

/-- Digits written around a point, without an exponent. -/
def positional (layout : Layout) (d : Digits) : String :=
  let digits := (Nat.repr d.coefficient).toList
  if 0 ≤ d.power then
    String.ofList (digits ++ List.replicate d.power.toNat '0') ++ layout.wholeEnd
  else
    let places := (-d.power).toNat
    let padded := List.replicate (places + 1 - digits.length) '0' ++ digits
    let whole := padded.length - places
    String.ofList (padded.take whole ++ '.' :: padded.drop whole)

/-- Digits written with one digit before the point and a signed exponent. -/
def scientific (d : Digits) : String :=
  let mantissa := match (Nat.repr d.coefficient).toList with
    | first :: second :: rest => String.ofList (first :: '.' :: second :: rest)
    | digits => String.ofList digits
  let exponent := d.leading
  let sign := if exponent < 0 then "-" else "+"
  mantissa ++ "e" ++ sign ++ Nat.repr exponent.natAbs

/-- The text of digits. -/
def digitsText (layout : Layout) (d : Digits) : String :=
  if layout.least ≤ d.leading ∧ d.leading ≤ layout.greatest then layout.positional d
  else scientific d

/-- The text of a number. -/
def text (layout : Layout) : Binary64 → String
  | .finite negative significand exponent =>
      let sign := if negative then "-" else ""
      if significand = 0 then sign ++ "0" ++ layout.wholeEnd
      else sign ++ layout.digitsText (shortest layout.tie significand exponent)
  | .infinite negative => (if negative then "-" else "") ++ "inf"

/-- Written numbers keep a point, and leading digits from the fifth place after it to the
sixteenth before it need no exponent.  Halfway numbers go to the even digit. -/
def json : Layout :=
  ⟨-5, 15, ".0", .even⟩

/-- Plain digits have neither an exponent nor the point of a whole number.  Halfway numbers go
up. -/
def plain : Layout :=
  ⟨-400, 400, "", .up⟩

example : json.text (Binary64.ofRatio false 1 10) = "0.1" := by decide +kernel
example : json.text (Binary64.ofNat (tenPow 16)) = "1e+16" := by decide +kernel
example : json.text (Binary64.ofRatio true 15 (tenPow 8)) = "-1.5e-7" := by decide +kernel
example : json.text (Binary64.ofNat 100) = "100.0" := by decide +kernel
example : json.text (Binary64.ofRatio false 4503599627370497 4) = "1125899906842624.2" := by
  decide +kernel
example : plain.text (Binary64.ofRatio false 4503599627370497 4) = "1125899906842624.3" := by
  decide +kernel
example : plain.text (Binary64.ofNat (tenPow 25)) = "1" ++ "".pushn '0' 25 := by decide +kernel

end Layout

end TerminalGateway.Number
