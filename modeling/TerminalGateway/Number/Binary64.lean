import TerminalGateway.Number.Power

/-!
# Binary floating-point numbers

Numbers with 53 significant bits, computed exactly in natural numbers and rounded once to the
nearest representable one, ties to the even significand.  Every operation below is the exact
operation on the values followed by that rounding.

Main definitions:

- `Binary64`: a signed multiple of a power of two, or a signed infinity.
- `ofRatio`: the nearest representable number to a ratio.
- `mul`, `div`, `pow`: arithmetic; `lt`: order by value.
- `bits`: the 64-bit interchange form.
-/

namespace TerminalGateway.Number

/-- A binary floating-point number.  In the finite ones that rounding builds, the significand is
below `2 ^ 53`, and below `2 ^ 52` only at the least exponent. -/
inductive Binary64 where
  | finite (negative : Bool) (significand : Nat) (exponent : Int)
  | infinite (negative : Bool)
deriving Repr, DecidableEq

namespace Binary64

/-- The least exponent of a finite number. -/
def minExponent : Int := -1074

/-- The greatest exponent of a finite number. -/
def maxExponent : Int := 971

/-- The least significand with all its bits, which is that of a power of two. -/
def leadingUnit : Nat :=
  twoPow 52

/-- The whole number nearest to a ratio, a half going to the even neighbour. -/
def roundHalfEven (num den : Nat) : Nat :=
  let quotient := num / den
  let remainder := num % den
  if 2 * remainder < den then quotient
  else if den < 2 * remainder then quotient + 1
  else quotient + quotient % 2

/-- The position of the leading bit of a ratio: the greatest `t` with `2 ^ t ≤ num / den`. -/
def leadingBit (num den : Nat) : Int :=
  let guess : Int := (num.log2 : Int) - den.log2
  if num * twoPow (-guess).toNat < den * twoPow guess.toNat then guess - 1 else guess

/-- The representable number nearest to `num / den`. -/
def ofRatio (negative : Bool) (num den : Nat) : Binary64 :=
  if num = 0 then .finite negative 0 minExponent
  else
    let exponent := max (leadingBit num den - 52) minExponent
    let significand := roundHalfEven (num * twoPow (-exponent).toNat) (den * twoPow exponent.toNat)
    let (significand, exponent) :=
      if significand = 2 * leadingUnit then (leadingUnit, exponent + 1)
      else (significand, exponent)
    if maxExponent < exponent then .infinite negative
    else .finite negative significand exponent

/-- The representable number nearest to a whole number. -/
def ofNat (n : Nat) : Binary64 :=
  ofRatio false n 1

/-- Positive zero. -/
def zero : Binary64 :=
  .finite false 0 minExponent

/-- One. -/
def one : Binary64 :=
  .finite false leadingUnit (-52)

/-- The sign. -/
def isNegative : Binary64 → Bool
  | finite negative _ _ => negative
  | infinite negative => negative

/-- Zero of either sign. -/
def isZero : Binary64 → Bool
  | finite _ significand _ => significand = 0
  | infinite _ => false

/-- The number with the given sign and the same magnitude. -/
def withSign (negative : Bool) : Binary64 → Binary64
  | finite _ significand exponent => .finite negative significand exponent
  | infinite _ => .infinite negative

/-- The product, rounded.  The product of an infinity and a zero does not arise here and is
taken as an infinity. -/
def mul : Binary64 → Binary64 → Binary64
  | finite s m e, finite t n f =>
      let exponent := e + f
      ofRatio (s != t) (m * n * twoPow exponent.toNat) (twoPow (-exponent).toNat)
  | x, y => .infinite (x.isNegative != y.isNegative)

/-- The quotient by a number other than zero, rounded. -/
def div : Binary64 → Binary64 → Binary64
  | finite s m e, finite t n f =>
      let exponent := e - f
      ofRatio (s != t) (m * twoPow exponent.toNat) (n * twoPow (-exponent).toNat)
  | finite s _ _, infinite t => .finite (s != t) 0 minExponent
  | infinite s, y => .infinite (s != y.isNegative)

/-- Twice-and-add powering: `acc` times `base ^ n`, each product rounded. -/
def powFrom (acc base : Binary64) (n : Nat) : Binary64 :=
  let acc := if n % 2 = 1 then acc.mul base else acc
  if n / 2 = 0 then acc else powFrom acc (base.mul base) (n / 2)
termination_by n
decreasing_by omega

/-- The power by repeated squaring, each product rounded. -/
def pow (base : Binary64) (n : Nat) : Binary64 :=
  powFrom one base n

/-- A finite number as a multiple of the least positive one. -/
def steps (negative : Bool) (significand : Nat) (exponent : Int) : Int :=
  let magnitude : Int := significand * twoPow (exponent - minExponent).toNat
  if negative then -magnitude else magnitude

/-- Order by value; the two zeros are equal. -/
def lt : Binary64 → Binary64 → Bool
  | finite s m e, finite t n f => steps s m e < steps t n f
  | finite _ _ _, infinite t => !t
  | infinite s, finite _ _ _ => s
  | infinite s, infinite t => s && !t

/-- The greater of two numbers. -/
def max (x y : Binary64) : Binary64 :=
  if x.lt y then y else x

/-- The smaller of two numbers. -/
def min (x y : Binary64) : Binary64 :=
  if y.lt x then y else x

/-- The whole number nearest to a number that is not negative, a half rounded up; nothing for
an infinity. -/
def round? : Binary64 → Option Nat
  | finite _ m e =>
      if 0 ≤ e then some (m * twoPow e.toNat)
      else some ((2 * m + twoPow (-e).toNat) / twoPow ((-e).toNat + 1))
  | infinite _ => none

/-- The bit of the sign in the interchange form. -/
def signBit (negative : Bool) : Nat :=
  if negative then 0x8000000000000000 else 0

/-- The interchange form: sign, biased exponent, significand without its leading bit. -/
def bits : Binary64 → Nat
  | finite negative m e =>
      let magnitude :=
        if m < leadingUnit then m else (e + 1075).toNat * leadingUnit + (m - leadingUnit)
      signBit negative + magnitude
  | infinite negative => signBit negative + 0x7FF * leadingUnit

example : (ofNat 2).bits = 0x4000000000000000 := by decide +kernel
example : (ofRatio false 11 10).bits = 0x3ff199999999999a := by decide +kernel
example : (ofNat (twoPow 53 + 1)).bits = (ofNat (twoPow 53)).bits := by decide +kernel
example : (ofRatio false 1 (twoPow 1075)).isZero = true := by decide +kernel

end Binary64

end TerminalGateway.Number
