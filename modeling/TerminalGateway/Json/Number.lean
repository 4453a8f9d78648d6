import TerminalGateway.Number.Shortest
import TerminalGateway.Text.Integer

/-!
# Numbers of JSON texts

A numeral without a point or an exponent that fits into 64 bits is a whole number; every other
numeral is a binary floating-point number.  Such a number is made in three rounded steps, so it
need not be the one nearest to the numeral: the digits are gathered into a 64-bit coefficient,
the coefficient is rounded, and the result is multiplied or divided by a rounded power of ten.

Main definitions:

- `Numeral`: a number as it is spelled.
- `Number`: a number as it is understood.
- `Numeral.number?`: what a numeral means; nothing when it is too large.
- `Number.text`: how a number is written.
-/

namespace TerminalGateway.Json

open TerminalGateway.Number (Binary64 Layout tenPow)

/-- A number as it is spelled. -/
structure Numeral where
  negative : Bool
  whole : List Char
  fraction : Option (List Char)
  /-- The sign of the written exponent (true for minus) and its digits. -/
  exponent : Option (Bool × List Char)
deriving Repr, DecidableEq

/-- A number as it is understood: a 64-bit whole number, signed or not, or a binary one. -/
inductive Number where
  | whole (value : Int)
  | real (value : Binary64)
deriving Repr, DecidableEq

namespace Numeral

/-- The greatest coefficient that digits are gathered into. -/
def maxCoefficient : Nat :=
  Number.limit64 - 1

/-- Gathers the digits before the point.  The first digit that does not fit and all after it
count as places instead. -/
def gatherWhole (coefficient : Nat) : List Char → Nat × Nat
  | [] => (coefficient, 0)
  | c :: rest =>
      let next := coefficient * 10 + (Text.digit? c).getD 0
      if maxCoefficient < next then (coefficient, rest.length + 1)
      else gatherWhole next rest

/-- Gathers the digits after the point, counting those taken.  The first one that does not fit
ends the digits that matter. -/
def gatherFraction (coefficient taken : Nat) : List Char → Nat × Nat
  | [] => (coefficient, taken)
  | c :: rest =>
      let next := coefficient * 10 + (Text.digit? c).getD 0
      if maxCoefficient < next then (coefficient, taken)
      else gatherFraction next (taken + 1) rest

/-- The greatest exponent of a power of ten that is a finite binary number. -/
def maxPower : Nat :=
  308

/-- Division by a power of ten, in steps of the greatest power that is a finite number. -/
def shrink (value : Binary64) (power : Nat) : Binary64 :=
  if maxPower < power ∧ value.isZero = false then
    shrink (value.div (Binary64.ofNat (tenPow maxPower))) (power - maxPower)
  else value.div (Binary64.ofNat (tenPow (min power maxPower)))
termination_by power
decreasing_by simp [maxPower] at *; omega

/-- A coefficient times a power of ten, refused when it is too large. -/
def scaled? (negative : Bool) (coefficient : Nat) (power : Int) : Option Binary64 :=
  let value := Binary64.ofNat coefficient
  if power < 0 then some ((shrink value power.natAbs).withSign negative)
  else if value.isZero then some (value.withSign negative)
  else if maxPower < power.toNat then none
  else
    match value.mul (Binary64.ofNat (tenPow power.toNat)) with
    | .infinite _ => none
    | product => some (product.withSign negative)

/-- The number that a numeral stands for. -/
def number? (n : Numeral) : Option Number :=
  let (coefficient, places) := gatherWhole 0 n.whole
  match n.fraction, n.exponent with
  | none, none =>
      if places ≠ 0 then (scaled? n.negative coefficient places).map .real
      else if !n.negative then some (.whole coefficient)
      else if coefficient = 0 ∨ Number.signedLimit64 < coefficient then
        some (.real ((Binary64.ofNat coefficient).withSign true))
      else some (.whole (-(coefficient : Int)))
  | fraction, exponent =>
      let (coefficient, taken) := gatherFraction coefficient 0 (fraction.getD [])
      let written : Int := match exponent with
        | none => 0
        | some (true, digits) => -((Text.extendNat 0 digits).getD 0 : Nat)
        | some (false, digits) => ((Text.extendNat 0 digits).getD 0 : Nat)
      (scaled? n.negative coefficient ((places : Int) - taken + written)).map .real

end Numeral

namespace Number

/-- A whole number that fits into 64 bits with a sign. -/
def int? : Number → Option Int
  | whole value => if value < Number.signedLimit64 then some value else none
  | real _ => none

/-- The binary number nearest to a number. -/
def toBinary64 : Number → Binary64
  | whole value => (Binary64.ofNat value.natAbs).withSign (value < 0)
  | real value => value

/-- How a number is written. -/
def text : Number → String
  | whole value => value.repr
  | real value => Layout.json.text value

end Number

end TerminalGateway.Json
