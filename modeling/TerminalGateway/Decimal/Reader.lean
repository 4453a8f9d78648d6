import TerminalGateway.Decimal.Basic

/-!
# Reading decimal numbers

A decimal is written with an optional sign, at most one point, at least one digit, and
underscores anywhere after the first digit.  Fraction digits that do not fit are rounded away on
the first of them; whole digits that do not fit are an error.  An underscore right behind the last
place there is for a digit stands for a zero that does not fit, but only while the mantissa is
short.  A text that is no plain decimal may still be one with a power of ten behind the letter
`e`.

Main definitions:

- `Decimal.readPlain?`: plain decimals.
- `Decimal.readScaled?`: a plain decimal and a power of ten.
- `Decimal.read?`: either form.
-/

namespace TerminalGateway.Decimal

/-- Ends a number on a digit that does not fit: from five on it adds one to the mantissa, and a
mantissa that outgrows its range gives up one place. -/
def roundOff? (negative : Bool) (mantissa scale digit : Nat) : Option Decimal :=
  let rounded := if 5 ≤ digit then mantissa + 1 else mantissa
  if rounded ≤ maxMantissa then unsignedZero? negative rounded scale
  else if scale = 0 then none
  else unsignedZero? negative ((rounded + 4) / 10) (scale - 1)

/-- The least mantissa that is no longer short: another digit might outgrow 64 bits. -/
def longMantissa : Nat :=
  Number.limit64 / 10 - 255

/-- No place is left for a digit, and the mantissa was still short before its last digit. -/
def isFullAndShort (mantissa scale : Nat) : Bool :=
  scale = maxScale && mantissa / 10 < longMantissa

/-- The characters that may follow once a number has ended before its text. -/
def isSpare (c : Char) : Bool :=
  Text.isDigit c || c = '_'

/-- Reads the digits of a number, given what has been read of it. -/
def readDigits? (negative point begun : Bool) (mantissa scale : Nat) :
    List Char → Option Decimal
  | [] => if begun then unsignedZero? negative mantissa scale else none
  | c :: rest =>
      match Text.digit? c with
      | some digit =>
          let next := mantissa * 10 + digit
          if point then
            if scale = maxScale ∨ maxMantissa < next then
              if rest.all isSpare then roundOff? negative mantissa scale digit else none
            else readDigits? negative true true next (scale + 1) rest
          else if maxMantissa < next then none
          else readDigits? negative false true next scale rest
      | none =>
          if c = '.' && !point then readDigits? negative true begun mantissa scale rest
          else if c = '_' && begun then
            if isFullAndShort mantissa scale then
              if rest.all isSpare then roundOff? negative mantissa scale 0 else none
            else readDigits? negative point true mantissa scale rest
          else none

/-- A plain decimal. -/
def readPlain? : List Char → Option Decimal
  | '-' :: rest => readDigits? true false false 0 0 rest
  | '+' :: rest => readDigits? false false false 0 0 rest
  | cs => readDigits? false false false 0 0 cs

/-- The mantissa after giving up places, rounded away from zero on the first one given up. -/
def dropPlaces (mantissa : Nat) : Nat → Nat
  | 0 => mantissa
  | dropped + 1 => (mantissa / Number.tenPow dropped + 5) / 10

/-- The product of a decimal and a power of ten. -/
def shift? (d : Decimal) : Bool → Nat → Option Decimal
  | true, power =>
      if maxScale < power then none
      else if maxScale < d.scale + power then
        ofParts? d.negative (dropPlaces d.mantissa (d.scale + power - maxScale)) maxScale
      else ofParts? d.negative d.mantissa (d.scale + power)
  | false, power =>
      if power ≤ d.scale then ofParts? d.negative d.mantissa (d.scale - power)
      else if maxScale < power then none
      else (ofParts? d.negative (d.mantissa * Number.tenPow (power - d.scale)) 0).map normalize

/-- A plain decimal, the letter `e` of either case, and a power of ten. -/
def readScaled? (cs : List Char) : Option Decimal :=
  let isMark (c : Char) : Bool := c = 'e' || c = 'E'
  match cs.dropWhile (!isMark ·) with
  | [] => none
  | _ :: exponent => do
      let d ← readPlain? (cs.takeWhile (!isMark ·))
      match exponent with
      | '-' :: rest => shift? d true (← Text.readNat? Number.limit32 rest)
      | _ => shift? d false (← Text.readNat? Number.limit32 exponent)

/-- The decimal that a text stands for. -/
def read? (cs : List Char) : Option Decimal :=
  match readPlain? cs with
  | some d => some d
  | none => readScaled? cs

example : (read? "1_000.5_0".toList).map text = some "1000.50" := by decide +kernel
example : (read? "7922816251426433759354395033.55".toList).map text
    = some "7922816251426433759354395034" := by decide +kernel
example : (read? "1e3".toList).map text = some "1000" := by decide +kernel
example : (read? "0.0000000000000000000000000015_7".toList).map text
    = some "0.0000000000000000000000000015" := by decide +kernel
example : (read? "0.1234567890123456789012345678_9".toList).map text
    = some "0.1234567890123456789012345679" := by decide +kernel
example : (read? "._5".toList).map text = none := by decide +kernel

end TerminalGateway.Decimal
