import TerminalGateway.Calendar.Moment

/-!
# Packed dates and times

Terminals send dates and times of day as whole numbers whose decimal digits are the parts:
`20210724` and `144005`.

Main definitions:

- `unpack?`: the moment of a packed date and time.
-/

namespace TerminalGateway.Calendar

/-- The parts of a packed number: all but the last four digits, the two before the last two, and
the last two.  Division goes toward zero, so the parts of a negative number are not positive. -/
def unpackParts (packed : Int) : Int × Int × Int :=
  (packed.tdiv 10000, (packed.tmod 10000).tdiv 100, packed.tmod 100)

/-- The moment of a packed date and a packed time of day, in whole seconds. -/
def unpack? (date time : Int) : Option Moment := do
  let (year, month, day) := unpackParts date
  let (hour, minute, second) := unpackParts time
  let date ← Date.ofYmd? year (← month.toNat?) (← day.toNat?)
  let clock ← Clock.ofParts? (← hour.toNat?) (← minute.toNat?) (← second.toNat?) 0
  return ⟨date, clock⟩

example : (unpack? 20210724 144005).map Moment.spacedText = some "2021-07-24 14:40:05" := by
  decide +kernel
example : unpack? (-99) 0 = none := by decide +kernel

end TerminalGateway.Calendar
