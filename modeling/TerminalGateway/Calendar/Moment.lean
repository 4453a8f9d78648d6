import TerminalGateway.Calendar.Date
import TerminalGateway.Text.Integer

/-!
# Moments

A moment is a date and a time of day with nanoseconds.  The nanoseconds of a leap second go on from
those of the second before it, whichever that is.  It is written with the next number, which is 60
at the end of a minute.  A terminal's own times carry no zone; times of receipt are in UTC.

Main definitions:

- `Clock`: a time of day; `Moment`: a date with one.
- `Clock.ofWritten?`: the time of day with the parts that are written.
- `Moment.addMillis?`: a later or earlier moment.
- `Moment.spacedText`, `Moment.isoText`, `Moment.utcText`: the three written forms.
-/

namespace TerminalGateway.Calendar

/-- Hour, minute, second and nanosecond name a time of day.  From the thousand millionth nanosecond
on it is in a leap second after that second. -/
def IsClock (hour minute second nano : Nat) : Prop :=
  hour < 24 ∧ minute < 60 ∧ second < 60 ∧ nano < 2000000000

instance (hour minute second nano : Nat) : Decidable (IsClock hour minute second nano) :=
  inferInstanceAs (Decidable (_ ∧ _))

/-- A time of day. -/
structure Clock where
  hour : Nat
  minute : Nat
  second : Nat
  nano : Nat
  valid : IsClock hour minute second nano := by decide
deriving DecidableEq

namespace Clock

/-- The time of day with the given parts. -/
def ofParts? (hour minute second nano : Nat) : Option Clock :=
  if h : IsClock hour minute second nano then some ⟨hour, minute, second, nano, h⟩ else none

/-- The time of day that is written with the given parts; the second 60 is a leap second. -/
def ofWritten? (hour minute second nano : Nat) : Option Clock :=
  if second = 60 then ofParts? hour minute 59 (1000000000 + nano)
  else ofParts? hour minute second nano

/-- Midnight. -/
def midnight : Clock :=
  ⟨0, 0, 0, 0, by decide⟩

/-- Milliseconds of the day; the fraction of a millisecond is left out. -/
def millis (c : Clock) : Nat :=
  ((c.hour * 60 + c.minute) * 60 + c.second) * 1000 + c.nano / 1000000

end Clock

/-- A date and a time of day. -/
structure Moment where
  date : Date
  clock : Clock
deriving DecidableEq

namespace Moment

/-- Midnight of 1970-01-01. -/
def epoch : Moment :=
  ⟨Date.epoch, Clock.midnight⟩

instance : Inhabited Moment :=
  ⟨epoch⟩

/-- The moment a number of milliseconds later, for a moment in whole seconds that are no leap
seconds. -/
def addMillis? (m : Moment) (millis : Int) : Option Moment := do
  let total := (m.clock.millis : Int) + millis
  let date ← m.date.addDays? (total / 86400000)
  let rest := (total % 86400000).toNat
  let clock ← Clock.ofParts? (rest / 3600000) (rest / 60000 % 60) (rest / 1000 % 60)
    (rest % 1000 * 1000000)
  return ⟨date, clock⟩

/-- The number of milliseconds from 1970-01-01 to a moment; the fraction of a millisecond is left
out. -/
def millis (m : Moment) : Int :=
  m.date.number * 86400000 + m.clock.millis

/-- The moment with its hours and minutes moved back by a number of minutes, as between a zone
and UTC. -/
def subMinutes? (m : Moment) (minutes : Int) : Option Moment := do
  let total := ((m.clock.hour * 60 + m.clock.minute : Nat) : Int) - minutes
  let date ← m.date.addDays? (total / 1440)
  let rest := (total % 1440).toNat
  let clock ← Clock.ofParts? (rest / 60) (rest % 60) m.clock.second m.clock.nano
  return ⟨date, clock⟩

/-! ## Text -/

/-- A year of at least four digits, with a sign outside of 0 to 9999. -/
def yearText (year : Int) : String :=
  if year < 0 then "-" ++ Text.padded 4 year.natAbs
  else if 9999 < year then "+" ++ Text.padded 4 year.natAbs
  else Text.padded 4 year.natAbs

/-- A date as year, month and day. -/
def dateText (d : Date) : String :=
  yearText d.year ++ "-" ++ Text.padded 2 d.month ++ "-" ++ Text.padded 2 d.day

/-- The fraction of a second in milliseconds, microseconds or nanoseconds, the first that is
exact, and nothing for a whole second. -/
def fractionText (nano : Nat) : String :=
  if nano = 0 then ""
  else if nano % 1000000 = 0 then "." ++ Text.padded 3 (nano / 1000000)
  else if nano % 1000 = 0 then "." ++ Text.padded 6 (nano / 1000)
  else "." ++ Text.padded 9 nano

/-- A time of day with its fraction of a second.  A leap second is written with the number after
that of the second before it. -/
def clockText (c : Clock) : String :=
  Text.padded 2 c.hour ++ ":" ++ Text.padded 2 c.minute ++ ":"
    ++ Text.padded 2 (c.second + c.nano / 1000000000) ++ fractionText (c.nano % 1000000000)

/-- Date and time with a space between them. -/
def spacedText (m : Moment) : String :=
  dateText m.date ++ " " ++ clockText m.clock

/-- Date and time with the letter `T` between them. -/
def isoText (m : Moment) : String :=
  dateText m.date ++ "T" ++ clockText m.clock

/-- A moment in UTC, marked as such. -/
def utcText (m : Moment) : String :=
  isoText m ++ "Z"

end Moment

end TerminalGateway.Calendar
