/-!
# Calendar dates

Dates of the Gregorian calendar, extended to all years of a supported range.

Main definitions:

- `Date`: a valid date.
- `Date.ofYmd?`: the date with a year, month and day, if there is one.
- `Date.number`, `Date.ofNumber?`: days counted from 1970-01-01.
-/

namespace TerminalGateway.Calendar

/-- The first supported year. -/
def minYear : Int := -262143

/-- The last supported year. -/
def maxYear : Int := 262142

/-- A year with a 29th of February. -/
def isLeapYear (year : Int) : Bool :=
  year % 4 = 0 && (year % 100 ≠ 0 || year % 400 = 0)

/-- The number of days in a month. -/
def daysInMonth (year : Int) (month : Nat) : Nat :=
  if month = 2 then (if isLeapYear year then 29 else 28)
  else if month = 4 || month = 6 || month = 9 || month = 11 then 30
  else 31

/-- Year, month and day name a supported date. -/
def IsDate (year : Int) (month day : Nat) : Prop :=
  minYear ≤ year ∧ year ≤ maxYear ∧ 1 ≤ month ∧ month ≤ 12 ∧ 1 ≤ day
    ∧ day ≤ daysInMonth year month

instance (year : Int) (month day : Nat) : Decidable (IsDate year month day) :=
  inferInstanceAs (Decidable (_ ∧ _))

/-- A date. -/
structure Date where
  year : Int
  month : Nat
  day : Nat
  valid : IsDate year month day := by decide
deriving DecidableEq

namespace Date

/-- The date with the given year, month and day. -/
def ofYmd? (year : Int) (month day : Nat) : Option Date :=
  if h : IsDate year month day then some ⟨year, month, day, h⟩ else none

/-- The first day of the count of days. -/
def epoch : Date :=
  ⟨1970, 1, 1, by decide⟩

/-! ## Counting days

Years are counted from March, so that the day that leap years add is the last of its year, and
in eras of 400 years, which all have the same length. -/

/-- The number of days from 1970-01-01 to a date. -/
def number (d : Date) : Int :=
  let year := if d.month ≤ 2 then d.year - 1 else d.year
  let era := year / 400
  let yearOfEra := year - era * 400
  let monthFromMarch : Int := if d.month ≤ 2 then (d.month : Int) + 9 else (d.month : Int) - 3
  let dayOfYear := (153 * monthFromMarch + 2) / 5 + (d.day : Int) - 1
  let dayOfEra := yearOfEra * 365 + yearOfEra / 4 - yearOfEra / 100 + dayOfYear
  era * 146097 + dayOfEra - 719468

/-- The date a number of days after 1970-01-01, if it is supported. -/
def ofNumber? (number : Int) : Option Date :=
  let shifted := number + 719468
  let era := shifted / 146097
  let dayOfEra := shifted - era * 146097
  let yearOfEra :=
    (dayOfEra - dayOfEra / 1460 + dayOfEra / 36524 - dayOfEra / 146096) / 365
  let dayOfYear := dayOfEra - (365 * yearOfEra + yearOfEra / 4 - yearOfEra / 100)
  let monthFromMarch := (5 * dayOfYear + 2) / 153
  let day := dayOfYear - (153 * monthFromMarch + 2) / 5 + 1
  let month := if monthFromMarch < 10 then monthFromMarch + 3 else monthFromMarch - 9
  let year := yearOfEra + era * 400 + (if month ≤ 2 then 1 else 0)
  ofYmd? year month.toNat day.toNat

/-- The date a number of days later. -/
def addDays? (d : Date) (days : Int) : Option Date :=
  ofNumber? (d.number + days)

example : epoch.number = 0 := by decide
example : (ofNumber? 11016).map (fun d => (d.year, d.month, d.day)) = some (2000, 2, 29) := by
  decide
example : (ofNumber? (-1)).map (fun d => (d.year, d.month, d.day)) = some (1969, 12, 31) := by
  decide

end Date

end TerminalGateway.Calendar
