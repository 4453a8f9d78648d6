import TerminalGateway.Calendar.Date

/-!
# Dates come back from the count of days

A date is taken apart as it is when its days are counted: the month and the year from March, the
year of its era of 400 years, and the days of the year and of the era.  Each part is found again
from the days of the era.

Main definitions:

- `Date.monthFromMarch`, `Date.yearFromMarch`: the month and the year, counted from March.
- `Date.era`, `Date.yearOfEra`: the era and its year.
- `Date.dayOfYear`, `Date.dayOfEra`: the days before a date.

Main results:

- Theorem `Date.yearOfEra_of_days`: the year of an era is found from its days.
- Theorem `Date.ofNumber?_number`: a date is found from its number.
-/

namespace TerminalGateway.Calendar.Date

/-! ## The parts of a date -/

/-- The month, counted from March. -/
def monthFromMarch (d : Date) : Int :=
  if d.month ≤ 2 then (d.month : Int) + 9 else (d.month : Int) - 3

/-- The year, counted from March. -/
def yearFromMarch (d : Date) : Int :=
  if d.month ≤ 2 then d.year - 1 else d.year

/-- The era of 400 years. -/
def era (d : Date) : Int :=
  d.yearFromMarch / 400

/-- The year of the era. -/
def yearOfEra (d : Date) : Int :=
  d.yearFromMarch - d.era * 400

/-- The days of the year before a date. -/
def dayOfYear (d : Date) : Int :=
  (153 * d.monthFromMarch + 2) / 5 + (d.day : Int) - 1

/-- The days of the era before a date. -/
def dayOfEra (d : Date) : Int :=
  d.yearOfEra * 365 + d.yearOfEra / 4 - d.yearOfEra / 100 + d.dayOfYear

theorem number_eq (d : Date) : d.number = d.era * 146097 + d.dayOfEra - 719468 :=
  rfl

/-! ## Bounds -/

theorem yearOfEra_bounds (d : Date) : 0 ≤ d.yearOfEra ∧ d.yearOfEra < 400 := by
  unfold yearOfEra era
  omega

/-- No month is longer than the distance between its first day and that of the next, and February
has its 29th day in leap years only. -/
theorem month_bounds (d : Date) : 0 ≤ d.monthFromMarch ∧ d.monthFromMarch ≤ 11 ∧
    (d.day : Int) ≤ (153 * (d.monthFromMarch + 1) + 2) / 5 - (153 * d.monthFromMarch + 2) / 5 ∧
    (d.monthFromMarch = 11 → d.day ≤ 29 ∧ (d.day = 29 → isLeapYear d.year = true)) := by
  rcases d.valid with ⟨-, -, hlow, hhigh, -, hday⟩
  have hmonth : d.month = 1 ∨ d.month = 2 ∨ d.month = 3 ∨ d.month = 4 ∨ d.month = 5 ∨
      d.month = 6 ∨ d.month = 7 ∨ d.month = 8 ∨ d.month = 9 ∨ d.month = 10 ∨ d.month = 11 ∨
      d.month = 12 := by omega
  unfold monthFromMarch
  unfold daysInMonth at hday
  rcases hmonth with h | h | h | h | h | h | h | h | h | h | h | h <;> simp [h] at hday ⊢
  case inr.inl =>
    split at hday
    · rename_i hleap
      exact ⟨by omega, by omega, fun _ => hleap⟩
    · omega
  all_goals omega

theorem dayOfYear_bounds (d : Date) : 0 ≤ d.dayOfYear ∧ d.dayOfYear ≤ 365 := by
  rcases d.month_bounds with ⟨hlow, hhigh, hday, hlast⟩
  have hfirst : 1 ≤ d.day := d.valid.2.2.2.2.1
  unfold dayOfYear
  omega

/-- The year from March that has a 366th day ends in a leap year. -/
theorem leap_of_dayOfYear {d : Date} (h : d.dayOfYear = 365) :
    (d.yearOfEra + 1) % 4 = 0 ∧
      ((d.yearOfEra + 1) % 100 ≠ 0 ∨ (d.yearOfEra + 1) % 400 = 0) := by
  rcases d.month_bounds with ⟨hlow, hhigh, hday, hlast⟩
  unfold dayOfYear at h
  have hfebruary : d.monthFromMarch = 11 := by omega
  have hyear : d.yearFromMarch + 1 = d.year := by
    have hmonth : d.month ≤ 12 := d.valid.2.2.2.1
    unfold monthFromMarch at hfebruary
    unfold yearFromMarch
    split at hfebruary
    · rename_i hearly
      rw [if_pos hearly]
      omega
    · omega
  have hleap := (hlast hfebruary).2 (by rw [hfebruary] at h; omega)
  simp [isLeapYear] at hleap
  unfold yearOfEra
  omega

/-! ## Finding the parts -/

section Parts

variable {year day days : Int}

/-- Within an era the centuries are told from the days, all but the last day as a quotient. -/
theorem century_of_days (hyear : 0 ≤ year ∧ year < 400) (hday : 0 ≤ day ∧ day ≤ 365)
    (hleap : day = 365 →
      (year + 1) % 4 = 0 ∧ ((year + 1) % 100 ≠ 0 ∨ (year + 1) % 400 = 0))
    (hdays : days = year * 365 + year / 4 - year / 100 + day) :
    days / 36524 - days / 146096 = year / 100 := by
  by_cases hlast : days = 146096
  · subst hlast
    omega
  · have hcentury : year / 100 = 0 ∨ year / 100 = 1 ∨ year / 100 = 2 ∨ year / 100 = 3 := by omega
    have hera : days / 146096 = 0 := by omega
    have hend : day ≤ 364 ∨ year ≤ 100 * (year / 100) + 98 := by
      rcases Int.lt_or_le day 365 with hearly | hlate
      · omega
      · have hleap := hleap (by omega)
        omega
    have hquotient : days / 36524 = year / 100 := by
      rcases hcentury with h | h | h | h <;> rcases hend with hend | hend <;> omega
    omega

/-- The year of an era is found from its days: without the leap days, every year has 365. -/
theorem yearOfEra_of_days (hyear : 0 ≤ year ∧ year < 400) (hday : 0 ≤ day ∧ day ≤ 365)
    (hleap : day = 365 →
      (year + 1) % 4 = 0 ∧ ((year + 1) % 100 ≠ 0 ∨ (year + 1) % 400 = 0))
    (hdays : days = year * 365 + year / 4 - year / 100 + day) :
    (days - days / 1460 + days / 36524 - days / 146096) / 365 = year := by
  have hcentury := century_of_days hyear hday hleap hdays
  have hfour : days / 1460 = year / 4 ∧ day ≤ 364 ∨ days / 1460 = year / 4 + 1 ∧ 1 ≤ day := by
    omega
  omega

end Parts

theorem dayOfEra_bounds (d : Date) : 0 ≤ d.dayOfEra ∧ d.dayOfEra < 146097 := by
  have hyear := d.yearOfEra_bounds
  have hday := d.dayOfYear_bounds
  unfold dayOfEra
  omega

/-- A date is found from its number. -/
theorem ofNumber?_number (d : Date) : ofNumber? d.number = some d := by
  have hdays := d.dayOfEra_bounds
  have hyear := yearOfEra_of_days d.yearOfEra_bounds d.dayOfYear_bounds leap_of_dayOfYear
    (rfl : d.dayOfEra = _)
  rcases d.month_bounds with ⟨hlow, hhigh, hday, -⟩
  have hfirst : 1 ≤ d.day ∧ 1 ≤ d.month ∧ d.month ≤ 12 :=
    ⟨d.valid.2.2.2.2.1, d.valid.2.2.1, d.valid.2.2.2.1⟩
  unfold ofNumber?
  extract_lets shifted era dayOfEra yearOfEra dayOfYear monthFromMarch day month year
  have hera : era = d.era := by
    simp only [era, shifted, number_eq]
    omega
  have hdayOfEra : dayOfEra = d.dayOfEra := by
    simp only [dayOfEra, hera, shifted, number_eq]
    omega
  have hyearOfEra : yearOfEra = d.yearOfEra := by
    simp only [yearOfEra, hdayOfEra]
    exact hyear
  have hdayOfYear : dayOfYear = d.dayOfYear := by
    simp only [dayOfYear, hdayOfEra, hyearOfEra, Date.dayOfEra]
    omega
  have hmonthFromMarch : monthFromMarch = d.monthFromMarch := by
    simp only [monthFromMarch, hdayOfYear, Date.dayOfYear]
    omega
  have hday : day.toNat = d.day := by
    simp only [day, hdayOfYear, hmonthFromMarch, Date.dayOfYear]
    omega
  have hmonth : month.toNat = d.month := by
    simp only [month, hmonthFromMarch, Date.monthFromMarch]
    split <;> split <;> omega
  have hyear : year = d.year := by
    simp only [year, hyearOfEra, hera, Date.yearOfEra, yearFromMarch]
    split <;> split <;> omega
  rw [hday, hmonth, hyear, ofYmd?, dif_pos d.valid]

theorem addDays?_zero (d : Date) : d.addDays? 0 = some d := by
  rw [addDays?, Int.add_zero, ofNumber?_number]

end TerminalGateway.Calendar.Date
