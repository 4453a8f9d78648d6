import TerminalGateway.Calendar.Packed
import TerminalGateway.Proofs.Calendar.Days

/-!
# What a packed date and time stand for

A packed number is one leading number and two pairs of digits.  It is taken apart by division toward
zero, so a negative number has no part that is positive, and every number that is no packed date or
time is refused.  Milliseconds that are added to a time in whole seconds become its fraction.

Main definitions:

- `pack`: a number from its three parts.
- `Moment.IsPackable`: a moment that can be packed without loss.
- `Parts`: the parts of a date and of a time of day.

Main results:

- Theorem `unpackParts_pack`: pairs of digits come out as they went in.
- Theorem `unpack?_eq_some_iff`: a packed date and time stand for the moment that packs to them.
- Theorem `unpacks_exactly_digits`: only digits of a date and a time of day are accepted, and each
  moment has its own.
- Theorem `addMillis?_of_whole`: milliseconds become the fraction of a second.
-/

namespace TerminalGateway.Calendar

/-- The number with a leading part and two pairs of digits. -/
def pack (leading middle last : Int) : Int :=
  leading * 10000 + middle * 100 + last

/-- A moment from year 0 on, in whole seconds that are no leap seconds. -/
structure Moment.IsPackable (m : Moment) : Prop where
  year_nonneg : 0 ≤ m.date.year
  nano_eq : m.clock.nano = 0

/-! ## Taking apart -/

/-- Whatever its sign, a number is made of its parts. -/
theorem pack_unpackParts {packed leading middle last : Int}
    (h : unpackParts packed = (leading, middle, last)) : packed = pack leading middle last := by
  simp only [unpackParts, Prod.mk.injEq] at h
  rcases h with ⟨rfl, rfl, rfl⟩
  have hleading := Int.mul_tdiv_add_tmod packed 10000
  have hmiddle := Int.mul_tdiv_add_tmod (packed.tmod 10000) 100
  have hlast : (packed.tmod 10000).tmod 100 = packed.tmod 100 :=
    Int.tmod_tmod_of_dvd packed ⟨100, rfl⟩
  unfold pack
  omega

/-- Pairs of digits come out as they went in. -/
theorem unpackParts_pack {leading middle last : Nat} (hmiddle : middle < 100) (hlast : last < 100) :
    unpackParts (pack leading middle last) = ((leading : Int), (middle : Int), (last : Int)) := by
  have hnonneg : 0 ≤ pack leading middle last := by
    unfold pack
    omega
  have hrest : 0 ≤ pack leading middle last % 10000 := Int.emod_nonneg _ (by decide)
  unfold unpackParts
  rw [Int.tdiv_eq_ediv_of_nonneg hnonneg, Int.tmod_eq_emod_of_nonneg hnonneg,
    Int.tmod_eq_emod_of_nonneg hnonneg, Int.tdiv_eq_ediv_of_nonneg hrest]
  unfold pack
  simp only [Prod.mk.injEq]
  omega

/-- Where the part in the middle is positive, so is the number, and the leading part is not
negative. -/
theorem leading_nonneg {packed leading middle last : Int}
    (h : unpackParts packed = (leading, middle, last)) (hmiddle : 0 < middle) : 0 ≤ leading := by
  have hleading : leading = packed.tdiv 10000 := (congrArg Prod.fst h).symm
  have hmid : middle = (packed.tmod 10000).tdiv 100 := (congrArg (Prod.fst ∘ Prod.snd) h).symm
  rcases Int.lt_or_le packed 0 with hnegative | hnonneg
  · have hopposite : 0 ≤ ((-packed).tmod 10000).tdiv 100 :=
      Int.tdiv_nonneg (Int.tmod_nonneg 10000 (by omega)) (by decide)
    rw [Int.neg_tmod, Int.neg_tdiv, ← hmid] at hopposite
    omega
  · rw [hleading]
    exact Int.tdiv_nonneg hnonneg (by decide)

/-! ## Moments -/

theorem Date.month_lt (d : Date) : d.month < 100 :=
  Nat.lt_of_le_of_lt d.valid.2.2.2.1 (by decide)

theorem Date.day_lt (d : Date) : d.day < 100 := by
  have hday := d.valid.2.2.2.2.2
  unfold daysInMonth at hday
  split at hday
  · split at hday <;> omega
  · split at hday <;> omega

theorem Date.ofYmd?_eq_some_iff {year : Int} {month day : Nat} {d : Date} :
    Date.ofYmd? year month day = some d ↔ d.year = year ∧ d.month = month ∧ d.day = day := by
  unfold ofYmd?
  constructor
  · intro h
    split at h
    · obtain rfl := Option.some.inj h
      exact ⟨rfl, rfl, rfl⟩
    · exact absurd h (by simp)
  · rintro ⟨rfl, rfl, rfl⟩
    rw [dif_pos d.valid]

theorem Clock.ofParts?_eq_some_iff {hour minute second nano : Nat} {c : Clock} :
    Clock.ofParts? hour minute second nano = some c ↔
      c.hour = hour ∧ c.minute = minute ∧ c.second = second ∧ c.nano = nano := by
  unfold ofParts?
  constructor
  · intro h
    split at h
    · obtain rfl := Option.some.inj h
      exact ⟨rfl, rfl, rfl, rfl⟩
    · exact absurd h (by simp)
  · rintro ⟨rfl, rfl, rfl, rfl⟩
    rw [dif_pos c.valid]

/-- A moment is unpacked from its parts.  No part of a negative number is positive, as a month has
to be, so no year is negative. -/
theorem unpack?_eq_some_iff_parts {date time : Int} {m : Moment} :
    unpack? date time = some m ↔
      unpackParts date = (m.date.year, (m.date.month : Int), (m.date.day : Int)) ∧
      unpackParts time = ((m.clock.hour : Int), (m.clock.minute : Int), (m.clock.second : Int)) ∧
      m.clock.nano = 0 := by
  rcases hdate : unpackParts date with ⟨year, month, day⟩
  rcases htime : unpackParts time with ⟨hour, minute, second⟩
  unfold unpack?
  rw [hdate, htime]
  simp only [Option.bind_eq_bind, Option.bind_eq_some_iff, Int.mem_toNat?, Prod.mk.injEq,
    Date.ofYmd?_eq_some_iff, Clock.ofParts?_eq_some_iff]
  constructor
  · rintro ⟨monthNat, rfl, dayNat, rfl, d, ⟨rfl, rfl, rfl⟩, hourNat, rfl, minuteNat, rfl,
      secondNat, rfl, c, ⟨rfl, rfl, rfl, hnano⟩, hm⟩
    obtain rfl := Option.some.inj hm
    exact ⟨⟨rfl, rfl, rfl⟩, ⟨rfl, rfl, rfl⟩, hnano⟩
  · rintro ⟨⟨rfl, rfl, rfl⟩, ⟨rfl, rfl, rfl⟩, hnano⟩
    exact ⟨_, rfl, _, rfl, m.date, ⟨rfl, rfl, rfl⟩, _, rfl, _, rfl, _, rfl, m.clock,
      ⟨rfl, rfl, rfl, hnano⟩, rfl⟩

/-- A packed date and time stand for the moment that packs to them. -/
theorem unpack?_eq_some_iff {date time : Int} {m : Moment} :
    unpack? date time = some m ↔ m.IsPackable ∧
      date = pack m.date.year m.date.month m.date.day ∧
      time = pack m.clock.hour m.clock.minute m.clock.second := by
  rw [unpack?_eq_some_iff_parts]
  rcases m.clock.valid with ⟨-, hminute, hsecond, -⟩
  constructor
  · rintro ⟨hdate, htime, hnano⟩
    have hmonth : (0 : Int) < m.date.month := Int.ofNat_lt.mpr m.date.valid.2.2.1
    exact ⟨⟨leading_nonneg hdate hmonth, hnano⟩, pack_unpackParts hdate, pack_unpackParts htime⟩
  · rintro ⟨⟨hyear, hnano⟩, rfl, rfl⟩
    rcases Int.eq_ofNat_of_zero_le hyear with ⟨year, hnat⟩
    rw [hnat]
    exact ⟨unpackParts_pack m.date.month_lt m.date.day_lt,
      unpackParts_pack (Nat.lt_trans hminute (by decide)) (Nat.lt_trans hsecond (by decide)),
      hnano⟩

/-! ## Digits -/

/-- The parts of a date and of a time of day. -/
structure Parts where
  year : Nat
  month : Nat
  day : Nat
  hour : Nat
  minute : Nat
  second : Nat

namespace Parts

/-- The parts name a supported date of the calendar and a time of day that is no leap second. -/
structure IsNaming (parts : Parts) : Prop where
  date : IsDate parts.year parts.month parts.day
  hour_le : parts.hour ≤ 23
  minute_le : parts.minute ≤ 59
  second_le : parts.second ≤ 59

variable {parts : Parts}

theorem IsNaming.isClock (h : parts.IsNaming) :
    IsClock parts.hour parts.minute parts.second 0 := by
  have hhour := h.hour_le
  have hminute := h.minute_le
  have hsecond := h.second_le
  unfold IsClock
  omega

/-- The moment with these parts and no fraction of a second. -/
def moment (parts : Parts) (h : parts.IsNaming) : Moment where
  date := ⟨parts.year, parts.month, parts.day, h.date⟩
  clock := ⟨parts.hour, parts.minute, parts.second, 0, h.isClock⟩

theorem IsNaming.isPackable (h : parts.IsNaming) : (parts.moment h).IsPackable where
  year_nonneg := Int.natCast_nonneg parts.year
  nano_eq := rfl

theorem pack_date_moment (h : parts.IsNaming) :
    pack (parts.moment h).date.year (parts.moment h).date.month (parts.moment h).date.day =
      10000 * parts.year + 100 * parts.month + parts.day := by
  simp only [pack, moment]
  omega

theorem pack_clock_moment (h : parts.IsNaming) :
    pack (parts.moment h).clock.hour (parts.moment h).clock.minute (parts.moment h).clock.second =
      10000 * parts.hour + 100 * parts.minute + parts.second := by
  simp only [pack, moment]
  omega

end Parts

/-- Every moment that can be packed has such parts. -/
theorem Moment.IsPackable.exists_parts {m : Moment} (h : m.IsPackable) :
    ∃ (parts : Parts) (hnaming : parts.IsNaming), parts.moment hnaming = m := by
  obtain ⟨⟨year, month, day, hdate⟩, ⟨hour, minute, second, nano, hclock⟩⟩ := m
  obtain ⟨year, rfl⟩ := Int.eq_ofNat_of_zero_le h.year_nonneg
  obtain rfl : nano = 0 := h.nano_eq
  rcases hclock with ⟨hhour, hminute, hsecond, -⟩
  refine ⟨⟨year, month, day, hour, minute, second⟩, ⟨hdate, ?_, ?_, ?_⟩, rfl⟩
  · exact Nat.le_of_lt_succ hhour
  · exact Nat.le_of_lt_succ hminute
  · exact Nat.le_of_lt_succ hsecond

/-- Two numbers, whatever their signs, are unpacked exactly if their digits are the parts of a date
and of a time of day, and then into the moment with these parts.  No other two numbers are unpacked
into the same moment. -/
theorem unpacks_exactly_digits (date time : Int) :
    (∀ m, unpack? date time = some m ↔
      ∃ (parts : Parts) (h : parts.IsNaming),
        date = 10000 * parts.year + 100 * parts.month + parts.day ∧
        time = 10000 * parts.hour + 100 * parts.minute + parts.second ∧
        m = parts.moment h) ∧
    (∀ otherDate otherTime m, unpack? date time = some m → unpack? otherDate otherTime = some m →
      otherDate = date ∧ otherTime = time) := by
  constructor
  · intro m
    rw [unpack?_eq_some_iff]
    constructor
    · rintro ⟨hpackable, hdate, htime⟩
      obtain ⟨parts, hnaming, rfl⟩ := hpackable.exists_parts
      rw [Parts.pack_date_moment] at hdate
      rw [Parts.pack_clock_moment] at htime
      exact ⟨parts, hnaming, hdate, htime, rfl⟩
    · rintro ⟨parts, hnaming, hdate, htime, rfl⟩
      rw [Parts.pack_date_moment, Parts.pack_clock_moment]
      exact ⟨hnaming.isPackable, hdate, htime⟩
  · intro otherDate otherTime m h hother
    obtain ⟨-, hdate, htime⟩ := unpack?_eq_some_iff.mp h
    obtain ⟨-, hotherDate, hotherTime⟩ := unpack?_eq_some_iff.mp hother
    exact ⟨hotherDate.trans hdate.symm, hotherTime.trans htime.symm⟩

/-- The last second of a leap day is unpacked from its digits and from no other numbers. -/
theorem unpacks_exactly_leapDay :
    let leapDay : Parts := ⟨2000, 2, 29, 23, 59, 59⟩
    ∃ h : leapDay.IsNaming, unpack? 20000229 235959 = some (leapDay.moment h) ∧
      ∀ date time, unpack? date time = some (leapDay.moment h) →
        date = 20000229 ∧ time = 235959 := by
  intro leapDay
  have hnaming : leapDay.IsNaming := ⟨by decide, by decide, by decide, by decide⟩
  obtain ⟨haccepted, hunique⟩ := unpacks_exactly_digits 20000229 235959
  have hunpacked : unpack? 20000229 235959 = some (leapDay.moment hnaming) := by
    rw [haccepted]
    exact ⟨leapDay, hnaming, rfl, rfl, rfl⟩
  refine ⟨hnaming, hunpacked, ?_⟩
  intro date time h
  exact hunique date time _ hunpacked h

/-! ## Fractions of a second -/

/-- Milliseconds become the fraction of a whole second that is no leap second. -/
theorem addMillis?_of_whole {m : Moment} (hnano : m.clock.nano = 0) {millis : Int}
    (hlow : 0 ≤ millis) (hhigh : millis < 1000) {n : Moment} :
    m.addMillis? millis = some n ↔ n.date = m.date ∧ n.clock.hour = m.clock.hour ∧
      n.clock.minute = m.clock.minute ∧ n.clock.second = m.clock.second ∧
      (n.clock.nano : Int) = millis * 1000000 := by
  rcases m.clock.valid with ⟨hhour, hminute, hsecond, -⟩
  have hclock : m.clock.millis =
      ((m.clock.hour * 60 + m.clock.minute) * 60 + m.clock.second) * 1000 := by
    rw [Clock.millis, hnano, Nat.zero_div, Nat.add_zero]
  have hday : ((m.clock.millis : Int) + millis) / 86400000 = 0 := by omega
  have hrest : (((m.clock.millis : Int) + millis) % 86400000).toNat =
      ((m.clock.hour * 60 + m.clock.minute) * 60 + m.clock.second) * 1000 + millis.toNat := by
    omega
  unfold Moment.addMillis?
  dsimp only
  rw [hday, hrest, Date.addDays?_zero]
  simp only [Option.bind_eq_bind, Option.bind_eq_some_iff, Option.bind_some,
    Clock.ofParts?_eq_some_iff]
  constructor
  · rintro ⟨c, ⟨hh, hm, hs, hn⟩, heq⟩
    obtain rfl := Option.some.inj heq
    refine ⟨rfl, ?_, ?_, ?_, ?_⟩
    · simp only; omega
    · simp only; omega
    · simp only; omega
    · simp only; omega
  · rintro ⟨hdate, hh, hm, hs, hn⟩
    refine ⟨n.clock, ⟨?_, ?_, ?_, ?_⟩, ?_⟩
    · omega
    · omega
    · omega
    · omega
    · rw [← hdate]
      rfl

end TerminalGateway.Calendar
