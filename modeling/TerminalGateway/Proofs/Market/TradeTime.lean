import TerminalGateway.Market.Messages
import TerminalGateway.Proofs.Calendar.Packing

/-!
# The time of a trade

The time of a trade comes in a table of parts.  The parts of the date are put into one packed number
and those of the time of day into another, and these are read as packed dates and times are.  A part
that does not fit into its pair of digits carries into the next: the table is then read as another
moment, although it names none.  If each part fits, exactly the moment with these parts is read.

Main definitions:

- `TimeParts`: the parts of a table.
- `TimeParts.Names`: a moment has exactly these parts.
- `TimeParts.Carries`: a moment comes about by carrying.
- `TimeParts.IsPaired`: month, day, minute and second have two digits at most.
- `ReportsTrade`: all of a message but the time in its table.

Main results:

- Theorem `tableTime?_eq_some_iff`: what is read from a table.
- Theorem `TimeParts.IsPaired.names`: nothing is carried where the parts fit.
- Theorem `reads_tradeTime`: the time of a trade is read faithfully where the parts fit.
- Theorem `day_carried`: a day past the end of its month is read as one of the next.
-/

namespace TerminalGateway.Market

open TerminalGateway.Calendar (Moment pack)
open TerminalGateway.Json (Value)
open TerminalGateway.Message

/-! ## Parts -/

/-- The parts of a table of a trade's time. -/
structure TimeParts where
  year : Int
  month : Int
  day : Int
  hour : Int
  minute : Int
  second : Int
  millis : Int

namespace TimeParts

/-- A table holds these parts, each under its name. -/
structure HeldBy (parts : TimeParts) (table : Value) : Prop where
  year : Scalar.intAt? table "year" = some parts.year
  month : Scalar.intAt? table "month" = some parts.month
  day : Scalar.intAt? table "day" = some parts.day
  hour : Scalar.intAt? table "hour" = some parts.hour
  minute : Scalar.intAt? table "min" = some parts.minute
  second : Scalar.intAt? table "sec" = some parts.second
  millis : Scalar.intAt? table "ms" = some parts.millis

/-- No part is so large that a packed number might outgrow 64 bits, and the milliseconds are less
than a second. -/
structure IsBounded (parts : TimeParts) : Prop where
  small : ∀ part ∈ [parts.year, parts.month, parts.day, parts.hour, parts.minute, parts.second],
    part.natAbs < 1000000000
  millis_nonneg : 0 ≤ parts.millis
  millis_lt : parts.millis < 1000

/-- The table with these parts. -/
def table (parts : TimeParts) : Value :=
  .object [("day", .ofInt parts.day), ("hour", .ofInt parts.hour), ("min", .ofInt parts.minute),
    ("month", .ofInt parts.month), ("ms", .ofInt parts.millis), ("sec", .ofInt parts.second),
    ("year", .ofInt parts.year)]

/-- Parts that are small enough can be told in numbers. -/
theorem IsBounded.heldBy_table {parts : TimeParts} (h : parts.IsBounded) :
    parts.HeldBy parts.table := by
  have hread {part : Int} (hpart : part < Number.signedLimit64) :
      Scalar.int? (.ofInt part) = some part := if_pos hpart
  have hsmall {part : Int} (hpart : part ∈ [parts.year, parts.month, parts.day, parts.hour,
      parts.minute, parts.second]) : Scalar.int? (.ofInt part) = some part := by
    have hpart := h.small part hpart
    exact hread (by unfold Number.signedLimit64; omega)
  have hmillis := h.millis_lt
  constructor
  case year => exact hsmall (by simp)
  case month => exact hsmall (by simp)
  case day => exact hsmall (by simp)
  case hour => exact hsmall (by simp)
  case minute => exact hsmall (by simp)
  case second => exact hsmall (by simp)
  case millis => exact hread (by unfold Number.signedLimit64; omega)

/-- A moment from year 0 on has exactly these parts. -/
structure Names (parts : TimeParts) (m : Moment) : Prop where
  year_nonneg : 0 ≤ m.date.year
  year : m.date.year = parts.year
  month : (m.date.month : Int) = parts.month
  day : (m.date.day : Int) = parts.day
  hour : (m.clock.hour : Int) = parts.hour
  minute : (m.clock.minute : Int) = parts.minute
  second : (m.clock.second : Int) = parts.second
  fraction : (m.clock.nano : Int) = parts.millis * 1000000

/-- The date and the time of day of a moment from year 0 on pack to the same numbers as the
parts. -/
structure Carries (parts : TimeParts) (m : Moment) : Prop where
  year_nonneg : 0 ≤ m.date.year
  date : pack parts.year parts.month parts.day = pack m.date.year m.date.month m.date.day
  time : pack parts.hour parts.minute parts.second =
    pack m.clock.hour m.clock.minute m.clock.second
  fraction : (m.clock.nano : Int) = parts.millis * 1000000

/-- Month, day, minute and second fit into two digits. -/
def IsPaired (parts : TimeParts) : Prop :=
  ∀ part ∈ [parts.month, parts.day, parts.minute, parts.second], 0 ≤ part ∧ part < 100

variable {parts : TimeParts} {m : Moment} {table : Value}

/-- Nothing has to be carried for a moment with these parts. -/
theorem Names.carries (h : parts.Names m) : parts.Carries m where
  year_nonneg := h.year_nonneg
  date := by rw [h.year, h.month, h.day]
  time := by rw [h.hour, h.minute, h.second]
  fraction := h.fraction

/-- Nothing is carried where the parts fit: a number has its two pairs of digits in one way only. -/
theorem IsPaired.names (hpaired : parts.IsPaired) (h : parts.Carries m) : parts.Names m := by
  have hmonth := hpaired parts.month (by simp)
  have hday := hpaired parts.day (by simp)
  have hminute := hpaired parts.minute (by simp)
  have hsecond := hpaired parts.second (by simp)
  have hmonthOf := m.date.month_lt
  have hdayOf := m.date.day_lt
  rcases m.clock.valid with ⟨-, hminuteOf, hsecondOf, -⟩
  have hdate := h.date
  have htime := h.time
  unfold pack at hdate htime
  constructor
  case year_nonneg => exact h.year_nonneg
  case fraction => exact h.fraction
  all_goals omega

end TimeParts

/-! ## Reading -/

variable {payload result table : Value} {asset : Asset} {price volume : Decimal}
  {parts : TimeParts}

/-- A table with all its parts is read as a packed date and time, and its milliseconds are added. -/
theorem tableTime?_eq_bind (h : parts.HeldBy table) :
    tableTime? table = (Calendar.unpack? (pack parts.year parts.month parts.day)
      (pack parts.hour parts.minute parts.second)).bind (·.addMillis? parts.millis) := by
  unfold tableTime?
  simp only [h.year, h.month, h.day, h.hour, h.minute, h.second, h.millis, Option.bind_eq_bind,
    Option.bind_some, Option.getD_some]
  rfl

/-- What is read from a table is what comes about by carrying. -/
theorem tableTime?_eq_some_iff (h : parts.HeldBy table) (hbounded : parts.IsBounded) {m : Moment} :
    tableTime? table = some m ↔ parts.Carries m := by
  rw [tableTime?_eq_bind h, Option.bind_eq_some_iff]
  constructor
  · rintro ⟨whole, hwhole, hadd⟩
    rcases Calendar.unpack?_eq_some_iff.mp hwhole with ⟨hpackable, hdate, htime⟩
    rcases (Calendar.addMillis?_of_whole hpackable.nano_eq hbounded.millis_nonneg
      hbounded.millis_lt).mp hadd with
      ⟨hsame, hhour, hminute, hsecond, hfraction⟩
    constructor
    case year_nonneg => exact hsame ▸ hpackable.year_nonneg
    case date => rw [hdate, hsame]
    case time => rw [htime, hhour, hminute, hsecond]
    case fraction => exact hfraction
  · intro hcarries
    have hvalid : Calendar.IsClock m.clock.hour m.clock.minute m.clock.second 0 :=
      ⟨m.clock.valid.1, m.clock.valid.2.1, m.clock.valid.2.2.1, by decide⟩
    let whole : Moment :=
      ⟨m.date, ⟨m.clock.hour, m.clock.minute, m.clock.second, 0, hvalid⟩⟩
    have hpackable : whole.IsPackable := ⟨hcarries.year_nonneg, rfl⟩
    refine ⟨whole, ?_, ?_⟩
    · exact Calendar.unpack?_eq_some_iff.mpr ⟨hpackable, hcarries.date, hcarries.time⟩
    · exact (Calendar.addMillis?_of_whole hpackable.nano_eq hbounded.millis_nonneg
        hbounded.millis_lt).mpr ⟨rfl, rfl, rfl, rfl, hcarries.fraction⟩

/-- A message reports a trade of an asset at a price and a volume, with the table of its time. -/
def ReportsTrade (payload : Value) (asset : Asset) (price volume : Decimal) (table : Value) :
    Prop :=
  ∃ result classCode secCode, payload.get? "result" = some result ∧
    result.get? "class_code" = some (.string classCode) ∧
    result.get? "sec_code" = some (.string secCode) ∧
    Asset.ofCodes classCode secCode = .ok asset ∧
    Scalar.decimalAt? result "price" = some price ∧
    Scalar.decimalAt? result "qty" = some volume ∧
    result.get? "datetime" = some table

/-- The message of a trade of two futures at 112340. -/
def futureTrade (table : Value) : Value :=
  .object [("result", .object [("class_code", .string "SPBFUT"), ("datetime", table),
    ("price", .ofInt 112340), ("qty", .ofInt 2), ("sec_code", .string "RIU8")])]

theorem reportsTrade_futureTrade (table : Value) :
    ReportsTrade (futureTrade table) (.instrument "SPBFUT" "RIU8") ⟨false, 112340, 0, by decide,
      by decide⟩ ⟨false, 2, 0, by decide, by decide⟩ table :=
  ⟨_, "SPBFUT", "RIU8", rfl, rfl, rfl, rfl, rfl, rfl, rfl⟩

/-- The quote that a trade is published as. -/
def tradeQuote (asset : Asset) (receivedAt : Moment) (price volume : Decimal) (time : Moment) :
    Quote where
  asset := asset
  receivedAt := receivedAt
  bid := none
  ask := none
  last := some price
  lastChange := none
  lastVolume := some volume
  tradeTime := some time

/-- Of a message that reports a trade only the time can be refused. -/
theorem readTradeTick_eq (h : ReportsTrade payload asset price volume table)
    (receivedAt : Moment) :
    readTradeTick payload receivedAt =
      (orField "datetime" (tableTime? table)).map (tradeQuote asset receivedAt price volume) := by
  rcases h with ⟨result, classCode, secCode, hresult, hclass, hsec, hasset, hprice, hvolume, htable⟩
  have hprice : decimalAt result "price" = .ok price := by rw [decimalAt, hprice, orField]
  have hvolume : decimalAt result "qty" = .ok volume := by rw [decimalAt, hvolume, orField]
  unfold readTradeTick
  simp only [hresult, hclass, hsec, htable, hasset, hprice, hvolume, orField, Option.bind_some,
    Value.string?, Except.toOption, bind, Except.bind]
  cases tableTime? table with
  | none => rfl
  | some time => rfl

/-- A trade is published with the time in its table. -/
theorem readTradeTick_eq_ok_iff (h : ReportsTrade payload asset price volume table)
    (receivedAt : Moment) {m : Moment} :
    readTradeTick payload receivedAt = .ok (tradeQuote asset receivedAt price volume m) ↔
      tableTime? table = some m := by
  rw [readTradeTick_eq h]
  cases tableTime? table with
  | none => simp [orField, Except.map]
  | some time => simp [orField, Except.map, tradeQuote]

/-- A trade is refused, for its time, if there is none in its table. -/
theorem readTradeTick_eq_error_iff (h : ReportsTrade payload asset price volume table)
    (receivedAt : Moment) :
    readTradeTick payload receivedAt = .error (.field "datetime") ↔ tableTime? table = none := by
  rw [readTradeTick_eq h]
  cases tableTime? table with
  | none => simp [orField, Except.map]
  | some time => simp [orField, Except.map]

/-- A trade is published with the moment that comes about by carrying, and refused for its time if
there is none.  A moment that has the parts of the table is always published.  If month, day, minute
and second fit into two digits nothing else is. -/
theorem reads_tradeTime (h : ReportsTrade payload asset price volume table)
    (hheld : parts.HeldBy table) (hbounded : parts.IsBounded) (receivedAt : Moment) :
    ((∀ m, readTradeTick payload receivedAt = .ok (tradeQuote asset receivedAt price volume m) ↔
        parts.Carries m) ∧
      (readTradeTick payload receivedAt = .error (.field "datetime") ↔ ¬∃ m, parts.Carries m)) ∧
    (∀ m, parts.Names m →
      readTradeTick payload receivedAt = .ok (tradeQuote asset receivedAt price volume m)) ∧
    (parts.IsPaired →
      (∀ m, readTradeTick payload receivedAt = .ok (tradeQuote asset receivedAt price volume m) ↔
        parts.Names m) ∧
      (readTradeTick payload receivedAt = .error (.field "datetime") ↔ ¬∃ m, parts.Names m)) := by
  have haccepted (m : Moment) :
      readTradeTick payload receivedAt = .ok (tradeQuote asset receivedAt price volume m) ↔
        parts.Carries m := by
    rw [readTradeTick_eq_ok_iff h, tableTime?_eq_some_iff hheld hbounded]
  have hrefused : readTradeTick payload receivedAt = .error (.field "datetime") ↔
      ¬∃ m, parts.Carries m := by
    rw [readTradeTick_eq_error_iff h, Option.eq_none_iff_forall_ne_some, not_exists]
    exact forall_congr' fun m => not_congr (tableTime?_eq_some_iff hheld hbounded)
  refine ⟨⟨haccepted, hrefused⟩, fun m hnames => (haccepted m).mpr hnames.carries, ?_⟩
  intro hpaired
  have hcarries (m : Moment) : parts.Carries m ↔ parts.Names m := ⟨hpaired.names, fun h => h.carries⟩
  constructor
  · intro m
    rw [haccepted, hcarries]
  · rw [hrefused]
    simp only [hcarries]

/-- The last millisecond of a leap day is published, and a later day of that month is refused. -/
theorem tradeTime_of_leapDay :
    let leapDay : TimeParts := ⟨2000, 2, 29, 23, 59, 59, 999⟩
    let noDay : TimeParts := ⟨2000, 2, 30, 23, 59, 59, 999⟩
    readTradeTick (futureTrade leapDay.table) .epoch = .ok (tradeQuote
      (.instrument "SPBFUT" "RIU8") .epoch ⟨false, 112340, 0, by decide, by decide⟩
      ⟨false, 2, 0, by decide, by decide⟩
      ⟨⟨2000, 2, 29, by decide⟩, ⟨23, 59, 59, 999000000, by decide⟩⟩) ∧
    noDay.IsPaired ∧
    readTradeTick (futureTrade noDay.table) .epoch = .error (.field "datetime") := by
  intro leapDay noDay
  have hleap : leapDay.IsBounded := ⟨by decide, by decide, by decide⟩
  have hno : noDay.IsBounded := ⟨by decide, by decide, by decide⟩
  have hpaired : noDay.IsPaired := by unfold TimeParts.IsPaired; decide
  refine ⟨?published, hpaired, ?refused⟩
  case published =>
    apply (reads_tradeTime (reportsTrade_futureTrade _) hleap.heldBy_table hleap .epoch).2.1
    exact ⟨by decide, rfl, rfl, rfl, rfl, rfl, rfl, rfl⟩
  case refused =>
    apply ((reads_tradeTime (reportsTrade_futureTrade _) hno.heldBy_table hno .epoch).2.2
      hpaired).2.mpr
    rintro ⟨m, hm⟩
    have hmonth : m.date.month = 2 := Int.ofNat.inj hm.month
    have hday : m.date.day = 30 := Int.ofNat.inj hm.day
    have hlast := m.date.valid.2.2.2.2.2
    rw [hday, hmonth, hm.year] at hlast
    exact absurd hlast (by decide)

/-- Day 112 of July 2018 is read as the 12th of August, with the time of day as it stands. -/
theorem day_carried :
    let noDay : TimeParts := ⟨2018, 7, 112, 10, 5, 1, 250⟩
    noDay.HeldBy noDay.table ∧ noDay.IsBounded ∧ (¬∃ m, noDay.Names m) ∧
    readTradeTick (futureTrade noDay.table) .epoch = .ok (tradeQuote
      (.instrument "SPBFUT" "RIU8") .epoch ⟨false, 112340, 0, by decide, by decide⟩
      ⟨false, 2, 0, by decide, by decide⟩
      ⟨⟨2018, 8, 12, by decide⟩, ⟨10, 5, 1, 250000000, by decide⟩⟩) := by
  intro noDay
  have hbounded : noDay.IsBounded := ⟨by decide, by decide, by decide⟩
  have hheld := hbounded.heldBy_table
  refine ⟨hheld, hbounded, ?unnamed, ?published⟩
  case unnamed =>
    rintro ⟨m, hm⟩
    have hday : m.date.day = 112 := Int.ofNat.inj hm.day
    have hlast := m.date.day_lt
    omega
  case published =>
    rw [readTradeTick_eq_ok_iff (reportsTrade_futureTrade _),
      tableTime?_eq_some_iff hheld hbounded]
    exact ⟨by decide, rfl, rfl, rfl⟩

end TerminalGateway.Market
