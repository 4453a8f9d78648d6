import Mathlib.Data.List.TakeWhile
import TerminalGateway.Calendar.Reader
import TerminalGateway.Proofs.Calendar.Days
import TerminalGateway.Proofs.Text.Digits

/-!
# Moments come back from their texts

Every part of a written moment is read up to the mark behind it: the year with its sign and all
its digits, the other parts with two, and the fraction of a second at whichever length it was
written.  A moment in UTC is moved by no minutes, which takes its date through the count of days.

A leap second at the end of a minute has a number of its own.  Any other is written as the second
after it is, and comes back as that one.

Main definitions:

- `Clock.IsPlain`, `Moment.IsPlain`: no leap second, or one at the end of a minute.
- `Clock.plain`, `Moment.plain`: what comes back.

Main results:

- Theorem `readDate_dateText`, `readClock_clockText`: dates and times of day are read up to what
  stands behind them.
- Theorem `readLocal?_isoText`: a moment without a zone comes back as its plain one.
- Theorem `readZoned?_utcText`: so does a moment in UTC.
-/

namespace TerminalGateway.Calendar

open TerminalGateway.Text (padded EndsDigits)

variable {n width : Nat} {rest : List Char}

/-! ## Numbers -/

/-- The digits of a number end where its width does, or where no digit stands next. -/
theorem takeWhile_take_padded {limit : Nat} (h : EndsDigits rest)
    (hlimit : (padded width n).toList.length ≤ limit) :
    (((padded width n).toList ++ rest).take limit).takeWhile Text.isDigit
      = (padded width n).toList := by
  have hrest : EndsDigits (rest.take (limit - (padded width n).toList.length)) := by
    cases rest with
    | nil => simpa using h
    | cons c rest =>
        intro d hd
        cases hcount : limit - (padded width n).toList.length with
        | zero => simp [hcount] at hd
        | succ count =>
            rw [hcount] at hd
            exact h d hd
  rw [List.take_append, List.take_of_length_le hlimit,
    Text.takeWhile_append (fun _ hc => Text.isDigit_of_mem_padded hc) hrest]

theorem readDigits_of_takeWhile {limit : Nat} (hn : n < Number.signedLimit64)
    (h : (((padded width n).toList ++ rest).take limit).takeWhile Text.isDigit
      = (padded width n).toList) :
    readDigits limit ((padded width n).toList ++ rest) = some (n, rest) := by
  unfold readDigits
  rw [h]
  dsimp only
  rw [Text.natOfDigits?_padded]
  dsimp only
  rw [if_pos hn, List.drop_left]

theorem readDigits_padded (rest : List Char) (hwidth : 0 < width) (hn : n < Number.tenPow width)
    (hsmall : n < Number.signedLimit64) :
    readDigits width ((padded width n).toList ++ rest) = some (n, rest) := by
  refine readDigits_of_takeWhile hsmall ?_
  have hlength := Text.length_padded hwidth hn
  rw [List.take_append_of_le_length (by omega), List.take_of_length_le (by omega)]
  exact List.takeWhile_eq_self_iff.mpr fun _ hc =>
    Text.isDigit_of_charIsDigit (Text.isDigit_of_mem_padded hc)

theorem trimStart_cons {c : Char} (hc : Text.isBlank c = false) (rest : List Char) :
    Text.trimStart (c :: rest) = c :: rest :=
  List.dropWhile_cons_of_neg (by simp [hc])

theorem trimStart_padded (width n : Nat) (rest : List Char) :
    Text.trimStart ((padded width n).toList ++ rest) = (padded width n).toList ++ rest := by
  rcases Text.padded_eq_cons width n with ⟨c, cs, hcons, hdigit⟩
  rw [hcons]
  exact trimStart_cons (Text.isBlank_of_isDigit hdigit) _

/-- A part of two digits. -/
theorem readPart_padded {greatest : Nat} (hn : n ≤ greatest) (hgreatest : greatest < 100) :
    readPart greatest ((padded 2 n).toList ++ rest) = some (n, rest) := by
  have hsmall : n < Number.signedLimit64 := by
    unfold Number.signedLimit64
    omega
  have hfits : n < 100 := by omega
  rw [readPart, trimStart_padded, readDigits_padded rest (by decide) hfits hsmall]
  exact if_pos hn

theorem expectMark_cons {blanks : Bool} {c : Char} (hc : Text.isBlank c = false)
    (rest : List Char) : expectMark blanks c (c :: rest) = some rest := by
  cases blanks <;> simp [expectMark, expect, trimStart_cons hc]

/-! ## Dates -/

/-- The digits behind the sign of a year, up to the dash. -/
theorem readDigits_year (width : Nat) (hn : n < Number.signedLimit64) (h : EndsDigits rest) :
    readDigits ((padded width n).toList ++ rest).length ((padded width n).toList ++ rest)
      = some (n, rest) := by
  refine readDigits_of_takeWhile hn (takeWhile_take_padded h ?_)
  rw [List.length_append]
  omega

/-- A year is read with its sign and all its digits. -/
theorem readYear_yearText {year : Int} (hyear : minYear ≤ year ∧ year ≤ maxYear)
    (h : EndsDigits rest) :
    readYear ((Moment.yearText year).toList ++ rest) = some (year, rest) := by
  have hsmall : year.natAbs < Number.signedLimit64 := by
    unfold minYear maxYear at hyear
    unfold Number.signedLimit64
    omega
  have hsign := readDigits_year 4 hsmall h
  rw [List.length_append] at hsign
  unfold Moment.yearText
  split
  · have hvalue : -(year.natAbs : Int) = year := by omega
    have htrim := trimStart_cons (c := '-') (by decide) ((padded 4 year.natAbs).toList ++ rest)
    have hmark : "-".toList = ['-'] := rfl
    rw [String.toList_append, hmark, List.append_assoc, List.cons_append, List.nil_append]
    simp only [readYear, htrim, List.length_append, hsign, Option.map_some, hvalue]
  split
  · have hvalue : (year.natAbs : Int) = year := by omega
    have htrim := trimStart_cons (c := '+') (by decide) ((padded 4 year.natAbs).toList ++ rest)
    have hmark : "+".toList = ['+'] := rfl
    rw [String.toList_append, hmark, List.append_assoc, List.cons_append, List.nil_append]
    simp only [readYear, htrim, List.length_append, hsign, Option.map_some, hvalue]
  · have hvalue : (year.natAbs : Int) = year := by omega
    have hfits : year.natAbs < 10000 := by omega
    have hread := readDigits_padded rest (by decide : 0 < 4) hfits hsmall
    have htrim := trimStart_padded 4 year.natAbs rest
    rcases Text.padded_eq_cons 4 year.natAbs with ⟨c, cs, hcons, hdigit⟩
    rw [hcons, List.cons_append] at hread htrim
    rw [hcons, List.cons_append, readYear, htrim]
    split
    · rename_i heq
      exact absurd (List.cons.inj heq).1 (Text.ne_sign_of_isDigit hdigit).2
    · rename_i heq
      exact absurd (List.cons.inj heq).1 (Text.ne_sign_of_isDigit hdigit).1
    · simp only [hread, Option.map_some, hvalue]

/-- A date is read up to what stands behind it. -/
theorem readDate_dateText (d : Date) (rest : List Char) :
    readDate true ((Moment.dateText d).toList ++ rest) = some (d, rest) := by
  rcases d.valid with ⟨hlow, hhigh, -, hmonth, -, hday⟩
  have hday : d.day ≤ 31 := by
    unfold daysInMonth at hday
    split at hday
    · split at hday <;> omega
    · split at hday <;> omega
  have hdash : "-".toList = ['-'] := rfl
  rw [Moment.dateText]
  simp only [String.toList_append, List.append_assoc, hdash, List.cons_append, List.nil_append]
  rw [readDate, readYear_yearText ⟨hlow, hhigh⟩ (Text.endsDigits_cons (by decide) _)]
  dsimp only [Option.bind_eq_bind, Option.bind_some]
  rw [expectMark_cons (by decide), Option.bind_some, readPart_padded hmonth (by decide),
    Option.bind_some]
  dsimp only
  rw [expectMark_cons (by decide), Option.bind_some, readPart_padded hday (by decide),
    Option.bind_some, Date.ofYmd?, dif_pos d.valid]
  rfl

/-! ## Leap seconds -/

namespace Clock

/-- The time is in no leap second, or in one at the end of its minute. -/
def IsPlain (c : Clock) : Prop :=
  c.nano < 1000000000 ∨ c.second = 59

instance (c : Clock) : Decidable c.IsPlain :=
  inferInstanceAs (Decidable (_ ∨ _))

/-- The time with a leap second that is not at the end of its minute taken for the second after
it. -/
def plain (c : Clock) : Clock :=
  if h : c.IsPlain then c
  else ⟨c.hour, c.minute, c.second + 1, c.nano - 1000000000, by
    have hvalid := c.valid
    unfold IsPlain at h
    unfold IsClock at hvalid ⊢
    omega⟩

theorem plain_of_isPlain {c : Clock} (h : c.IsPlain) : c.plain = c :=
  dif_pos h

/-- Any other leap second is taken for the second after it, at the same fraction. -/
theorem plain_of_not_isPlain {c : Clock} (h : ¬ c.IsPlain) :
    c.plain.hour = c.hour ∧ c.plain.minute = c.minute ∧ c.plain.second = c.second + 1 ∧
      c.plain.nano + 1000000000 = c.nano := by
  have hnano : 1000000000 ≤ c.nano := by
    unfold IsPlain at h
    omega
  rw [plain, dif_neg h]
  exact ⟨rfl, rfl, rfl, Nat.sub_add_cancel hnano⟩

theorem ofParts?_self (c : Clock) : ofParts? c.hour c.minute c.second c.nano = some c :=
  dif_pos c.valid

/-- The parts that are written of a time are those of its plain one. -/
theorem ofWritten?_written (c : Clock) :
    ofWritten? c.hour c.minute (c.second + c.nano / 1000000000) (c.nano % 1000000000) =
      some c.plain := by
  rcases c.valid with ⟨-, -, hsecond, hnano⟩
  unfold ofWritten?
  by_cases hplain : c.IsPlain
  · rw [plain_of_isPlain hplain]
    rcases Nat.lt_or_ge c.nano 1000000000 with hordinary | hleap
    · rw [if_neg (by omega), Nat.div_eq_of_lt hordinary, Nat.mod_eq_of_lt hordinary]
      exact c.ofParts?_self
    · have hlast : c.second = 59 := hplain.resolve_left (Nat.not_lt.mpr hleap)
      rw [if_pos (by omega), ← hlast, show 1000000000 + c.nano % 1000000000 = c.nano by omega]
      exact c.ofParts?_self
  · rcases plain_of_not_isPlain hplain with ⟨hhour, hminute, hnext, hrest⟩
    rw [if_neg (by unfold IsPlain at hplain; omega), ← hhour, ← hminute,
      show c.second + c.nano / 1000000000 = c.plain.second by omega,
      show c.nano % 1000000000 = c.plain.nano by omega]
    exact c.plain.ofParts?_self

end Clock

namespace Moment

/-- The moment is in no leap second, or in one at the end of its minute. -/
def IsPlain (m : Moment) : Prop :=
  m.clock.IsPlain

/-- The moment with a leap second that is not at the end of its minute taken for the second after
it. -/
def plain (m : Moment) : Moment :=
  ⟨m.date, m.clock.plain⟩

theorem plain_of_isPlain {m : Moment} (h : m.IsPlain) : m.plain = m := by
  rw [plain, Clock.plain_of_isPlain h]

end Moment

/-! ## Times of day -/

theorem readFraction_padded (hwidth : 0 < width) (hlimit : width ≤ 9) (hn : n < Number.tenPow width)
    (h : EndsDigits rest) :
    readFraction ('.' :: ((padded width n).toList ++ rest))
      = some (n * Number.tenPow (9 - width), rest) := by
  have hlength := Text.length_padded hwidth hn
  rw [readFraction, takeWhile_take_padded h (by omega), Text.natOfDigits?_padded]
  dsimp only [Option.bind_eq_bind, Option.bind_some]
  rw [List.drop_left, Text.dropWhile_of_endsDigits h, hlength]
  rfl

/-- The fraction of a second is read at whichever length it was written. -/
theorem readFraction_fractionText {nano : Nat} (hnano : nano < 1000000000) (h : EndsDigits rest)
    (hpoint : ∀ c ∈ rest.head?, c ≠ '.') :
    readFraction ((Moment.fractionText nano).toList ++ rest) = some (nano, rest) := by
  have hdot : ".".toList = ['.'] := rfl
  unfold Moment.fractionText
  split
  · rename_i hzero
    rw [hzero]
    cases rest with
    | nil => rfl
    | cons c rest => simp [readFraction, hpoint c rfl]
  split
  · rename_i hexact
    have hfits : nano / 1000000 < 1000 := by omega
    have hscale : nano / 1000000 * Number.tenPow (9 - 3) = nano :=
      Nat.div_mul_cancel (Nat.dvd_of_mod_eq_zero hexact)
    rw [String.toList_append, hdot, List.append_assoc, List.cons_append, List.nil_append,
      readFraction_padded (by decide) (by decide) hfits h, hscale]
  split
  · rename_i hexact
    have hfits : nano / 1000 < 1000000 := by omega
    have hscale : nano / 1000 * Number.tenPow (9 - 6) = nano :=
      Nat.div_mul_cancel (Nat.dvd_of_mod_eq_zero hexact)
    rw [String.toList_append, hdot, List.append_assoc, List.cons_append, List.nil_append,
      readFraction_padded (by decide) (by decide) hfits h, hscale]
  · have hscale : nano * Number.tenPow (9 - 9) = nano := Nat.mul_one nano
    rw [String.toList_append, hdot, List.append_assoc, List.cons_append, List.nil_append,
      readFraction_padded (by decide) (by decide) hnano h, hscale]

theorem readClock_clockText (c : Clock) (h : EndsDigits rest)
    (hpoint : ∀ c ∈ rest.head?, c ≠ '.') :
    readClock true true ((Moment.clockText c).toList ++ rest) = some (c.plain, rest) := by
  rcases c.valid with ⟨hhour, hminute, hsecond, hnano⟩
  have hcolon : ":".toList = [':'] := rfl
  rw [Moment.clockText]
  simp only [String.toList_append, List.append_assoc, hcolon, List.cons_append, List.nil_append]
  rw [readClock, readPart_padded (by omega) (by decide)]
  dsimp only [Option.bind_eq_bind, Option.bind_some]
  rw [expectMark_cons (by decide), Option.bind_some, readPart_padded (by omega) (by decide),
    Option.bind_some]
  dsimp only
  rw [expectMark_cons (by decide), Option.bind_some, readPart_padded (by omega) (by decide),
    Option.bind_some]
  dsimp only
  rw [if_pos rfl, readFraction_fractionText (Nat.mod_lt _ (by decide)) h hpoint, Option.bind_some]
  dsimp only
  rw [c.ofWritten?_written]
  rfl

/-! ## Moments -/

/-- A moment without a zone comes back as its plain one. -/
theorem readLocal?_isoText (m : Moment) : readLocal? m.isoText.toList = some m.plain := by
  have hletter : "T".toList = ['T'] := rfl
  have hclock := readClock_clockText m.clock Text.endsDigits_nil (fun _ hc => nomatch hc)
  rw [List.append_nil] at hclock
  rw [Moment.isoText, String.toList_append, String.toList_append, hletter, List.append_assoc,
    readLocal?, readDate_dateText]
  dsimp only [Option.bind_eq_bind, Option.bind_some, List.cons_append, List.nil_append]
  rw [expectMark_cons (by decide), Option.bind_some, hclock]
  rfl

/-- Moving a moment by no minutes leaves it where it is. -/
theorem subMinutes?_zero (m : Moment) : m.subMinutes? 0 = some m := by
  rcases m.clock.valid with ⟨hhour, hminute, -, -⟩
  have hday : ((m.clock.hour * 60 + m.clock.minute : Nat) : Int) / 1440 = 0 := by omega
  have htime : (((m.clock.hour * 60 + m.clock.minute : Nat) : Int) % 1440).toNat
      = m.clock.hour * 60 + m.clock.minute := by omega
  have hclock : Clock.ofParts? ((m.clock.hour * 60 + m.clock.minute) / 60)
      ((m.clock.hour * 60 + m.clock.minute) % 60) m.clock.second m.clock.nano = some m.clock := by
    rw [show (m.clock.hour * 60 + m.clock.minute) / 60 = m.clock.hour by omega,
      show (m.clock.hour * 60 + m.clock.minute) % 60 = m.clock.minute by omega,
      m.clock.ofParts?_self]
  rw [Moment.subMinutes?]
  dsimp only
  rw [Int.sub_zero, hday, Date.addDays?_zero, htime]
  dsimp only [Option.bind_eq_bind, Option.bind_some]
  rw [hclock]
  rfl

/-- A moment in UTC comes back as its plain one. -/
theorem readZoned?_utcText (m : Moment) : readZoned? m.utcText.toList = some m.plain := by
  have hletter : "T".toList = ['T'] := rfl
  have hzone : "Z".toList = ['Z'] := rfl
  have hclock := readClock_clockText m.clock (Text.endsDigits_cons (c := 'Z') (by decide) [])
    (by simp)
  rw [Moment.utcText, Moment.isoText, String.toList_append, String.toList_append,
    String.toList_append, hletter, hzone, List.append_assoc, List.append_assoc, readZoned?,
    readDate_dateText]
  simp only [Option.bind_eq_bind, Option.bind_some, List.cons_append, List.nil_append, hclock]
  exact subMinutes?_zero m.plain

end TerminalGateway.Calendar
