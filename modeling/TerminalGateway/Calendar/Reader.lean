import TerminalGateway.Calendar.Moment
import TerminalGateway.Number.Power
import TerminalGateway.Text.Blank

/-!
# Reading moments

Three written forms are read: the time of a candle, a terminal's time with the letter `T`, and a
time with a zone.  They share their numbers: blanks may precede each, a year may have a sign and
then any number of digits, and the other parts have one or two.

Main definitions:

- `readCandleTime?`: `year-month-day hour:minute:second`.
- `readLocal?`: `year-month-dayThour:minute:second[.fraction]`.
- `readZoned?`: the same with a zone, as a moment in UTC.
-/

namespace TerminalGateway.Calendar

/-- One to `width` digits; a number past 64 bits is refused. -/
def readDigits (width : Nat) (cs : List Char) : Option (Nat × List Char) :=
  let digits := (cs.take width).takeWhile Text.isDigit
  match Text.natOfDigits? digits with
  | some n => if n < Number.signedLimit64 then some (n, cs.drop digits.length) else none
  | none => none

/-- A number of one or two digits up to a greatest one, after any blanks. -/
def readPart (greatest : Nat) (cs : List Char) : Option (Nat × List Char) :=
  match readDigits 2 (Text.trimStart cs) with
  | some (n, rest) => if n ≤ greatest then some (n, rest) else none
  | none => none

/-- A year, after any blanks: up to four digits, or a sign and any number of them. -/
def readYear (cs : List Char) : Option (Int × List Char) :=
  match Text.trimStart cs with
  | '-' :: rest => (readDigits rest.length rest).map fun (n, rest) => (-(n : Int), rest)
  | '+' :: rest => (readDigits rest.length rest).map fun (n, rest) => ((n : Int), rest)
  | cs => (readDigits 4 cs).map fun (n, rest) => ((n : Int), rest)

/-- The text after a character that must come next. -/
def expect (c : Char) : List Char → Option (List Char)
  | d :: rest => if c = d then some rest else none
  | [] => none

/-- The text after a character that must come next but for blanks, where these are allowed. -/
def expectMark (blanks : Bool) (c : Char) (cs : List Char) : Option (List Char) :=
  expect c (if blanks then Text.trimStart cs else cs)

/-- A date; the dashes may follow blanks where these are allowed. -/
def readDate (blanks : Bool) (cs : List Char) : Option (Date × List Char) := do
  let (year, cs) ← readYear cs
  let cs ← expectMark blanks '-' cs
  let (month, cs) ← readPart 12 cs
  let cs ← expectMark blanks '-' cs
  let (day, cs) ← readPart 31 cs
  let date ← Date.ofYmd? year month day
  return (date, cs)

/-- Nanoseconds after a point: nine digits count, and further ones are passed over. -/
def readFraction (cs : List Char) : Option (Nat × List Char) :=
  match cs with
  | '.' :: rest => do
      let digits := (rest.take 9).takeWhile Text.isDigit
      let n ← Text.natOfDigits? digits
      let rest := (rest.drop digits.length).dropWhile Text.isDigit
      return (n * Number.tenPow (9 - digits.length), rest)
  | _ => some (0, cs)

/-- A time of day; the colons may follow blanks where these are allowed. -/
def readClock (blanks fraction : Bool) (cs : List Char) : Option (Clock × List Char) := do
  let (hour, cs) ← readPart 23 cs
  let cs ← expectMark blanks ':' cs
  let (minute, cs) ← readPart 59 cs
  let cs ← expectMark blanks ':' cs
  let (second, cs) ← readPart 60 cs
  let (nano, cs) ← if fraction then readFraction cs else some (0, cs)
  let clock ← Clock.ofWritten? hour minute second nano
  return (clock, cs)

/-- The time of a candle: date and time with any number of blanks between them. -/
def readCandleTime? (cs : List Char) : Option Moment := do
  let (date, cs) ← readDate false cs
  let (clock, cs) ← readClock false false cs
  if cs.isEmpty then return ⟨date, clock⟩ else none

/-- A terminal's time: date and time with the letter `T` between them. -/
def readLocal? (cs : List Char) : Option Moment := do
  let (date, cs) ← readDate true cs
  let cs ← expectMark true 'T' cs
  let (clock, cs) ← readClock true true cs
  if (Text.trimStart cs).isEmpty then return ⟨date, clock⟩ else none

/-! ## Zones -/

/-- Two digits at the head of a text. -/
def readPair : List Char → Option ((Nat × Nat) × List Char)
  | a :: b :: rest => do
      let a ← Text.digit? a
      let b ← Text.digit? b
      return ((a, b), rest)
  | _ => none

/-- The minutes by which a zone is ahead of UTC: the letter `Z`, or a sign, two digits of hours
and two of minutes, with colons and blanks between them. -/
def readOffset (cs : List Char) : Option (Int × List Char) :=
  let signed (negative : Bool) (cs : List Char) : Option (Int × List Char) := do
    let ((h, hours), cs) ← readPair cs
    let cs := cs.dropWhile fun c => c = ':' || Text.isBlank c
    let ((m, minutes), cs) ← readPair cs
    if 6 ≤ m then none
    else
      let total : Int := ((h * 10 + hours) * 60 + (m * 10 + minutes) : Nat)
      return (if negative then -total else total, cs)
  match cs with
  | 'U' :: 'T' :: 'C' :: rest => some (0, rest)
  | 'Z' :: rest => some (0, rest)
  | 'z' :: rest => some (0, rest)
  | '+' :: rest => signed false rest
  | '-' :: rest => signed true rest
  | '\u2212' :: rest => signed true rest
  | _ => none

/-- The letters of UTC in either case, written alike. -/
def upperZone : List Char → List Char
  | u :: t :: c :: rest =>
      if (u = 'U' || u = 'u') && (t = 'T' || t = 't') && (c = 'C' || c = 'c') then
        'U' :: 'T' :: 'C' :: rest
      else u :: t :: c :: rest
  | cs => cs

/-- A time with a zone, which is less than a day away from UTC. -/
def readZoned? (cs : List Char) : Option Moment := do
  let (date, cs) ← readDate true cs
  let cs ← match cs with
    | 'T' :: rest => some rest
    | 't' :: rest => some rest
    | ' ' :: rest => some rest
    | _ => none
  let (clock, cs) ← readClock true true cs
  let (offset, cs) ← readOffset (upperZone (Text.trimStart cs))
  if !(Text.trimStart cs).isEmpty || 1440 ≤ offset.natAbs then none
  else (Moment.mk date clock).subMinutes? offset

end TerminalGateway.Calendar
