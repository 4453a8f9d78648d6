import TerminalGateway.Proofs.Json.Spelling
import TerminalGateway.Proofs.Number.Shortest

/-!
# Written numbers denote their digits

Digits are written around a point or with an exponent.  Either way the text is a numeral, which is
read up to what stands behind it, and denotes the value of the digits.

Main definitions:

- `Numeral.value`: the value that a numeral denotes.
- `Numeral.IsPlain`: what a numeral has to be like to be read back from its spelling.
- `Numeral.spelling`: how a numeral is spelled.

Main results:

- Theorem `readNumeral_spelling`: a numeral is read back from its spelling.
- Theorem `Layout.exists_numeral`: the text of digits spells a numeral that denotes them.
- Theorem `Number.denotes_real`, `Number.denotes_whole`: what a written number denotes.
-/

namespace TerminalGateway.Json

open TerminalGateway.Number (Binary64 Digits Layout)

variable {rest : List Char}

namespace Numeral

/-- The number that digits stand for. -/
def digitsValue (digits : List Char) : Nat :=
  Nat.ofDigitChars 10 digits 0

/-- The written exponent. -/
def exponentValue (n : Numeral) : Int :=
  match n.exponent with
  | none => 0
  | some (true, digits) => -digitsValue digits
  | some (false, digits) => digitsValue digits

/-- The magnitude of the value that a numeral denotes. -/
def magnitude (n : Numeral) : Rat :=
  digitsValue (n.whole ++ n.fraction.getD []) *
    10 ^ (n.exponentValue - (n.fraction.getD []).length)

/-- The value that a numeral denotes. -/
def value (n : Numeral) : Rat :=
  if n.negative then -n.magnitude else n.magnitude

theorem value_of_plus {n : Numeral} (h : n.negative = false) : n.value = n.magnitude := by
  rw [value, h, if_neg Bool.false_ne_true]

/-- The characters of a fraction. -/
def fractionSpelling : Option (List Char) → List Char
  | none => []
  | some digits => '.' :: digits

/-- The characters of an exponent, always with a sign. -/
def exponentSpelling : Option (Bool × List Char) → List Char
  | none => []
  | some (minus, digits) => 'e' :: (if minus then '-' else '+') :: digits

/-- How a numeral is spelled. -/
def spelling (n : Numeral) : List Char :=
  (if n.negative then ['-'] else []) ++ n.whole ++ fractionSpelling n.fraction ++
    exponentSpelling n.exponent

/-- Digits, at least one of them. -/
def AreDigits (digits : List Char) : Prop :=
  digits ≠ [] ∧ ∀ c ∈ digits, c.isDigit = true

/-- All parts of a numeral are digits, and no zero stands before other digits. -/
structure IsPlain (n : Numeral) : Prop where
  whole : AreDigits n.whole
  leading : ∀ c cs, n.whole ≠ '0' :: c :: cs
  fraction : ∀ digits ∈ n.fraction, AreDigits digits
  exponent : ∀ written ∈ n.exponent, AreDigits written.2

end Numeral

open Numeral

/-! ## Reading -/

theorem digitRun_of_endsDigits {digits : List Char} (hdigits : ∀ c ∈ digits, c.isDigit = true)
    (hrest : Text.EndsDigits rest) : digitRun (digits ++ rest) = (digits, rest) := by
  rw [digitRun, List.span_eq_takeWhile_dropWhile, Text.takeWhile_append hdigits hrest,
    Text.dropWhile_append hdigits hrest]

theorem readExponent_spelling {exponent : Option (Bool × List Char)}
    (h : ∀ written ∈ exponent, AreDigits written.2) (hrest : IsBehind rest) :
    readExponent (exponentSpelling exponent ++ rest) = some (exponent, rest) := by
  cases exponent with
  | none => exact readExponent_of_behind hrest
  | some written =>
      rcases written with ⟨minus, digits⟩
      rcases h (minus, digits) rfl with ⟨hne, hdigits⟩
      have hrun := digitRun_of_endsDigits hdigits hrest.endsDigits
      rcases List.exists_cons_of_ne_nil hne with ⟨d, ds, rfl⟩
      rw [List.cons_append] at hrun
      cases minus <;> simp [exponentSpelling, readExponent, hrun]

theorem endsDigits_exponentSpelling (exponent : Option (Bool × List Char))
    (hrest : IsBehind rest) : Text.EndsDigits (exponentSpelling exponent ++ rest) := by
  cases exponent with
  | none => exact hrest.endsDigits
  | some written => exact Text.endsDigits_cons (by decide) _

theorem readFraction_spelling {fraction : Option (List Char)}
    (h : ∀ digits ∈ fraction, AreDigits digits) (exponent : Option (Bool × List Char))
    (hrest : IsBehind rest) :
    readFraction (fractionSpelling fraction ++ (exponentSpelling exponent ++ rest)) =
      some (fraction, exponentSpelling exponent ++ rest) := by
  cases fraction with
  | none =>
      cases exponent with
      | none => exact readFraction_of_behind hrest
      | some written => rfl
  | some digits =>
      rcases h digits rfl with ⟨hne, hdigits⟩
      have hrun := digitRun_of_endsDigits hdigits (endsDigits_exponentSpelling exponent hrest)
      rcases List.exists_cons_of_ne_nil hne with ⟨d, ds, rfl⟩
      rw [List.cons_append] at hrun
      simp [fractionSpelling, readFraction, hrun]

theorem endsDigits_fractionSpelling (fraction : Option (List Char))
    (exponent : Option (Bool × List Char)) (hrest : IsBehind rest) :
    Text.EndsDigits (fractionSpelling fraction ++ (exponentSpelling exponent ++ rest)) := by
  cases fraction with
  | none => exact endsDigits_exponentSpelling exponent hrest
  | some digits => exact Text.endsDigits_cons (by decide) _

/-- A numeral is read back from its spelling, up to what stands behind it. -/
theorem readNumeral_spelling {n : Numeral} (h : n.IsPlain) (hrest : IsBehind rest) :
    readNumeral (n.spelling ++ rest) = some (n, rest) := by
  rcases n with ⟨negative, whole, fraction, exponent⟩
  rcases h with ⟨⟨hne, hdigits⟩, hleading, hfraction, hexponent⟩
  have hrun := digitRun_of_endsDigits hdigits (endsDigits_fractionSpelling fraction exponent hrest)
  have hread := readFraction_spelling hfraction exponent hrest
  have hreadExponent := readExponent_spelling hexponent hrest
  rcases List.exists_cons_of_ne_nil hne with ⟨d, ds, rfl⟩
  have hd : d ≠ '-' := (Text.ne_sign_of_isDigit (hdigits d List.mem_cons_self)).2
  rw [List.cons_append] at hrun
  dsimp only at hleading
  -- `hleading` rules out the branch for a zero before other digits
  cases negative <;>
    simp [spelling, readNumeral, hd, hrun, hread, hreadExponent]

/-! ## Digits -/

theorem areDigits_toDigits (n : Nat) : AreDigits (Nat.toDigits 10 n) :=
  ⟨Nat.toDigits_ne_nil, fun _ hc => Text.isDigit_of_mem_toDigits hc⟩

theorem digitsValue_toDigits (n : Nat) : digitsValue (Nat.toDigits 10 n) = n :=
  Nat.ofDigitChars_ten_toDigits

theorem digitsValue_append (first second : List Char) :
    digitsValue (first ++ second) =
      digitsValue first * 10 ^ second.length + digitsValue second := by
  rw [digitsValue, Nat.ofDigitChars_append, Nat.ofDigitChars_eq_ofDigitChars_zero, Nat.mul_comm]
  rfl

theorem digitsValue_replicate_append (n : Nat) (digits : List Char) :
    digitsValue (List.replicate n '0' ++ digits) = digitsValue digits := by
  rw [digitsValue, Nat.ofDigitChars_append, Nat.ofDigitChars_replicate_zero, Nat.mul_zero]
  rfl

theorem digitsValue_append_replicate (digits : List Char) (n : Nat) :
    digitsValue (digits ++ List.replicate n '0') = digitsValue digits * 10 ^ n := by
  have hzeros := digitsValue_replicate_append n []
  rw [List.append_nil] at hzeros
  rw [digitsValue_append, hzeros, List.length_replicate]
  rfl

theorem isDigit_of_mem_replicate {n : Nat} {c : Char} (h : c ∈ List.replicate n '0') :
    c.isDigit = true := by
  rw [(List.mem_replicate.mp h).2]
  decide

end TerminalGateway.Json

namespace TerminalGateway.Number.Layout

open TerminalGateway.Json
open TerminalGateway.Json.Numeral

variable {d : Digits}

/-! ## Digits around a point -/

/-- Digits with zeros behind them, up to the point. -/
def wholeNumeral (d : Digits) : Numeral :=
  ⟨false, Nat.toDigits 10 d.coefficient ++ List.replicate d.power.toNat '0', some ['0'], none⟩

theorem toList_positional_whole (h : 0 ≤ d.power) :
    (json.positional d).toList = (wholeNumeral d).spelling := by
  unfold positional
  rw [if_pos h, Nat.toList_repr]
  simp [wholeNumeral, spelling, fractionSpelling, exponentSpelling, json]

theorem isPlain_wholeNumeral (hpos : d.coefficient ≠ 0) : (wholeNumeral d).IsPlain := by
  constructor
  case whole =>
    refine ⟨by simp [wholeNumeral], ?_⟩
    intro c hc
    rcases List.mem_append.mp hc with hdigit | hzero
    · exact Text.isDigit_of_mem_toDigits hdigit
    · exact isDigit_of_mem_replicate hzero
  case leading =>
    intro c cs heq
    rcases Text.toDigits_eq_cons d.coefficient with ⟨first, others, hcons, -⟩
    have hhead := head?_toDigits hpos
    rw [wholeNumeral, hcons, List.cons_append] at heq
    rw [hcons] at hhead
    exact hhead (congrArg some (List.cons.inj heq).1)
  case fraction =>
    intro digits hdigits
    obtain rfl := Option.some.inj hdigits
    exact ⟨by simp, fun c hc => isDigit_of_mem_replicate (n := 1) hc⟩
  case exponent => exact fun written h => nomatch h

theorem value_wholeNumeral (h : 0 ≤ d.power) : (wholeNumeral d).value = d.value := by
  have hdigits : digitsValue (Nat.toDigits 10 d.coefficient ++
      List.replicate d.power.toNat '0' ++ ['0']) = d.coefficient * 10 ^ d.power.toNat * 10 := by
    rw [show ['0'] = List.replicate 1 '0' from rfl, digitsValue_append_replicate,
      digitsValue_append_replicate, digitsValue_toDigits, Nat.pow_one]
  have hpower : (10 : Rat) ^ d.power = 10 ^ d.power.toNat := by
    rw [← zpow_natCast, Int.toNat_of_nonneg h]
  rw [value_of_plus rfl]
  unfold magnitude exponentValue wholeNumeral
  dsimp only [Option.getD_some]
  rw [hdigits, Digits.value, hpower]
  push_cast
  norm_num
  ring

/-- Zeros are put before digits that do not reach up to the point. -/
def paddedDigits (d : Digits) : List Char :=
  List.replicate ((-d.power).toNat + 1 - (Nat.toDigits 10 d.coefficient).length) '0' ++
    Nat.toDigits 10 d.coefficient

/-- Digits with the point among them. -/
def pointNumeral (d : Digits) : Numeral :=
  ⟨false, (paddedDigits d).take ((paddedDigits d).length - (-d.power).toNat),
    some ((paddedDigits d).drop ((paddedDigits d).length - (-d.power).toNat)), none⟩

theorem toList_positional_point (h : d.power < 0) :
    (json.positional d).toList = (pointNumeral d).spelling := by
  unfold positional
  rw [if_neg (Int.not_le.mpr h), Nat.toList_repr]
  simp [pointNumeral, spelling, fractionSpelling, exponentSpelling, paddedDigits]

theorem lt_length_paddedDigits (d : Digits) : (-d.power).toNat < (paddedDigits d).length := by
  unfold paddedDigits
  rw [List.length_append, List.length_replicate]
  omega

theorem isDigit_of_mem_paddedDigits {c : Char} (h : c ∈ paddedDigits d) : c.isDigit = true := by
  rcases List.mem_append.mp h with hzero | hdigit
  · exact isDigit_of_mem_replicate hzero
  · exact Text.isDigit_of_mem_toDigits hdigit

theorem isPlain_pointNumeral (h : d.power < 0) :
    (pointNumeral d).IsPlain := by
  have hlength := lt_length_paddedDigits d
  constructor
  case whole =>
    refine ⟨?_, fun c hc => isDigit_of_mem_paddedDigits (List.mem_of_mem_take hc)⟩
    apply List.ne_nil_of_length_pos
    unfold pointNumeral
    rw [List.length_take]
    omega
  case leading =>
    intro c cs heq
    dsimp only [pointNumeral] at heq
    by_cases hshort : (Nat.toDigits 10 d.coefficient).length ≤ (-d.power).toNat + 1
    · -- one digit stands before the point
      have htake := congrArg List.length heq
      unfold paddedDigits at htake
      simp only [List.length_take, List.length_append, List.length_replicate,
        List.length_cons] at htake
      omega
    · -- no zeros were put before the digits
      have hdigits : paddedDigits d = Nat.toDigits 10 d.coefficient := by
        rw [paddedDigits, Nat.sub_eq_zero_of_le (Nat.le_of_not_le hshort)]
        rfl
      have hsplit := List.take_append_drop ((paddedDigits d).length - (-d.power).toNat)
        (paddedDigits d)
      rw [heq, hdigits] at hsplit
      exact toDigits_ne_zero_cons d.coefficient c _ hsplit.symm
  case fraction =>
    intro digits hdigits
    obtain rfl := Option.some.inj hdigits
    refine ⟨?_, fun c hc => isDigit_of_mem_paddedDigits (List.mem_of_mem_drop hc)⟩
    apply List.ne_nil_of_length_pos
    rw [List.length_drop]
    omega
  case exponent => exact fun written h => nomatch h

theorem value_pointNumeral (h : d.power < 0) : (pointNumeral d).value = d.value := by
  have hlength := lt_length_paddedDigits d
  have hdigits : digitsValue (paddedDigits d) = d.coefficient := by
    rw [paddedDigits, digitsValue_replicate_append, digitsValue_toDigits]
  rw [value_of_plus rfl]
  unfold magnitude exponentValue pointNumeral
  dsimp only [Option.getD_some]
  rw [List.take_append_drop, hdigits, Digits.value, List.length_drop]
  congr 2
  omega

/-! ## Digits with an exponent -/

/-- Digits with the point behind the first of them, and an exponent. -/
def exponentNumeral (d : Digits) : Numeral :=
  ⟨false, (Nat.toDigits 10 d.coefficient).take 1,
    if (Nat.toDigits 10 d.coefficient).length ≤ 1 then none
    else some ((Nat.toDigits 10 d.coefficient).drop 1),
    some (d.leading < 0, Nat.toDigits 10 d.leading.natAbs)⟩

theorem toList_scientific (d : Digits) :
    (scientific d).toList = (exponentNumeral d).spelling := by
  unfold scientific exponentNumeral spelling exponentSpelling
  rw [Nat.toList_repr]
  rcases Text.toDigits_eq_cons d.coefficient with ⟨first, others, hcons, -⟩
  rw [hcons]
  have hsign : (if d.leading < 0 then "-" else "+").toList =
      [if d.leading < 0 then '-' else '+'] := by
    split <;> rfl
  cases others with
  | nil => simp [fractionSpelling, hsign, Nat.toList_repr]
  | cons second others => simp [fractionSpelling, hsign, Nat.toList_repr]

theorem isPlain_exponentNumeral (d : Digits) : (exponentNumeral d).IsPlain := by
  rcases areDigits_toDigits d.coefficient with ⟨hne, hdigits⟩
  constructor
  case whole =>
    refine ⟨?_, fun c hc => hdigits c (List.mem_of_mem_take hc)⟩
    dsimp only [exponentNumeral]
    simp [hne]
  case leading =>
    intro c cs heq
    have hlength := congrArg List.length heq
    simp only [exponentNumeral, List.length_take, List.length_cons] at hlength
    omega
  case fraction =>
    intro digits h
    dsimp only [exponentNumeral] at h
    split at h
    · exact absurd h (by simp)
    · rename_i hlong
      obtain rfl := Option.some.inj h
      refine ⟨?_, fun c hc => hdigits c (List.mem_of_mem_drop hc)⟩
      apply List.ne_nil_of_length_pos
      rw [List.length_drop]
      omega
  case exponent =>
    intro written h
    obtain rfl := Option.some.inj h
    exact areDigits_toDigits _

/-- All digits but the first stand behind the point. -/
theorem fraction_exponentNumeral (d : Digits) :
    (exponentNumeral d).fraction.getD [] = (Nat.toDigits 10 d.coefficient).drop 1 := by
  dsimp only [exponentNumeral]
  split
  · rename_i hshort
    exact (List.drop_of_length_le hshort).symm
  · rfl

theorem exponentValue_exponentNumeral (d : Digits) :
    (exponentNumeral d).exponentValue = d.leading := by
  unfold exponentNumeral exponentValue
  by_cases hnegative : d.leading < 0
  · rw [decide_eq_true hnegative]
    dsimp only
    rw [digitsValue_toDigits]
    omega
  · rw [decide_eq_false hnegative]
    dsimp only
    rw [digitsValue_toDigits]
    omega

theorem value_exponentNumeral (d : Digits) : (exponentNumeral d).value = d.value := by
  have hwhole : (exponentNumeral d).whole = (Nat.toDigits 10 d.coefficient).take 1 := rfl
  have hpower : d.leading - ((Nat.toDigits 10 d.coefficient).drop 1).length = d.power := by
    have hcount := Digits.count_pos d.coefficient
    unfold Digits.leading
    unfold Digits.count at *
    rw [List.length_drop]
    omega
  rw [value_of_plus rfl, magnitude, fraction_exponentNumeral, exponentValue_exponentNumeral,
    hwhole, List.take_append_drop, digitsValue_toDigits, hpower, Digits.value]

/-- The text of digits spells a numeral that denotes them. -/
theorem exists_numeral (hpos : d.coefficient ≠ 0) :
    ∃ n : Numeral, n.IsPlain ∧ n.negative = false ∧ (json.digitsText d).toList = n.spelling ∧
      n.value = d.value := by
  unfold digitsText
  split
  · rcases Int.lt_or_le d.power 0 with hpoint | hwhole
    · exact ⟨pointNumeral d, isPlain_pointNumeral hpoint, rfl, toList_positional_point hpoint,
        value_pointNumeral hpoint⟩
    · exact ⟨wholeNumeral d, isPlain_wholeNumeral hpos, rfl, toList_positional_whole hwhole,
        value_wholeNumeral hwhole⟩
  · exact ⟨exponentNumeral d, isPlain_exponentNumeral d, rfl, toList_scientific d,
      value_exponentNumeral d⟩

end TerminalGateway.Number.Layout

namespace TerminalGateway.Json.Number

open TerminalGateway.Number (Binary64 Digits Layout shortest)

/-! ## Numbers -/

/-- A number is written as a numeral of a value. -/
def Denotes (number : Number) (value : Rat) : Prop :=
  ∃ n : Numeral, n.IsPlain ∧ number.text.toList = n.spelling ∧ n.value = value

theorem value_ofInt (value : Int) : (Numeral.ofInt value).value = value := by
  have hmagnitude : (Numeral.ofInt value).magnitude = value.natAbs := by
    unfold Numeral.magnitude Numeral.ofInt Numeral.exponentValue
    dsimp only [Option.getD_none]
    rw [List.append_nil, digitsValue_toDigits]
    norm_num
  have hsign : (Numeral.ofInt value).negative = decide (value < 0) := rfl
  rw [Numeral.value, hsign, hmagnitude]
  rcases Int.lt_or_le value 0 with hnegative | hnatural
  · rw [if_pos (decide_eq_true hnegative), ← Int.cast_natCast, ← Int.cast_neg]
    congr 1
    omega
  · rw [if_neg (by simp [hnatural]), ← Int.cast_natCast]
    congr 1
    omega

/-- A whole number is written as itself. -/
theorem denotes_whole (value : Int) : (whole value).Denotes value := by
  refine ⟨Numeral.ofInt value, ?_, ?_, value_ofInt value⟩
  · constructor
    case whole => exact areDigits_toDigits _
    case leading => exact toDigits_ne_zero_cons _
    case fraction => exact fun _ h => nomatch h
    case exponent => exact fun _ h => nomatch h
  · rw [text, toList_intRepr]
    unfold Numeral.spelling Numeral.ofInt
    split <;> simp [Numeral.fractionSpelling, Numeral.exponentSpelling]

/-- A binary number is written as the shortest digits that read back as it. -/
theorem denotes_real {significand : Nat} {exponent : Int} (negative : Bool)
    (hsignificand : significand ≠ 0)
    (hpos : (shortest Layout.json.tie significand exponent).coefficient ≠ 0) :
    (real (.finite negative significand exponent)).Denotes
      (if negative then -(shortest Layout.json.tie significand exponent).value
        else (shortest Layout.json.tie significand exponent).value) := by
  rcases Layout.exists_numeral hpos with ⟨n, hplain, hplus, hdigits, hvalue⟩
  refine ⟨{ n with negative := negative }, ?_, ?_, ?_⟩
  · exact ⟨hplain.whole, hplain.leading, hplain.fraction, hplain.exponent⟩
  · unfold Numeral.spelling at hdigits ⊢
    rw [hplus, if_neg Bool.false_ne_true, List.nil_append] at hdigits
    unfold text Layout.text
    dsimp only
    rw [if_neg hsignificand, String.toList_append, hdigits]
    cases negative with
    | true => simp
    | false => simp
  · rw [← hvalue, Numeral.value_of_plus hplus]
    rfl

end TerminalGateway.Json.Number
