import TerminalGateway.Decimal.Reader
import TerminalGateway.Proofs.Text.Digits

/-!
# Decimals come back from their digits

A decimal is read from its digits with all its places.  While the digits are read, the number so
far is never greater than the mantissa, so nothing is rounded.  Only the sign of a zero is not
taken over, which is no part of its value.

Main definitions:

- `plain`: the decimal with a zero that has no sign.

Main results:

- Theorem `plain_eq_self`, `key_plain`: it is the same but for a zero with a sign, and has the same
  value.
- Theorem `read?_text`: the digits of a decimal are read as it.
-/

namespace TerminalGateway.Decimal

variable {cs : List Char} {value scale : Nat}

/-- The decimal with a zero that has no sign. -/
def plain (d : Decimal) : Decimal :=
  { d with negative := d.negative && d.mantissa ≠ 0 }

/-- Only a zero with a minus sign is changed. -/
theorem plain_eq_self {d : Decimal} (h : d.negative = true → d.isZero = false) : d.plain = d := by
  rw [plain]
  congr
  cases hsign : d.negative with
  | false => rfl
  | true => simpa [isZero] using h hsign

theorem signed_plain (d : Decimal) : d.plain.signed = d.signed := by
  by_cases hzero : d.mantissa = 0 <;> simp [signed, plain, hzero]

/-- The value stays the same. -/
theorem key_plain (d : Decimal) : d.plain.key = d.key := by
  rw [key, signedAt, signed_plain]
  rfl

theorem unsignedZero?_self (d : Decimal) :
    unsignedZero? d.negative d.mantissa d.scale = some d.plain := by
  rw [unsignedZero?, ofParts?, dif_pos ⟨d.mantissa_lt, d.scale_le⟩]
  rfl

/-! ## Digits -/

/-- The digits before the point of a number that fits. -/
theorem readDigits?_whole {negative : Bool} {rest : List Char} (begun : Bool)
    (hdigits : ∀ c ∈ cs, c.isDigit = true) (hne : cs ≠ [])
    (hfits : Nat.ofDigitChars 10 cs value ≤ maxMantissa) :
    readDigits? negative false begun value 0 (cs ++ rest)
      = readDigits? negative false true (Nat.ofDigitChars 10 cs value) 0 rest := by
  induction cs generalizing value begun with
  | nil => exact absurd rfl hne
  | cons c cs ih =>
      rw [Nat.ofDigitChars_cons, Nat.mul_comm 10] at hfits ⊢
      have hnext := Nat.le_trans (Text.le_ofDigitChars cs _) hfits
      rw [List.cons_append, readDigits?, Text.digit?_of_isDigit (hdigits c List.mem_cons_self)]
      dsimp only
      rw [if_neg (by decide), if_neg (Nat.not_lt.mpr hnext)]
      cases cs with
      | nil => rfl
      | cons d ds =>
          exact ih true (fun e he => hdigits e (List.mem_cons_of_mem _ he)) (by simp) hfits

/-- The digits behind the point of a number that fits. -/
theorem readDigits?_places {negative : Bool} (hdigits : ∀ c ∈ cs, c.isDigit = true)
    (hfits : Nat.ofDigitChars 10 cs value ≤ maxMantissa) (hscale : scale + cs.length ≤ maxScale) :
    readDigits? negative true true value scale cs
      = unsignedZero? negative (Nat.ofDigitChars 10 cs value) (scale + cs.length) := by
  induction cs generalizing value scale with
  | nil => rfl
  | cons c cs ih =>
      rw [Nat.ofDigitChars_cons, Nat.mul_comm 10] at hfits ⊢
      rw [List.length_cons] at hscale ⊢
      have hnext := Nat.le_trans (Text.le_ofDigitChars cs _) hfits
      rw [readDigits?, Text.digit?_of_isDigit (hdigits c List.mem_cons_self)]
      dsimp only
      rw [if_pos rfl, if_neg (by omega)]
      rw [ih (fun e he => hdigits e (List.mem_cons_of_mem _ he)) hfits (by omega)]
      congr 1
      omega

theorem readDigits?_point {negative : Bool} :
    readDigits? negative false true value scale ('.' :: cs)
      = readDigits? negative true true value scale cs := by
  rw [readDigits?]
  rfl

/-! ## Texts -/

/-- The digits of a decimal, without its sign. -/
def digits (d : Decimal) : List Char :=
  Nat.toDigits 10 (d.mantissa / Number.tenPow d.scale) ++
    if d.scale = 0 then []
    else '.' :: (Text.padded d.scale (d.mantissa % Number.tenPow d.scale)).toList

theorem toList_text (d : Decimal) :
    d.text.toList = if d.negative then '-' :: d.digits else d.digits := by
  unfold text digits
  cases d.negative <;> by_cases hscale : d.scale = 0 <;>
    simp [hscale, Nat.toList_repr]

/-- The digits before and behind the point together are those of the mantissa. -/
theorem readDigits?_digits (d : Decimal) :
    readDigits? d.negative false false 0 0 d.digits = some d.plain := by
  have hmantissa : d.mantissa ≤ maxMantissa := Nat.le_sub_one_of_lt d.mantissa_lt
  have hwhole : d.mantissa / Number.tenPow d.scale ≤ maxMantissa :=
    Nat.le_trans (Nat.div_le_self _ _) hmantissa
  rw [digits, readDigits?_whole false (fun _ hc => Text.isDigit_of_mem_toDigits hc)
    Nat.toDigits_ne_nil (by rwa [Nat.ofDigitChars_ten_toDigits]), Nat.ofDigitChars_ten_toDigits]
  by_cases hscale : d.scale = 0
  · have hself := unsignedZero?_self d
    rw [hscale] at hself ⊢
    rw [if_pos rfl, show Number.tenPow 0 = 1 from rfl, Nat.div_one]
    exact hself
  · have hlength : (Text.padded d.scale (d.mantissa % Number.tenPow d.scale)).toList.length
        = d.scale :=
      Text.length_padded (Nat.pos_of_ne_zero hscale)
        (Nat.mod_lt d.mantissa (Number.tenPow_pos d.scale))
    have hread : Nat.ofDigitChars 10
          (Text.padded d.scale (d.mantissa % Number.tenPow d.scale)).toList
          (d.mantissa / Number.tenPow d.scale) = d.mantissa := by
      rw [Nat.ofDigitChars_eq_ofDigitChars_zero, Text.ofDigitChars_padded, hlength]
      exact Nat.div_add_mod d.mantissa (Number.tenPow d.scale)
    rw [if_neg hscale, readDigits?_point, readDigits?_places
      (fun _ hc => Text.isDigit_of_mem_padded hc) (by rwa [hread])
      (by rw [hlength, Nat.zero_add]; exact d.scale_le), hread, hlength, Nat.zero_add]
    exact unsignedZero?_self d

/-- The digits of a decimal are read as it. -/
theorem read?_text (d : Decimal) : read? d.text.toList = some d.plain := by
  have hread := readDigits?_digits d
  have hplain : readPlain? d.text.toList = some d.plain := by
    rw [toList_text]
    cases hsign : d.negative with
    | true => rwa [hsign] at hread
    | false =>
        rw [hsign] at hread
        rcases Text.toDigits_eq_cons (d.mantissa / Number.tenPow d.scale) with
          ⟨c, rest, hcons, hdigit⟩
        have hc := Text.ne_sign_of_isDigit hdigit
        rw [digits, hcons, List.cons_append] at hread ⊢
        simpa [readPlain?, hc.1, hc.2] using hread
  rw [read?, hplain]

end TerminalGateway.Decimal
