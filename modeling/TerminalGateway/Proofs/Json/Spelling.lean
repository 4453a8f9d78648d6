import Mathlib.Data.List.TakeDrop
import TerminalGateway.Json.Tree
import TerminalGateway.Proofs.Text.Digits

/-!
# Strings and whole numbers come back from their spelling

A string is written with escapes for its quotes, backslashes and controls, and a whole number with
its digits.  Reading takes either from the head of a text up to what stands behind it, and
understands it as what was written.

Main definitions:

- `piecesOf`: the pieces that a written string is read as.
- `Numeral.ofInt`: the numeral that a written whole number is read as.
- `IsBehind`: what may stand behind a value.

Main results:

- Theorem `readPieces_quote`: a string is read up to its closing quote.
- Theorem `pieceText?_piecesOf`: its pieces are understood as the string.
- Theorem `readNumeral_repr`: a whole number is read up to what stands behind it.
- Theorem `Numeral.number?_ofInt`: a numeral of at most 64 bits is understood as the number.
-/

namespace TerminalGateway.Json

variable {c letter : Char} {rest tail : List Char} {pieces : List Piece}

/-! ## Strings -/

/-- The piece that a written character is read as: a control without a letter of its own is given
by its number. -/
def Piece.ofChar (c : Char) : Piece :=
  if c.toNat < 0x20 ∧ c.toNat ∉ [0x8, 0x9, 0xA, 0xC, 0xD] then .unit c.toNat else .plain c

/-- The pieces that a written string is read as. -/
def piecesOf (s : String) : List Piece :=
  s.toList.map Piece.ofChar

theorem readPieces_letter (hletter : letter ≠ 'u') (hc : escaped? letter = some c)
    (h : readPieces rest = some (pieces, tail)) :
    readPieces ('\\' :: letter :: rest) = some (.plain c :: pieces, tail) := by
  simp [readPieces, hletter, hc, h]

/-- A control with a letter of its own is read from that letter. -/
theorem readPieces_control {n : Nat} (hc : c.toNat = n) (hn : n ∈ [0x8, 0x9, 0xA, 0xC, 0xD])
    (hletter : letter ≠ 'u') (hescaped : escaped? letter = some (Char.ofNat n))
    (h : readPieces rest = some (pieces, tail)) :
    readPieces ('\\' :: letter :: rest) = some (Piece.ofChar c :: pieces, tail) := by
  rw [← hc, Char.ofNat_toNat] at hescaped
  rw [Piece.ofChar, if_neg fun hcontrol => hcontrol.2 (hc ▸ hn)]
  exact readPieces_letter hletter hescaped h

theorem hexUnit?_hexDigit : ∀ n < 0x20,
    hexUnit? '0' '0' (Value.hexDigit (n / 16)) (Value.hexDigit (n % 16)) = some n := by
  decide

theorem readPieces_plain (hquote : c ≠ '"') (hslash : c ≠ '\\') (hc : 0x20 ≤ c.toNat)
    (h : readPieces rest = some (pieces, tail)) :
    readPieces (c :: rest) = some (.plain c :: pieces, tail) := by
  -- `hquote` rules out the branch for the end of the string
  simp [readPieces, hslash, h, Nat.not_lt.mpr hc]

/-- A written character is read as its piece.  The cases are those of the escapes. -/
theorem readPieces_escape (c : Char) (h : readPieces rest = some (pieces, tail)) :
    readPieces (Value.escape c ++ rest) = some (Piece.ofChar c :: pieces, tail) := by
  unfold Value.escape
  split
  · rename_i hc
    subst hc
    exact readPieces_letter (by decide) rfl h
  split
  · rename_i hc
    subst hc
    exact readPieces_letter (by decide) rfl h
  split
  · rename_i hc
    exact readPieces_control hc (by decide) (by decide) rfl h
  split
  · rename_i hc
    exact readPieces_control hc (by decide) (by decide) rfl h
  split
  · rename_i hc
    exact readPieces_control hc (by decide) (by decide) rfl h
  split
  · rename_i hc
    exact readPieces_control hc (by decide) (by decide) rfl h
  split
  · rename_i hc
    exact readPieces_control hc (by decide) (by decide) rfl h
  split
  · rename_i hc
    rw [Piece.ofChar, if_pos ⟨hc, by simp; omega⟩]
    simp [readPieces, hexUnit?_hexDigit _ hc, h]
  · rename_i hquote hslash _ _ _ _ _ hc
    rw [Piece.ofChar, if_neg (by omega)]
    exact readPieces_plain hquote hslash (by omega) h

/-- A string is read up to its closing quote. -/
theorem readPieces_quote (s : String) (rest : List Char) :
    readPieces (s.toList.flatMap Value.escape ++ '"' :: rest) = some (piecesOf s, rest) := by
  unfold piecesOf
  induction s.toList with
  | nil => rfl
  | cons c cs ih =>
      rw [List.flatMap_cons, List.append_assoc]
      exact readPieces_escape c ih

/-- A code unit that is no surrogate stands for a character by itself. -/
theorem characters?_unit {code : Nat} (hcode : code < 0xD800) (pieces : List Piece) :
    characters? (.unit code :: pieces) = (characters? pieces).map (Char.ofNat code :: ·) := by
  have hhigh : isHighSurrogate code = false := by simp [isHighSurrogate]; omega
  have hlow : isLowSurrogate code = false := by simp [isLowSurrogate]; omega
  cases pieces with
  | nil => simp [characters?, hhigh, hlow]
  | cons piece pieces => cases piece <;> simp [characters?, hhigh, hlow]

theorem characters?_piecesOf (s : String) : characters? (piecesOf s) = some s.toList := by
  unfold piecesOf
  induction s.toList with
  | nil => rfl
  | cons c cs ih =>
      rw [List.map_cons, Piece.ofChar]
      split
      · rename_i hc
        rw [characters?_unit (by omega), ih, Char.ofNat_toNat]
        rfl
      · rw [characters?, ih]
        rfl

/-- The pieces of a written string are understood as the string. -/
theorem pieceText?_piecesOf (s : String) : pieceText? (piecesOf s) = some s := by
  rw [pieceText?, characters?_piecesOf, Option.map_some, String.ofList_toList]

/-! ## Whole numbers -/

/-- What may stand behind a value: nothing, the next item or member, or the end of an array or an
object. -/
def IsBehind (rest : List Char) : Prop :=
  ∀ c ∈ rest.head?, c = ',' ∨ c = ']' ∨ c = '\x7d'

theorem isBehind_nil : IsBehind [] :=
  fun _ hc => nomatch hc

theorem isBehind_comma (rest : List Char) : IsBehind (',' :: rest) :=
  fun _ hc => .inl (Option.some.inj hc).symm

theorem isBehind_bracket (rest : List Char) : IsBehind (']' :: rest) :=
  fun _ hc => .inr (.inl (Option.some.inj hc).symm)

theorem isBehind_brace (rest : List Char) : IsBehind ('\x7d' :: rest) :=
  fun _ hc => .inr (.inr (Option.some.inj hc).symm)

theorem IsBehind.endsDigits (h : IsBehind rest) : Text.EndsDigits rest := by
  intro c hc
  rcases h c hc with rfl | rfl | rfl <;> decide

theorem digitRun_append {digits : List Char} (hdigits : ∀ c ∈ digits, c.isDigit = true)
    (hrest : IsBehind rest) : digitRun (digits ++ rest) = (digits, rest) := by
  rw [digitRun, List.span_eq_takeWhile_dropWhile, Text.takeWhile_append hdigits hrest.endsDigits,
    Text.dropWhile_append hdigits hrest.endsDigits]

theorem readFraction_of_behind (hrest : IsBehind rest) :
    readFraction rest = some (none, rest) := by
  cases rest with
  | nil => rfl
  | cons c rest => rcases hrest c rfl with rfl | rfl | rfl <;> rfl

theorem readExponent_of_behind (hrest : IsBehind rest) :
    readExponent rest = some (none, rest) := by
  cases rest with
  | nil => rfl
  | cons c rest => rcases hrest c rfl with rfl | rfl | rfl <;> rfl

theorem head?_toDigits {n : Nat} (hn : n ≠ 0) : (Nat.toDigits 10 n).head? ≠ some '0' := by
  induction n using Nat.strongRecOn with
  | _ n ih =>
      rw [Nat.toDigits_eq_if (by decide)]
      split
      · rw [List.head?_cons, ne_eq, Option.some.injEq, Nat.digitChar_eq_zero]
        exact hn
      · rw [List.head?_append, Option.or_of_isSome (by simp [Nat.toDigits_ne_nil])]
        exact ih (n / 10) (by omega) (by omega)

/-- No number is written with a zero before its other digits. -/
theorem toDigits_ne_zero_cons (n : Nat) (c : Char) (cs : List Char) :
    Nat.toDigits 10 n ≠ '0' :: c :: cs := by
  intro heq
  rcases Nat.eq_zero_or_pos n with rfl | hpos
  · exact absurd (List.cons.inj heq).2 (by simp)
  · exact head?_toDigits (Nat.ne_of_gt hpos) (by rw [heq]; rfl)

/-- Digits, with a minus sign or without one, are read as a numeral up to what stands behind. -/
theorem readNumeral_digits (negative : Bool) {digits : List Char}
    (hdigits : ∀ c ∈ digits, c.isDigit = true) (hne : digits ≠ [])
    (hzero : ∀ c cs, digits ≠ '0' :: c :: cs) (hrest : IsBehind rest) :
    readNumeral ((if negative then '-' :: digits else digits) ++ rest)
      = some (⟨negative, digits, none, none⟩, rest) := by
  have hrun := digitRun_append hdigits hrest
  rcases List.exists_cons_of_ne_nil hne with ⟨d, ds, rfl⟩
  have hd : d ≠ '-' := (Text.ne_sign_of_isDigit (hdigits d List.mem_cons_self)).2
  rw [List.cons_append] at hrun
  -- `hzero` rules out the branch for a zero before other digits
  cases negative <;>
    simp [readNumeral, hd, hrun, readFraction_of_behind hrest, readExponent_of_behind hrest]

theorem toList_intRepr (value : Int) : value.repr.toList
    = if decide (value < 0) then '-' :: Nat.toDigits 10 value.natAbs
      else Nat.toDigits 10 value.natAbs := by
  cases value with
  | ofNat n => exact Nat.toList_repr
  | negSucc n =>
      rw [if_pos (decide_eq_true (Int.negSucc_lt_zero n)), Int.repr, String.toList_append,
        Nat.toList_repr]
      rfl

/-- The first character of a whole number is a digit or a minus sign. -/
theorem intRepr_eq_cons (value : Int) :
    ∃ c cs, value.repr.toList = c :: cs ∧ (c.isDigit = true ∨ c = '-') := by
  rw [toList_intRepr]
  split
  · exact ⟨_, _, rfl, .inr rfl⟩
  · rcases Text.toDigits_eq_cons value.natAbs with ⟨c, cs, hcons, hdigit⟩
    exact ⟨c, cs, hcons, .inl hdigit⟩

namespace Numeral

/-- The numeral that a written whole number is read as. -/
def ofInt (value : Int) : Numeral :=
  ⟨value < 0, Nat.toDigits 10 value.natAbs, none, none⟩

/-- The digits of a number that fits are gathered in full, since every number on the way is no
greater than the last. -/
theorem gatherWhole_of_digits {cs : List Char} (hdigits : ∀ c ∈ cs, c.isDigit = true)
    (coefficient : Nat) (hfits : Nat.ofDigitChars 10 cs coefficient ≤ maxCoefficient) :
    gatherWhole coefficient cs = (Nat.ofDigitChars 10 cs coefficient, 0) := by
  induction cs generalizing coefficient with
  | nil => rfl
  | cons c cs ih =>
      rw [Nat.ofDigitChars_cons, Nat.mul_comm 10] at hfits ⊢
      have hnext := Nat.le_trans (Text.le_ofDigitChars cs _) hfits
      rw [gatherWhole, Text.digit?_of_isDigit (hdigits c List.mem_cons_self)]
      dsimp only [Option.getD_some]
      rw [if_neg (Nat.not_lt.mpr hnext)]
      exact ih (fun d hd => hdigits d (List.mem_cons_of_mem _ hd)) _ hfits

theorem gatherWhole_toDigits {n : Nat} (h : n < Number.limit64) :
    gatherWhole 0 (Nat.toDigits 10 n) = (n, 0) := by
  have hread : Nat.ofDigitChars 10 (Nat.toDigits 10 n) 0 = n := Nat.ofDigitChars_ten_toDigits
  rw [gatherWhole_of_digits (fun _ hc => Text.isDigit_of_mem_toDigits hc) 0, hread]
  rw [hread]
  exact Nat.le_sub_one_of_lt h

/-- A whole number of 64 bits, with a sign or without one, is understood as itself. -/
theorem number?_ofInt {value : Int} (hlow : -(Number.signedLimit64 : Int) ≤ value)
    (hhigh : value < Number.limit64) : (ofInt value).number? = some (.whole value) := by
  have hfits : value.natAbs < Number.limit64 := by
    unfold Number.signedLimit64 at hlow
    unfold Number.limit64 at *
    omega
  unfold ofInt number?
  rw [gatherWhole_toDigits hfits]
  dsimp only
  rw [if_neg (by decide)]
  rcases Int.lt_or_le value 0 with hnegative | hnatural
  · rw [if_neg (by simp [hnegative]), if_neg (by omega)]
    congr
    omega
  · rw [if_pos (by simp [hnatural])]
    congr
    omega

end Numeral

/-- A whole number is read from its digits. -/
theorem readNumeral_repr (value : Int) (hrest : IsBehind rest) :
    readNumeral (value.repr.toList ++ rest) = some (Numeral.ofInt value, rest) := by
  rw [toList_intRepr]
  exact readNumeral_digits _ (fun _ hc => Text.isDigit_of_mem_toDigits hc) Nat.toDigits_ne_nil
    (toDigits_ne_zero_cons _) hrest

end TerminalGateway.Json
