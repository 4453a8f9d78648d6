import Mathlib.Algebra.Group.Nat.Defs
import TerminalGateway.Number.Power
import TerminalGateway.Text.Blank
import TerminalGateway.Text.Integer

/-!
# Numbers come back from their digits

A number that was written in decimal digits is read as that number, alone or with blanks trimmed
off, as long as it is within the range of the reader.

Main results:

- Theorem `natOfDigits?_toDigits`: the digits of a number stand for it.
- Theorem `readNat?_toDigits`, `readInt?_toDigits`: they are read as it within a range.
- Theorem `trim_toDigits`: there are no blanks among them.
- Theorem `natOfDigits?_padded`, `length_padded`: leading zeros leave the number as it is, and fill
  it up to its width.
-/

namespace TerminalGateway.Text

variable {n limit : Nat}

theorem digit?_of_isDigit {c : Char} (h : c.isDigit = true) :
    digit? c = some (c.toNat - '0'.toNat) := by
  simp only [Char.isDigit, Bool.and_eq_true, decide_eq_true_eq] at h
  exact if_pos ⟨h.1, h.2⟩

/-- Reading digits is what gathering them is. -/
theorem extendNat_of_digits {cs : List Char} (h : ∀ c ∈ cs, c.isDigit = true) (value : Nat) :
    extendNat value cs = some (Nat.ofDigitChars 10 cs value) := by
  induction cs generalizing value with
  | nil => rfl
  | cons c cs ih =>
      rw [extendNat, digit?_of_isDigit (h c List.mem_cons_self), Nat.ofDigitChars_cons,
        Nat.mul_comm value]
      exact ih (fun d hd => h d (List.mem_cons_of_mem _ hd)) _

/-- Further digits make no number smaller. -/
theorem le_ofDigitChars (cs : List Char) (value : Nat) :
    value ≤ Nat.ofDigitChars 10 cs value := by
  rw [Nat.ofDigitChars_eq_ofDigitChars_zero]
  have hshift : value ≤ 10 ^ cs.length * value :=
    Nat.le_mul_of_pos_left value (Nat.pow_pos (by decide))
  omega

theorem digit_le {c : Char} (h : c.isDigit = true) : c.toNat - '0'.toNat ≤ 9 := by
  simp only [Char.isDigit, Bool.and_eq_true, decide_eq_true_eq] at h
  exact Nat.sub_le_of_le_add h.2

/-- Further digits stay below the next number with the same digits before them. -/
theorem ofDigitChars_lt {cs : List Char} (h : ∀ c ∈ cs, c.isDigit = true) (value : Nat) :
    Nat.ofDigitChars 10 cs value < (value + 1) * 10 ^ cs.length := by
  induction cs generalizing value with
  | nil => simp
  | cons c cs ih =>
      have hdigit := digit_le (h c List.mem_cons_self)
      rw [Nat.ofDigitChars_cons, List.length_cons, Nat.pow_succ', ← Nat.mul_assoc]
      calc Nat.ofDigitChars 10 cs (10 * value + (c.toNat - '0'.toNat))
          < (10 * value + (c.toNat - '0'.toNat) + 1) * 10 ^ cs.length :=
            ih (fun d hd => h d (List.mem_cons_of_mem _ hd)) _
        _ ≤ (value + 1) * 10 * 10 ^ cs.length := Nat.mul_le_mul_right _ (by omega)

theorem isDigit_of_mem_toDigits {c : Char} (h : c ∈ Nat.toDigits 10 n) : c.isDigit = true :=
  Nat.isDigit_of_mem_toDigits (by decide) (by decide) h

/-- The first digit of a number. -/
theorem toDigits_eq_cons (n : Nat) :
    ∃ c rest, Nat.toDigits 10 n = c :: rest ∧ c.isDigit = true := by
  rcases List.exists_cons_of_ne_nil (Nat.toDigits_ne_nil (n := n) (b := 10)) with ⟨c, rest, hcons⟩
  exact ⟨c, rest, hcons, isDigit_of_mem_toDigits (hcons ▸ List.mem_cons_self)⟩

theorem natOfDigits?_toDigits (n : Nat) : natOfDigits? (Nat.toDigits 10 n) = some n := by
  have hread := extendNat_of_digits (fun _ hc => isDigit_of_mem_toDigits (n := n) hc) 0
  rw [Nat.ofDigitChars_toDigits (by decide) (by decide)] at hread
  rcases toDigits_eq_cons n with ⟨c, rest, hcons, -⟩
  rw [hcons] at hread ⊢
  exact hread

/-- Digits have no sign before them. -/
theorem ne_sign_of_isDigit {c : Char} (h : c.isDigit = true) : c ≠ '+' ∧ c ≠ '-' := by
  constructor <;> rintro rfl <;> exact absurd h (by decide)

theorem readNat?_toDigits (h : n < limit) : readNat? limit (Nat.toDigits 10 n) = some n := by
  have hread := natOfDigits?_toDigits n
  rcases toDigits_eq_cons n with ⟨c, rest, hcons, hdigit⟩
  rw [hcons] at hread ⊢
  unfold readNat?
  split
  · rename_i heq
    exact absurd (List.cons.inj heq).1 (ne_sign_of_isDigit hdigit).1
  · dsimp only
    rw [hread, Option.filter_some, if_pos (decide_eq_true h)]

theorem readInt?_toDigits (h : n < limit) :
    readInt? limit (Nat.toDigits 10 n) = some (n : Int) := by
  have hread := natOfDigits?_toDigits n
  rcases toDigits_eq_cons n with ⟨c, rest, hcons, hdigit⟩
  rw [hcons] at hread ⊢
  unfold readInt?
  split
  · rename_i heq
    exact absurd (List.cons.inj heq).1 (ne_sign_of_isDigit hdigit).2
  · rename_i heq
    exact absurd (List.cons.inj heq).1 (ne_sign_of_isDigit hdigit).1
  · rw [hread, Option.filter_some, if_pos (decide_eq_true h)]
    rfl

/-! ## The end of a run of digits -/

theorem isDigit_of_charIsDigit {c : Char} (h : c.isDigit = true) : isDigit c = true := by
  rw [isDigit, digit?_of_isDigit h, Option.isSome_some]

/-- No digit stands next. -/
def EndsDigits (rest : List Char) : Prop :=
  ∀ c ∈ rest.head?, isDigit c = false

theorem endsDigits_nil : EndsDigits [] :=
  fun _ hc => nomatch hc

theorem endsDigits_cons {c : Char} (hc : isDigit c = false) (rest : List Char) :
    EndsDigits (c :: rest) := by
  intro d hd
  rw [← Option.some.inj hd]
  exact hc

theorem dropWhile_of_endsDigits {rest : List Char} (h : EndsDigits rest) :
    rest.dropWhile isDigit = rest := by
  cases rest with
  | nil => rfl
  | cons c rest => exact List.dropWhile_cons_of_neg (by simp [h c rfl])

/-- A run of digits ends where no digit stands next. -/
theorem takeWhile_append {digits rest : List Char} (hdigits : ∀ c ∈ digits, c.isDigit = true)
    (h : EndsDigits rest) : (digits ++ rest).takeWhile isDigit = digits := by
  have hrest : rest.takeWhile isDigit = [] := by
    cases rest with
    | nil => rfl
    | cons c rest => exact List.takeWhile_cons_of_neg (by simp [h c rfl])
  rw [List.takeWhile_append_of_pos fun c hc => isDigit_of_charIsDigit (hdigits c hc), hrest,
    List.append_nil]

theorem dropWhile_append {digits rest : List Char} (hdigits : ∀ c ∈ digits, c.isDigit = true)
    (h : EndsDigits rest) : (digits ++ rest).dropWhile isDigit = rest := by
  rw [List.dropWhile_append_of_pos fun c hc => isDigit_of_charIsDigit (hdigits c hc),
    dropWhile_of_endsDigits h]

/-! ## Blanks -/

theorem isBlank_of_isDigit {c : Char} (h : c.isDigit = true) : isBlank c = false := by
  simp only [Char.isDigit, Bool.and_eq_true, decide_eq_true_eq] at h
  have hlow : 48 ≤ c.toNat := h.1
  have hhigh : c.toNat ≤ 57 := h.2
  simp [isBlank, blankRanges]
  omega

theorem trimStart_of_no_blank {cs : List Char} (h : ∀ c ∈ cs, isBlank c = false) :
    trimStart cs = cs := by
  cases cs with
  | nil => rfl
  | cons c cs =>
      have hc := h c List.mem_cons_self
      rw [trimStart, List.dropWhile_cons_of_neg (by simp [hc])]

theorem trim_of_no_blank {cs : List Char} (h : ∀ c ∈ cs, isBlank c = false) : trim cs = cs := by
  have hreverse : ∀ c ∈ cs.reverse, isBlank c = false := fun c hc => h c (List.mem_reverse.mp hc)
  rw [trim, trimStart_of_no_blank h, trimStart_of_no_blank hreverse, List.reverse_reverse]

theorem trim_toDigits (n : Nat) : trim (Nat.toDigits 10 n) = Nat.toDigits 10 n :=
  trim_of_no_blank fun _ hc => isBlank_of_isDigit (isDigit_of_mem_toDigits hc)

/-! ## Numbers of a fixed width -/

variable {width : Nat}

theorem toList_padded (width n : Nat) :
    (padded width n).toList
      = List.replicate (width - (Nat.toDigits 10 n).length) '0' ++ Nat.toDigits 10 n := by
  rw [padded, String.toList_append, String.toList_ofList, Nat.toList_repr, ← Nat.toList_repr,
    String.length_toList]

theorem isDigit_of_mem_padded {c : Char} (h : c ∈ (padded width n).toList) :
    c.isDigit = true := by
  rw [toList_padded, List.mem_append] at h
  rcases h with hzero | hdigit
  · rw [(List.mem_replicate.mp hzero).2]
    decide
  · exact isDigit_of_mem_toDigits hdigit

/-- The first digit of a padded number. -/
theorem padded_eq_cons (width n : Nat) :
    ∃ c rest, (padded width n).toList = c :: rest ∧ c.isDigit = true := by
  have hne : (padded width n).toList ≠ [] := by
    rw [toList_padded]
    exact List.append_ne_nil_of_right_ne_nil _ Nat.toDigits_ne_nil
  rcases List.exists_cons_of_ne_nil hne with ⟨c, rest, hcons⟩
  exact ⟨c, rest, hcons, isDigit_of_mem_padded (hcons ▸ List.mem_cons_self)⟩

theorem ofDigitChars_padded (width n : Nat) :
    Nat.ofDigitChars 10 (padded width n).toList 0 = n := by
  rw [toList_padded, Nat.ofDigitChars_append, Nat.ofDigitChars_replicate_zero, Nat.mul_zero,
    Nat.ofDigitChars_ten_toDigits]

theorem natOfDigits?_padded (width n : Nat) : natOfDigits? (padded width n).toList = some n := by
  have hdigits : ∀ c ∈ (padded width n).toList, c.isDigit = true :=
    fun _ hc => isDigit_of_mem_padded hc
  have hread := extendNat_of_digits hdigits 0
  rw [ofDigitChars_padded] at hread
  rcases padded_eq_cons width n with ⟨c, rest, hcons, -⟩
  rw [hcons] at hread ⊢
  exact hread

theorem length_padded (hwidth : 0 < width) (h : n < Number.tenPow width) :
    (padded width n).toList.length = width := by
  have hlength := (Nat.length_toDigits_le_iff (by decide) hwidth).mpr h
  rw [toList_padded, List.length_append, List.length_replicate]
  omega

end TerminalGateway.Text
