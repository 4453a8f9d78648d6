import TerminalGateway.Text.Encoding

/-!
# Texts come back from their bytes

A text that an encoding can write is read back as it was.  For UTF-8 it is enough to read a
character at the head of its own bytes, whatever follows them; in the code page each byte stands
for a character that no other byte stands for.

Main definitions:

- `Utf8.bytes`: the bytes of the character with a given number.
- `Utf8.continuation`: a byte that carries six bits of a number.

Main results:

- Theorem `Utf8.head_bytes`: the bytes of a character are read as that character.
- Theorem `Utf8.decode_encode`: a text is read back from its bytes in UTF-8.
- Theorem `Windows1251.byte?_character`: each byte is the one of its character.
- Theorem `Encoding.decode_of_encode?`: the same for both encodings.
-/

namespace TerminalGateway.Text

/-! ## UTF-8 -/

namespace Utf8

/-- The byte that carries the low six bits of a number. -/
def continuation (n : Nat) : UInt8 :=
  UInt8.ofNat (n % 0x40 + 0x80)

theorem toNat_continuation (n : Nat) : (continuation n).toNat = n % 0x40 + 0x80 := by
  rw [continuation, UInt8.toNat_ofNat']
  omega

theorem isTail_iff {b : UInt8} : isTail b = true ↔ 0x80 ≤ b.toNat ∧ b.toNat ≤ 0xBF := by
  simp [isTail, UInt8.le_iff_toNat_le]

@[simp]
theorem isTail_continuation (n : Nat) : isTail (continuation n) = true := by
  rw [isTail_iff, toNat_continuation]
  omega

@[simp]
theorem tailBits_continuation (n : Nat) : tailBits (continuation n) = n % 0x40 := by
  rw [tailBits, toNat_continuation]
  omega

/-- A byte may come second when it is a continuation byte and respects the four first bytes that
leave it less room. -/
theorem isSecond_of_bounds {first second : UInt8} (htail : isTail second = true)
    (hshort : first.toNat = 0xE0 → 0xA0 ≤ second.toNat)
    (hsurrogate : first.toNat = 0xED → second.toNat ≤ 0x9F)
    (hlong : first.toNat = 0xF0 → 0x90 ≤ second.toNat)
    (hlast : first.toNat = 0xF4 → second.toNat ≤ 0x8F) : isSecond first second = true := by
  have hbounds := isTail_iff.mp htail
  unfold isSecond
  split
  · rename_i heq
    have hlow := hshort (congrArg UInt8.toNat heq)
    simp [UInt8.le_iff_toNat_le, hlow, hbounds.2]
  split
  · rename_i heq
    have hhigh := hsurrogate (congrArg UInt8.toNat heq)
    simp [UInt8.le_iff_toNat_le, hhigh, hbounds.1]
  split
  · rename_i heq
    have hlow := hlong (congrArg UInt8.toNat heq)
    simp [UInt8.le_iff_toNat_le, hlow, hbounds.2]
  split
  · rename_i heq
    have hhigh := hlast (congrArg UInt8.toNat heq)
    simp [UInt8.le_iff_toNat_le, hhigh, hbounds.1]
  · exact htail

/-- The width of a character by the value of its first byte. -/
theorem width?_eq (b : UInt8) :
    width? b =
      if b.toNat ≤ 0x7F then some 1
      else if 0xC2 ≤ b.toNat ∧ b.toNat ≤ 0xDF then some 2
      else if 0xE0 ≤ b.toNat ∧ b.toNat ≤ 0xEF then some 3
      else if 0xF0 ≤ b.toNat ∧ b.toNat ≤ 0xF4 then some 4
      else none := by
  simp [width?, UInt8.le_iff_toNat_le]

/-- A character is no surrogate and lies within the code space. -/
theorem toNat_cases (c : Char) :
    c.toNat < 0xD800 ∨ (0xDFFF < c.toNat ∧ c.toNat < 0x110000) :=
  c.valid

/-- The value of a byte that is made of a mark and bits below it. -/
theorem toNat_marked (bits mark : Nat) (h : bits + mark < 0x100) :
    (UInt8.ofNat (bits + mark)).toNat = bits + mark := by
  rw [UInt8.toNat_ofNat']
  omega

section Head

variable {first : UInt8} (l m n : Nat) (rest : List UInt8)

theorem head_of_width_one (hwidth : width? first = some 1) :
    head first rest = .character (Char.ofNat first.toNat) 1 := by
  simp [head, hwidth]

theorem head_of_width_two (hwidth : width? first = some 2) :
    head first (continuation n :: rest) =
      .character (Char.ofNat (first.toNat % 32 * 64 + n % 64)) 2 := by
  simp [head, hwidth]

theorem head_of_width_three (hwidth : width? first = some 3)
    (hsecond : isSecond first (continuation m) = true) :
    head first (continuation m :: continuation n :: rest) =
      .character (Char.ofNat (first.toNat % 16 * 4096 + m % 64 * 64 + n % 64)) 3 := by
  simp [head, hwidth, hsecond]

theorem head_of_width_four (hwidth : width? first = some 4)
    (hsecond : isSecond first (continuation l) = true) :
    head first (continuation l :: continuation m :: continuation n :: rest) =
      .character
        (Char.ofNat (first.toNat % 8 * 262144 + l % 64 * 4096 + m % 64 * 64 + n % 64)) 4 := by
  simp [head, hwidth, hsecond]

end Head

/-- The bytes of the character with a given number. -/
def bytes (n : Nat) : List UInt8 :=
  if n ≤ 0x7F then [UInt8.ofNat n]
  else if n ≤ 0x7FF then [UInt8.ofNat (n / 64 % 0x20 + 0xC0), continuation n]
  else if n ≤ 0xFFFF then
    [UInt8.ofNat (n / 4096 % 0x10 + 0xE0), continuation (n / 64), continuation n]
  else
    [UInt8.ofNat (n / 262144 % 0x08 + 0xF0), continuation (n / 4096), continuation (n / 64),
      continuation n]

theorem utf8EncodeChar_eq (c : Char) : String.utf8EncodeChar c = bytes c.toNat :=
  rfl

/-- The bytes of a character are read as that character, whatever follows them.  That it is
within the code space and no surrogate is what the second byte is tested for. -/
theorem head_bytes {n : Nat} (hvalid : n < 0xD800 ∨ (0xDFFF < n ∧ n < 0x110000))
    (rest : List UInt8) :
    ∃ first tail, bytes n = first :: tail ∧
      head first (tail ++ rest) = .character (Char.ofNat n) (tail.length + 1) := by
  unfold bytes
  split
  · refine ⟨_, _, rfl, ?_⟩
    have hfirst : (UInt8.ofNat n).toNat = n := toNat_marked n 0 (by omega)
    have hwidth : width? (UInt8.ofNat n) = some 1 := by
      rw [width?_eq, hfirst, if_pos ‹_›]
    rw [List.nil_append, head_of_width_one rest hwidth, hfirst]
    rfl
  split
  · refine ⟨_, _, rfl, ?_⟩
    have hfirst := toNat_marked (n / 64 % 0x20) 0xC0 (by omega)
    have hwidth : width? (UInt8.ofNat (n / 64 % 0x20 + 0xC0)) = some 2 := by
      rw [width?_eq, hfirst, if_neg (by omega), if_pos (by omega)]
    have hbits : (n / 64 % 0x20 + 0xC0) % 32 * 64 + n % 64 = n := by omega
    refine (head_of_width_two n rest hwidth).trans ?_
    rw [hfirst, hbits]
    rfl
  split
  · refine ⟨_, _, rfl, ?_⟩
    have hfirst := toNat_marked (n / 4096 % 0x10) 0xE0 (by omega)
    have hwidth : width? (UInt8.ofNat (n / 4096 % 0x10 + 0xE0)) = some 3 := by
      rw [width?_eq, hfirst, if_neg (by omega), if_neg (by omega), if_pos (by omega)]
    have hsecond : isSecond (UInt8.ofNat (n / 4096 % 0x10 + 0xE0)) (continuation (n / 64)) := by
      refine isSecond_of_bounds (isTail_continuation _) ?_ ?_ ?_ ?_ <;>
        rw [hfirst, toNat_continuation] <;> omega
    have hbits : (n / 4096 % 0x10 + 0xE0) % 16 * 4096 + n / 64 % 64 * 64 + n % 64 = n := by omega
    refine (head_of_width_three (n / 64) n rest hwidth hsecond).trans ?_
    rw [hfirst, hbits]
    rfl
  · refine ⟨_, _, rfl, ?_⟩
    have hfirst := toNat_marked (n / 262144 % 0x08) 0xF0 (by omega)
    have hwidth : width? (UInt8.ofNat (n / 262144 % 0x08 + 0xF0)) = some 4 := by
      rw [width?_eq, hfirst, if_neg (by omega), if_neg (by omega), if_neg (by omega),
        if_pos (by omega)]
    have hsecond :
        isSecond (UInt8.ofNat (n / 262144 % 0x08 + 0xF0)) (continuation (n / 4096)) := by
      refine isSecond_of_bounds (isTail_continuation _) ?_ ?_ ?_ ?_ <;>
        rw [hfirst, toNat_continuation] <;> omega
    have hbits : (n / 262144 % 0x08 + 0xF0) % 8 * 262144 + n / 4096 % 64 * 4096 +
        n / 64 % 64 * 64 + n % 64 = n := by omega
    refine (head_of_width_four (n / 4096) (n / 64) n rest hwidth hsecond).trans ?_
    rw [hfirst, hbits]
    rfl

/-- A text that begins with the bytes of a character begins with that character. -/
theorem decodeFrom_utf8EncodeChar (index : Nat) (c : Char) (rest : List UInt8) :
    ∃ next, decodeFrom index (String.utf8EncodeChar c ++ rest) =
      (decodeFrom next rest).map (c :: ·) := by
  rcases head_bytes (toNat_cases c) rest with ⟨first, tail, hbytes, hhead⟩
  refine ⟨index + (tail.length + 1), ?_⟩
  rw [utf8EncodeChar_eq, hbytes, List.cons_append, decodeFrom, hhead, Char.ofNat_toNat]
  simp only [Nat.add_sub_cancel, List.drop_left]
  cases decodeFrom (index + (tail.length + 1)) rest <;> rfl

/-- A text is read back from its bytes. -/
theorem decode_encode (cs : List Char) : decode (encode cs) = .ok cs := by
  suffices h : ∀ index, decodeFrom index (encode cs) = .ok cs from h 0
  induction cs with
  | nil =>
      intro index
      rw [encode, List.flatMap_nil, decodeFrom]
  | cons c cs ih =>
      intro index
      rcases decodeFrom_utf8EncodeChar index c (encode cs) with ⟨next, hnext⟩
      rw [ih] at hnext
      exact hnext

end Utf8

/-! ## The code page -/

namespace Windows1251

/-- Each byte is the one that its character is written as. -/
theorem byte?_character (b : UInt8) : byte? (character b) = some b := by
  have hall : ∀ n : Fin 256, byte? (character ⟨⟨n⟩⟩) = some ⟨⟨n⟩⟩ := by decide +kernel
  exact hall b.toFin

/-- The byte of a character stands for that character. -/
theorem character_of_byte? {c : Char} {b : UInt8} (h : byte? c = some b) : character b = c := by
  unfold byte? at h
  split at h
  · rename_i hlow
    obtain rfl := Option.some.inj h
    have hnat : (UInt8.ofNat c.toNat).toNat = c.toNat :=
      Utf8.toNat_marked c.toNat 0 (by omega)
    have hlt : UInt8.ofNat c.toNat < 0x80 := by
      rw [UInt8.lt_iff_toNat_lt, hnat]
      exact hlow
    rw [character, if_pos hlt, hnat, Char.ofNat_toNat]
  · obtain ⟨i, hi, rfl⟩ := Option.map_eq_some_iff.mp h
    obtain ⟨hlength, hentry, -⟩ := List.idxOf?_eq_some_iff.mp hi
    have hlt : i < 128 := hlength
    have hnat : (UInt8.ofNat (0x80 + i)).toNat = 0x80 + i := by
      rw [UInt8.toNat_ofNat']
      omega
    have hge : ¬ UInt8.ofNat (0x80 + i) < 0x80 := by
      rw [UInt8.lt_iff_toNat_lt, hnat]
      exact Nat.not_lt.mpr (Nat.le_add_right _ _)
    have hget : upper.getD i 0 = c.toNat := by
      rw [List.getD_eq_getElem?_getD, List.getElem?_eq_getElem hlength, hentry, Option.getD_some]
    rw [character, if_neg hge, hnat, Nat.add_sub_cancel_left, hget, Char.ofNat_toNat]

/-- Whatever the bytes are, their text is written as those bytes. -/
theorem encode?_decode (bytes : List UInt8) : encode? (decode bytes) = some bytes := by
  unfold encode? decode
  induction bytes with
  | nil => rfl
  | cons b bytes ih =>
      rw [List.map_cons, List.mapM_cons, byte?_character, ih]
      rfl

/-- A text is read back from its bytes. -/
theorem decode_of_encode? {cs : List Char} {bytes : List UInt8} (h : encode? cs = some bytes) :
    decode bytes = cs := by
  unfold encode? at h
  induction cs generalizing bytes with
  | nil =>
      obtain rfl := Option.some.inj h
      rfl
  | cons c cs ih =>
      rw [List.mapM_cons] at h
      obtain ⟨b, hb, htail⟩ := Option.bind_eq_some_iff.mp h
      obtain ⟨rest, hrest, hpure⟩ := Option.bind_eq_some_iff.mp htail
      obtain rfl := Option.some.inj hpure
      rw [decode, List.map_cons, character_of_byte? hb]
      exact congrArg (c :: ·) (ih hrest)

end Windows1251

/-! ## Both encodings -/

namespace Encoding

/-- A text is read back from its bytes. -/
theorem decode_of_encode? {encoding : Encoding} {cs : List Char} {bytes : List UInt8}
    (h : encoding.encode? cs = some bytes) : encoding.decode bytes = .ok cs := by
  cases encoding with
  | utf8 =>
      obtain rfl := Option.some.inj h
      exact Utf8.decode_encode cs
  | windows1251 => exact congrArg Except.ok (Windows1251.decode_of_encode? h)

/-- Only the empty text has no bytes. -/
theorem ne_nil_of_encode? {encoding : Encoding} {cs : List Char} {bytes : List UInt8}
    (h : encoding.encode? cs = some bytes) (hne : cs ≠ []) : bytes ≠ [] := by
  rintro rfl
  have hback := decode_of_encode? h
  cases encoding with
  | utf8 =>
      rw [decode, Utf8.decode, Utf8.decodeFrom] at hback
      exact hne (Except.ok.inj hback).symm
  | windows1251 => exact hne (Except.ok.inj hback).symm

end Encoding

end TerminalGateway.Text
