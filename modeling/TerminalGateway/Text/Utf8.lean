/-!
# UTF-8

Reading a sequence of bytes as UTF-8.  Only shortest forms of Unicode scalar values are
accepted, and a refusal says where the sequence stops being UTF-8 and how many bytes rule it
out.

Main definitions:

- `Fault`: the two ways in which bytes fail to be UTF-8.
- `scalar?`: one character at the head of a sequence.
- `decode`, `encode`: whole texts.
-/

namespace TerminalGateway.Text.Utf8

/-- Why a sequence of bytes is not UTF-8.  The index is that of the first byte of the
character at fault. -/
inductive Fault where
  /-- The first `length` bytes from `index` begin no character. -/
  | invalid (length index : Nat)
  /-- The bytes end inside a character that could still be completed. -/
  | incomplete (index : Nat)
deriving Repr, DecidableEq

/-- The wording of a fault. -/
def Fault.message : Fault → String
  | .invalid length index => s!"invalid utf-8 sequence of {length} bytes from index {index}"
  | .incomplete index => s!"incomplete utf-8 byte sequence from index {index}"

/-- A continuation byte. -/
def isTail (b : UInt8) : Bool :=
  0x80 ≤ b && b ≤ 0xBF

/-- The number of bytes of a character, told from its first byte. -/
def width? (b : UInt8) : Option Nat :=
  if b ≤ 0x7F then some 1
  else if 0xC2 ≤ b && b ≤ 0xDF then some 2
  else if 0xE0 ≤ b && b ≤ 0xEF then some 3
  else if 0xF0 ≤ b && b ≤ 0xF4 then some 4
  else none

/-- The second byte of a character of three or four bytes.  Its range excludes longer forms
than needed, the surrogates and everything past the last code point. -/
def isSecond (first second : UInt8) : Bool :=
  if first = 0xE0 then 0xA0 ≤ second && second ≤ 0xBF
  else if first = 0xED then 0x80 ≤ second && second ≤ 0x9F
  else if first = 0xF0 then 0x90 ≤ second && second ≤ 0xBF
  else if first = 0xF4 then 0x80 ≤ second && second ≤ 0x8F
  else isTail second

/-- The low six bits of a continuation byte. -/
def tailBits (b : UInt8) : Nat :=
  b.toNat % 64

/-- What the head of a sequence holds: a character and its width, the length of a refused
beginning, or a beginning that the end of the sequence cuts short. -/
inductive Head where
  | character (c : Char) (width : Nat)
  | refused (length : Nat)
  | cut
deriving Repr, DecidableEq

/-- The character at the head of a non-empty sequence. -/
def head (first : UInt8) (rest : List UInt8) : Head :=
  match width? first, rest with
  | none, _ => .refused 1
  | some 1, _ => .character (Char.ofNat first.toNat) 1
  | some 2, second :: _ =>
      if isTail second then
        .character (Char.ofNat (first.toNat % 32 * 64 + tailBits second)) 2
      else .refused 1
  | some 3, second :: third :: _ =>
      if !isSecond first second then .refused 1
      else if !isTail third then .refused 2
      else
        .character
          (Char.ofNat (first.toNat % 16 * 4096 + tailBits second * 64 + tailBits third)) 3
  | some 3, [second] => if isSecond first second then .cut else .refused 1
  | some _, second :: third :: fourth :: _ =>
      if !isSecond first second then .refused 1
      else if !isTail third then .refused 2
      else if !isTail fourth then .refused 3
      else
        .character
          (Char.ofNat (first.toNat % 8 * 262144 + tailBits second * 4096 + tailBits third * 64
            + tailBits fourth)) 4
  | some _, [second, third] =>
      if !isSecond first second then .refused 1
      else if !isTail third then .refused 2
      else .cut
  | some _, [second] => if isSecond first second then .cut else .refused 1
  | some _, [] => .cut

/-- The characters of a sequence that starts at `index` of a larger one. -/
def decodeFrom (index : Nat) : List UInt8 → Except Fault (List Char)
  | [] => .ok []
  | first :: rest =>
      match head first rest with
      | .refused length => .error (.invalid length index)
      | .cut => .error (.incomplete index)
      | .character c width => do
          let cs ← decodeFrom (index + width) (rest.drop (width - 1))
          return c :: cs
termination_by bytes => bytes.length
decreasing_by simp only [List.length_drop, List.length_cons]; omega

/-- The text written by a sequence of bytes. -/
def decode (bytes : List UInt8) : Except Fault (List Char) :=
  decodeFrom 0 bytes

/-- The bytes of a text. -/
def encode (cs : List Char) : List UInt8 :=
  cs.flatMap String.utf8EncodeChar

end TerminalGateway.Text.Utf8
