import TerminalGateway.Text.Utf8
import TerminalGateway.Text.Windows1251

/-!
# Text encodings of frames

A terminal writes its frames in UTF-8 or in the Windows Cyrillic code page.

Main definitions:

- `Encoding`: the two encodings, with their names.
- `Encoding.decode`: reading a frame; only UTF-8 can fail.
- `Encoding.encode?`: writing a frame; only the code page can fail.
-/

namespace TerminalGateway.Text

/-- How a frame's text is written as bytes. -/
inductive Encoding where
  | utf8
  | windows1251
deriving Repr, DecidableEq

namespace Encoding

/-- The registered name of an encoding. -/
def name : Encoding → String
  | utf8 => "utf-8"
  | windows1251 => "windows-1251"

/-- The text of a frame. -/
def decode : Encoding → List UInt8 → Except Utf8.Fault (List Char)
  | utf8, bytes => Utf8.decode bytes
  | windows1251, bytes => .ok (Windows1251.decode bytes)

/-- The bytes of a text, if the encoding has one form for each of its characters. -/
def encode? : Encoding → List Char → Option (List UInt8)
  | utf8, cs => some (Utf8.encode cs)
  | windows1251, cs => Windows1251.encode? cs

end Encoding

end TerminalGateway.Text
