import TerminalGateway.Text.Extender
import TerminalGateway.Text.Unseen

/-!
# Quoted diagnostics

Diagnostics show a text between double quotes, so that its ends, its quotes and its invisible
characters can be told apart.  A mark that would be drawn on the character before it is written
by its number too, so that it cannot join the opening quote.

Main definitions:

- `isShown`: the characters that appear as themselves.
- `quoted`: a text between quotes, everything else escaped.
-/

namespace TerminalGateway.Text

/-- A character that a diagnostic shows as itself. -/
def isShown (c : Char) : Bool :=
  if c.toNat < 0x7F then 0x20 ≤ c.toNat else !isUnseen c && !isExtender c

/-- The hexadecimal digits of a number, lower case and without leading zeros. -/
def hexDigits (n : Nat) : String :=
  String.ofList (Nat.toDigits 16 n)

/-- A character inside quotes. -/
def quotedChar (c : Char) : String :=
  if c = '"' then "\\\""
  else if c = '\\' then "\\\\"
  else if c = '\n' then "\\n"
  else if c = '\r' then "\\r"
  else if c = '\t' then "\\t"
  else if c.toNat = 0 then "\\0"
  else if isShown c then c.toString
  else "\\u\x7b" ++ hexDigits c.toNat ++ "\x7d"

/-- A text between double quotes. -/
def quoted (s : String) : String :=
  "\"" ++ String.join (s.toList.map quotedChar) ++ "\""

example : quotedChar 'q' = "q" := by decide +kernel
example : quotedChar (Char.ofNat 0x94D) = "\\u\x7b94d\x7d" := by decide +kernel

end TerminalGateway.Text
