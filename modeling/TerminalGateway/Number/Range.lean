/-!
# Ranges of numbers

The formats and the terminal prescribe numbers of a fixed width.

Main definitions:

- `limit16`, `limit32`, `limit64`, `limit96`: the bounds of numbers without a sign.
- `signedLimit64`: the bound of the magnitude of numbers with a sign.
-/

namespace TerminalGateway.Number

/-- One more than the greatest number of 16 bits without a sign. -/
def limit16 : Nat :=
  65536

/-- One more than the greatest number of 32 bits without a sign. -/
def limit32 : Nat :=
  4294967296

/-- One more than the greatest number of 64 bits without a sign. -/
def limit64 : Nat :=
  18446744073709551616

/-- One more than the greatest number of 96 bits without a sign. -/
def limit96 : Nat :=
  79228162514264337593543950336

/-- One more than the greatest number of 64 bits with a sign; the least one has this magnitude. -/
def signedLimit64 : Nat :=
  9223372036854775808

end TerminalGateway.Number
