/-!
# Blank characters

Terminals pad their texts with whatever the keyboard offers, so trimming works on the
whole Unicode property White_Space and not on ASCII alone.

Main definitions:

- `isBlank`: the 25 code points of the property, given as ranges.
- `trimStart`, `trim`: a text without its leading, or its outer, blanks.
-/

namespace TerminalGateway.Text

/-- The ranges of code points with the property White_Space, ends included. -/
def blankRanges : List (Nat × Nat) :=
  [(0x9, 0xD), (0x20, 0x20), (0x85, 0x85), (0xA0, 0xA0), (0x1680, 0x1680), (0x2000, 0x200A),
    (0x2028, 0x2029), (0x202F, 0x202F), (0x205F, 0x205F), (0x3000, 0x3000)]

/-- A character with the property White_Space. -/
def isBlank (c : Char) : Bool :=
  blankRanges.any fun range => range.1 ≤ c.toNat && c.toNat ≤ range.2

/-- The text from its first character that is not blank. -/
def trimStart (cs : List Char) : List Char :=
  cs.dropWhile isBlank

/-- The text between its first and its last character that is not blank. -/
def trim (cs : List Char) : List Char :=
  (trimStart (trimStart cs).reverse).reverse

/-- The property has 25 code points. -/
example : (blankRanges.map fun range => range.2 + 1 - range.1).sum = 25 := rfl

@[simp]
theorem trim_nil : trim [] = [] :=
  rfl

end TerminalGateway.Text
