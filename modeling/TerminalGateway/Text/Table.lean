/-!
# Tables of characters

A property of characters is written down as the ranges of code points that have it.

Main definitions:

- `Table`: ranges of code points, each with its first and its last member.
- `Table.holds`: the characters within one of the ranges.
- `Table.isOrdered`: no range overlaps, touches or precedes another one before it.
-/

namespace TerminalGateway.Text

/-- Ranges of code points, each with its first and its last member. -/
abbrev Table :=
  List (Nat × Nat)

namespace Table

/-- A character within one of the ranges. -/
def holds (table : Table) (c : Char) : Bool :=
  table.any fun range => range.1 ≤ c.toNat && c.toNat ≤ range.2

/-- The ranges ascend, and no two of them could be written as one. -/
def isOrdered : Table → Bool
  | [] => true
  | [range] => range.1 ≤ range.2
  | range :: next :: rest =>
      range.1 ≤ range.2 && range.2 + 1 < next.1 && isOrdered (next :: rest)

end Table

end TerminalGateway.Text
