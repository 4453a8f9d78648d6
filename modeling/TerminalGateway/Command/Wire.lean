import TerminalGateway.Decimal.Basic
import TerminalGateway.Json.Value

/-!
# Numbers and texts of commands

The web server takes prices as JSON numbers.  Their digits are those of the decimal without
trailing places, and what goes on the wire is the number that these digits are read as: whole
numbers past 64 bits, and fractions, become binary numbers.
-/

namespace TerminalGateway.Command

open TerminalGateway.Json (Numeral Number Value)

/-- The digits of a decimal as a JSON numeral. -/
def numeral (d : Decimal) : Numeral where
  negative := d.negative
  whole := (Nat.repr (d.mantissa / Number.tenPow d.scale)).toList
  fraction :=
    if d.scale = 0 then none
    else some (Text.padded d.scale (d.mantissa % Number.tenPow d.scale)).toList
  exponent := none

/-- The JSON number of a decimal; nothing if the digits are out of range. -/
def number? (d : Decimal) : Option Number :=
  (numeral d.normalize).number?

/-- The text of an object with the given members, in the order of their names. -/
def objectText (members : List (String × Value)) : String :=
  (Value.ofMembers members).text

end TerminalGateway.Command
