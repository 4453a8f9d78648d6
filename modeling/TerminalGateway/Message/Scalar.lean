import TerminalGateway.Decimal.Reader
import TerminalGateway.Json.Value
import TerminalGateway.Text.Blank

/-!
# Scalars of messages

Terminals write the same field now as a number and now as a text, so fields are read by what
they mean.

Main definitions:

- `Scalar.decimal?`: a decimal from a number or a numeric text.
- `Scalar.int?`: a 64-bit whole number from a number, a numeric text or a truth value.
- `Scalar.text?`: a text, or a number as it is written.
- `Scalar.first?`: the first of several fields that can be read.
-/

namespace TerminalGateway.Message.Scalar

open TerminalGateway.Json (Value)

/-- A decimal.  Numbers that are not 64-bit whole numbers are read from their written text, and
texts may have blanks around them. -/
def decimal? : Value → Option Decimal
  | .number number =>
      match number.int? with
      | some value => Decimal.ofInt? value
      | none => Decimal.read? number.text.toList
  | .string text => Decimal.read? (Text.trim text.toList)
  | _ => none

/-- A 64-bit whole number.  Texts may have blanks around them; true is one and false is zero. -/
def int? : Value → Option Int
  | .number number => number.int?
  | .string text => Text.readInt? Number.signedLimit64 (Text.trim text.toList)
  | .bool value => some (if value then 1 else 0)
  | _ => none

/-- A text, or a number as it is written. -/
def text? : Value → Option String
  | .string text => some text
  | .number number => some number.text
  | _ => none

/-- A member of an object read as a decimal. -/
def decimalAt? (payload : Value) (name : String) : Option Decimal :=
  payload.get? name >>= decimal?

/-- A member of an object read as a whole number. -/
def intAt? (payload : Value) (name : String) : Option Int :=
  payload.get? name >>= int?

/-- A member of an object read as a text. -/
def textAt? (payload : Value) (name : String) : Option String :=
  payload.get? name >>= text?

/-- The first of the named members that can be read. -/
def first? {α : Type} (read : Value → Option α) (payload : Value) (names : List String) :
    Option α :=
  names.findSome? fun name => payload.get? name >>= read

/-- A whole number that is a 64-bit number without a sign. -/
def natural? (value : Int) : Option Nat :=
  if 0 ≤ value ∧ value < Number.limit64 then some value.toNat else none

end TerminalGateway.Message.Scalar
