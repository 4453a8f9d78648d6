import TerminalGateway.Asset
import TerminalGateway.Side
import TerminalGateway.Intent
import TerminalGateway.Decimal.Reader
import TerminalGateway.Calendar.Reader
import TerminalGateway.Json.Record

/-!
# Record forms: codes, numbers and times

How the parts of a record are stored as JSON.  A decimal is stored as a string with all its
places and is also read from a number; a moment is stored as a string; an asset and a side are
choices between named alternatives.

Main definitions:

- `readDecimal?`, `writeDecimal`: decimals.
- `readLocal?`, `writeLocal`, `readUtc?`, `writeUtc`: moments without and with a zone.
- `readAsset?`, `writeAsset`, `readSide?`, `writeSide`: assets and sides.
- `readIntent?`, `writeIntent`: transaction intents.
-/

namespace TerminalGateway.Record

open TerminalGateway.Json (Tree Value Number)
open TerminalGateway.Calendar (Moment)

/-! ## Numbers and times -/

/-- A decimal from a string, a whole number, or the plain shortest digits of a binary number. -/
def readDecimal? : Tree → Option Decimal
  | .string pieces => do Decimal.read? (← Json.characters? pieces)
  | tree =>
      match tree.number? with
      | some (.whole value) => Decimal.ofInt? value
      | some (.real value) => Decimal.read? (Number.Layout.plain.text value).toList
      | none => none

/-- A decimal as a string. -/
def writeDecimal (d : Decimal) : Value :=
  .string d.text

/-- A moment without a zone. -/
def readLocal? (tree : Tree) : Option Moment := do
  Calendar.readLocal? (← tree.text?).toList

/-- A moment without a zone. -/
def writeLocal (m : Moment) : Value :=
  .string m.isoText

/-- A moment in UTC from one in any zone. -/
def readUtc? (tree : Tree) : Option Moment := do
  Calendar.readZoned? (← tree.text?).toList

/-- A moment in UTC. -/
def writeUtc (m : Moment) : Value :=
  .string m.utcText

/-! ## Assets, sides and intents -/

/-- An asset.  Its codes are taken as they stand. -/
def readAsset? (tree : Tree) : Option Asset :=
  match tree.variant? with
  | some ("Any", none) => some .any
  | some ("Any", some .null) => some .any
  | some ("Instrument", some content) => do
      let record ← Json.Record.ofTree? ["class_code", "sec_code"] content
      let classCode ← record.required "class_code" Tree.text?
      let secCode ← record.required "sec_code" Tree.text?
      return .instrument classCode secCode
  | _ => none

/-- An asset: a bare name for the wildcard, a named pair of codes for an instrument. -/
def writeAsset : Asset → Value
  | .any => .string "Any"
  | .instrument classCode secCode =>
      .object [("Instrument",
        .object [("class_code", .string classCode), ("sec_code", .string secCode)])]

/-- A side. -/
def readSide? (tree : Tree) : Option Side :=
  match tree.unitVariant? with
  | some "Buy" => some .buy
  | some "Sell" => some .sell
  | _ => none

/-- A side by its name. -/
def writeSide : Side → Value
  | .buy => .string "Buy"
  | .sell => .string "Sell"

/-- An action. -/
def readAction? (tree : Tree) : Option Action :=
  match tree.unitVariant? with
  | some "NewOrder" => some .newOrder
  | some "KillAllOrders" => some .killAllOrders
  | _ => none

/-- An action by its name. -/
def writeAction : Action → Value
  | .newOrder => .string "NewOrder"
  | .killAllOrders => .string "KillAllOrders"

/-- A transaction intent. -/
def readIntent? (tree : Tree) : Option Intent := do
  let record ← Json.Record.ofTree? ["action", "asset", "side", "price", "quantity"] tree
  return {
    action := ← record.required "action" readAction?
    asset := ← record.required "asset" readAsset?
    side := ← record.optional "side" readSide?
    price := ← record.required "price" readDecimal?
    quantity := ← record.required "quantity" readDecimal? }

/-- The fields of a transaction intent in order. -/
def writeIntent (intent : Intent) : Value :=
  .object [
    ("action", writeAction intent.action),
    ("asset", writeAsset intent.asset),
    ("side", .ofOption writeSide intent.side),
    ("price", writeDecimal intent.price),
    ("quantity", writeDecimal intent.quantity)]

end TerminalGateway.Record
