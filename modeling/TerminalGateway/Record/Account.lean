import TerminalGateway.Account.Order
import TerminalGateway.Account.Trade
import TerminalGateway.Record.Basic

/-!
# Record forms: account data

How orders and trades are stored as JSON: objects with the fields in a fixed order, null for
what is absent.
-/

namespace TerminalGateway.Record

open TerminalGateway.Json (Tree Value)
open TerminalGateway.Account (Order Trade)

/-- A whole number of 64 bits with a sign. -/
def readInt64? (tree : Tree) : Option Int :=
  tree.int? (-(Number.signedLimit64 : Int)) Number.signedLimit64

/-- A whole number of 64 bits without a sign. -/
def readNat64? (tree : Tree) : Option Nat :=
  tree.nat? Number.limit64

/-- A whole number without a sign. -/
def writeNat (n : Nat) : Value :=
  Value.ofInt n

/-- An order. -/
def readOrder? (tree : Tree) : Option Order := do
  let record ← Json.Record.ofTree? ["number", "time", "asset", "side", "account", "price",
    "quantity", "volume", "balance", "status", "transaction_id"] tree
  return {
    number := ← record.required "number" Tree.text?
    time := ← record.required "time" readLocal?
    asset := ← record.required "asset" readAsset?
    side := ← record.required "side" readSide?
    account := ← record.required "account" Tree.text?
    price := ← record.required "price" readDecimal?
    quantity := ← record.required "quantity" readDecimal?
    volume := ← record.required "volume" readDecimal?
    balance := ← record.optional "balance" readDecimal?
    status := ← record.required "status" readInt64?
    transactionId := ← record.optional "transaction_id" readNat64? }

/-- The fields of an order in order. -/
def writeOrder (order : Order) : Value :=
  .object [
    ("number", .string order.number),
    ("time", writeLocal order.time),
    ("asset", writeAsset order.asset),
    ("side", writeSide order.side),
    ("account", .string order.account),
    ("price", writeDecimal order.price),
    ("quantity", writeDecimal order.quantity),
    ("volume", writeDecimal order.volume),
    ("balance", .ofOption writeDecimal order.balance),
    ("status", .ofInt order.status),
    ("transaction_id", .ofOption writeNat order.transactionId)]

/-- A trade. -/
def readTrade? (tree : Tree) : Option Trade := do
  let record ← Json.Record.ofTree? ["trade_number", "order_number", "time", "asset", "side",
    "price", "quantity", "volume"] tree
  return {
    number := ← record.required "trade_number" Tree.text?
    orderNumber := ← record.optional "order_number" Tree.text?
    time := ← record.required "time" readLocal?
    asset := ← record.required "asset" readAsset?
    side := ← record.required "side" readSide?
    price := ← record.required "price" readDecimal?
    quantity := ← record.required "quantity" readDecimal?
    volume := ← record.optional "volume" readDecimal? }

/-- The fields of a trade in order. -/
def writeTrade (trade : Trade) : Value :=
  .object [
    ("trade_number", .string trade.number),
    ("order_number", .ofOption .string trade.orderNumber),
    ("time", writeLocal trade.time),
    ("asset", writeAsset trade.asset),
    ("side", writeSide trade.side),
    ("price", writeDecimal trade.price),
    ("quantity", writeDecimal trade.quantity),
    ("volume", .ofOption writeDecimal trade.volume)]

end TerminalGateway.Record
