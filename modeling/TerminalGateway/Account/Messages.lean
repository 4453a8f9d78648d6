import TerminalGateway.Account.Limit
import TerminalGateway.Account.Order
import TerminalGateway.Account.Trade
import TerminalGateway.Calendar.Packed
import TerminalGateway.Message.Basic

/-!
# Account messages

Reading the payloads of messages with account data.  A row with a missing or wrong field is
refused; the first such field in the order of reading is named.

Main definitions:

- `readOrder`, `readTrade`: rows of the tables of orders and trades.
- `readLimit`: rows of the tables of limits, which are never refused.
-/

namespace TerminalGateway.Account

open TerminalGateway.Calendar (Moment)
open TerminalGateway.Json (Value)
open TerminalGateway.Message

/-- What a field holds, or the error that names the field. -/
def need {α : Type} (name : String) : Option α → Except DecodeError α
  | some value => .ok value
  | none => .error (.field name)

/-- A text in a field. -/
def textAt (payload : Value) (name : String) : Except DecodeError String :=
  need name (Scalar.textAt? payload name)

/-- A decimal in a field. -/
def decimalAt (payload : Value) (name : String) : Except DecodeError Decimal :=
  need name (Scalar.decimalAt? payload name)

/-- The time in the packed fields `qdate` and `qtime`. -/
def timeOf (payload : Value) : Except DecodeError Moment := do
  let date ← need "qdate" (Scalar.intAt? payload "qdate")
  let time ← need "qtime" (Scalar.intAt? payload "qtime")
  need "qdate" (Calendar.unpack? date time)

/-- The asset in the fields `ccode` and `scode`. -/
def assetOf (payload : Value) : Except DecodeError Asset := do
  let classCode ← need "ccode" ((payload.get? "ccode").bind Value.string?)
  let secCode ← need "scode" ((payload.get? "scode").bind Value.string?)
  need "scode" (Asset.ofCodes classCode secCode).toOption

/-- The side in the field `sell`. -/
def sideOf (payload : Value) : Except DecodeError Side :=
  need "sell" ((Scalar.intAt? payload "sell").map Side.ofSellFlag)

/-- The id of the transaction behind a row; zero means none. -/
def transactionIdOf? (payload : Value) : Option Nat :=
  (Scalar.first? Scalar.int? payload ["trans_id", "transid"] >>= Scalar.natural?).filter (· ≠ 0)

/-- A row of the table of orders. -/
def readOrder (payload : Value) : Except DecodeError Order := do
  return {
    number := ← textAt payload "number"
    time := ← timeOf payload
    asset := ← assetOf payload
    side := ← sideOf payload
    account := ← textAt payload "account"
    price := ← decimalAt payload "price"
    quantity := ← decimalAt payload "qty"
    volume := ← decimalAt payload "volume"
    balance := Scalar.decimalAt? payload "balance"
    status := ← need "status" (Scalar.intAt? payload "status")
    transactionId := transactionIdOf? payload }

/-- A row of the table of trades.  Its number is in the field `tradenum`, or in `number` where
that is missing. -/
def readTrade (payload : Value) : Except DecodeError Trade := do
  return {
    number := ← need "tradenum"
      (((payload.get? "tradenum").or (payload.get? "number")).bind Scalar.text?)
    orderNumber := Scalar.textAt? payload "ordernum"
    time := ← timeOf payload
    asset := ← assetOf payload
    side := ← sideOf payload
    price := ← decimalAt payload "price"
    quantity := ← decimalAt payload "qty"
    volume := Scalar.decimalAt? payload "volume" }

/-- A row of a table of limits.  Without a pair of non-empty codes it concerns the whole
account. -/
def readLimit (kind : LimitKind) (payload : Value) : Limit where
  kind := kind
  asset := (assetOf payload).toOption.getD .any
  payload := payload

end TerminalGateway.Account
