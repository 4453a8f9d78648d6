import TerminalGateway.Asset
import TerminalGateway.Side
import TerminalGateway.Decimal.Basic
import TerminalGateway.Calendar.Moment

/-!
# Orders

A row of the terminal's table of orders.
-/

namespace TerminalGateway.Account

/-- An order as the terminal reports it. -/
structure Order where
  /-- The exchange's number of the order. -/
  number : String
  time : Calendar.Moment
  asset : Asset
  side : Side
  account : String
  price : Decimal
  quantity : Decimal
  volume : Decimal
  /-- What is left to fill, when reported. -/
  balance : Option Decimal
  /-- The terminal's status code. -/
  status : Int
  /-- The id of the transaction that placed the order, when known. -/
  transactionId : Option Nat
deriving DecidableEq

/-- Nothing is left to fill. -/
def Order.isFilled (order : Order) : Bool :=
  order.balance.any Decimal.isZero

end TerminalGateway.Account
