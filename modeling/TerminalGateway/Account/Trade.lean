import TerminalGateway.Asset
import TerminalGateway.Side
import TerminalGateway.Decimal.Basic
import TerminalGateway.Calendar.Moment

/-!
# Trades

A row of the terminal's table of own trades.
-/

namespace TerminalGateway.Account

/-- A trade that filled an order, in full or in part. -/
structure Trade where
  number : String
  orderNumber : Option String
  time : Calendar.Moment
  asset : Asset
  side : Side
  price : Decimal
  quantity : Decimal
  volume : Option Decimal
deriving DecidableEq

end TerminalGateway.Account
