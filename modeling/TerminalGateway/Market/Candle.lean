import TerminalGateway.Asset
import TerminalGateway.Decimal.Basic
import TerminalGateway.Calendar.Moment

/-!
# Candles

The open, high, low and close prices of an asset over an interval, and its volume.
-/

namespace TerminalGateway.Market

/-- A bar of a price chart. -/
structure Candle where
  asset : Asset
  time : Calendar.Moment
  openPrice : Decimal
  high : Decimal
  low : Decimal
  close : Decimal
  volume : Decimal
deriving DecidableEq

end TerminalGateway.Market
