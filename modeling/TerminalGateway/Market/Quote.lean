import TerminalGateway.Asset
import TerminalGateway.Decimal.Basic
import TerminalGateway.Calendar.Moment

/-!
# Quotes

The best prices of an asset and its last trade.  A terminal sends only what changed, so every
price is optional.
-/

namespace TerminalGateway.Market

open TerminalGateway.Calendar (Moment)

/-- A quote of an asset. -/
structure Quote where
  asset : Asset
  /-- When the quote was received, in UTC. -/
  receivedAt : Moment
  bid : Option Decimal
  ask : Option Decimal
  last : Option Decimal
  lastChange : Option Decimal
  /-- The volume of the trade at `last`. -/
  lastVolume : Option Decimal
  /-- The exchange's time of the trade at `last`. -/
  tradeTime : Option Moment
deriving DecidableEq

/-- What the prices of a quote say about its spread. -/
inductive Spread where
  /-- A side of the market is missing. -/
  | unknown
  | known (spread : Decimal)
  /-- The difference of the prices is too large for a decimal. -/
  | overflow
deriving DecidableEq

/-- The wording for a spread that is too large. -/
def Spread.overflowMessage : String :=
  "Subtraction overflowed"

/-- The ask price less the bid price. -/
def Quote.spread (quote : Quote) : Spread :=
  match quote.ask, quote.bid with
  | some ask, some bid =>
      match ask.sub? bid with
      | some spread => .known spread
      | none => .overflow
  | _, _ => .unknown

end TerminalGateway.Market
