import TerminalGateway.Account.Messages
import TerminalGateway.Event.Basic
import TerminalGateway.Market.Messages

/-!
# Events in messages

The events that a message with market or account data brings to the sinks: all of them, or none
when any part of the message is refused.
-/

namespace TerminalGateway.Event

open TerminalGateway.Calendar (Moment)
open TerminalGateway.Json (Value)
open TerminalGateway.Message (MarketKind AccountKind)

/-- The events of a message with market data. -/
def ofMarket (kind : MarketKind) (payload : Value) (receivedAt : Moment) :
    Except DecodeError (List Event) :=
  match kind with
  | .quotes => (Market.readQuotes payload receivedAt).map (·.map quote)
  | .candles => (Market.readCandles payload).map (·.map candle)
  | .books => (Market.readBooks payload receivedAt).map (·.map book)
  | .allTrades => (Market.readTradeTick payload receivedAt).map fun tick => [quote tick]

/-- The event of a message with account data. -/
def ofAccount (kind : AccountKind) (payload : Value) : Except DecodeError (List Event) :=
  match kind with
  | .orders => (Account.readOrder payload).map fun row => [order row]
  | .trades => (Account.readTrade payload).map fun row => [trade row]
  | .moneyLimits => .ok [limit (Account.readLimit .money payload)]
  | .stockLimits => .ok [limit (Account.readLimit .stock payload)]
  | .limitReceived => .ok [limit (Account.readLimit .received payload)]
  | .tradeAccounts => .ok [limit (Account.readLimit .tradeAccount payload)]

end TerminalGateway.Event
