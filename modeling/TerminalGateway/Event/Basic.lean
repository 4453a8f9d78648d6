import TerminalGateway.Account.Limit
import TerminalGateway.Account.Order
import TerminalGateway.Account.Trade
import TerminalGateway.Connection.Heartbeat
import TerminalGateway.Connection.State
import TerminalGateway.Market.Book
import TerminalGateway.Market.Candle
import TerminalGateway.Market.Quote
import TerminalGateway.Transaction.Pending

/-!
# Events

What the gateway hands to its sinks.  Each kind of event needs a capability of the sink, and most
kinds concern one asset.

Main definitions:

- `Event`: the nine kinds of event.
- `Capability`, `Event.capability`: what a sink must declare to be given an event.
- `Event.asset?`: the asset that an event concerns.
-/

namespace TerminalGateway

/-- An event for sinks. -/
inductive Event where
  | quote (quote : Market.Quote)
  | candle (candle : Market.Candle)
  | book (book : Market.Book)
  | heartbeat (beat : Connection.Beat)
  | order (order : Account.Order)
  | trade (trade : Account.Trade)
  | limit (limit : Account.Limit)
  | reply (notice : Transaction.Notice)
  | state (state : Connection.State)

/-- A kind of event that a sink can take. -/
inductive Capability where
  | quote
  | candle
  | book
  | heartbeat
  | order
  | trade
  | limit
  | reply
  | state
deriving Repr, DecidableEq

namespace Capability

/-- What a consumer of market data takes. -/
def feed : List Capability :=
  [quote, candle, book, heartbeat]

/-- What a consumer of account data takes. -/
def broker : List Capability :=
  [order, trade, limit, reply, heartbeat]

/-- Every kind of event. -/
def all : List Capability :=
  [quote, candle, book, heartbeat, order, trade, limit, reply, state]

end Capability

namespace Event

/-- The capability that an event needs. -/
def capability : Event → Capability
  | quote _ => .quote
  | candle _ => .candle
  | book _ => .book
  | heartbeat _ => .heartbeat
  | order _ => .order
  | trade _ => .trade
  | limit _ => .limit
  | reply _ => .reply
  | state _ => .state

/-- The asset that an event concerns; heartbeats and states concern the whole connection. -/
def asset? : Event → Option Asset
  | .quote q => some q.asset
  | .candle c => some c.asset
  | .book b => some b.asset
  | .order o => some o.asset
  | .trade t => some t.asset
  | .limit l => some l.asset
  | .reply n => some n.asset
  | .heartbeat _ => none
  | .state _ => none

end Event

end TerminalGateway
