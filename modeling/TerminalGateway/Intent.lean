import TerminalGateway.Asset
import TerminalGateway.Side
import TerminalGateway.Decimal.Basic

/-!
# Transaction intents

What a caller asks the terminal to do: place an order, or cancel every active order on an asset.

Main definitions:

- `Action`: the two kinds of transaction.
- `Intent`: an action with its asset, side, price and quantity.
- `Intent.newOrder`, `Intent.killAll`: the intents that callers submit.
-/

namespace TerminalGateway

/-- What a transaction does. -/
inductive Action where
  | newOrder
  | killAllOrders
deriving Repr, DecidableEq, Inhabited

/-- The tag by which the terminal knows an action. -/
def Action.tag : Action → String
  | .newOrder => "NEW_ORDER"
  | .killAllOrders => "KILL_ALL_ORDERS"

/-- The command behind a transaction. -/
structure Intent where
  action : Action
  asset : Asset
  /-- Absent for actions on both sides. -/
  side : Option Side
  /-- Zero asks for the market price. -/
  price : Decimal
  quantity : Decimal
deriving DecidableEq, Inhabited

namespace Intent

/-- An order for one side of an asset. -/
def newOrder (asset : Asset) (side : Side) (price quantity : Decimal) : Intent :=
  ⟨.newOrder, asset, some side, price, quantity⟩

/-- The cancellation of every active order on an asset. -/
def killAll (asset : Asset) : Intent :=
  ⟨.killAllOrders, asset, none, .zero, .zero⟩

/-- An order at the market price. -/
def isMarket (intent : Intent) : Bool :=
  intent.action = .newOrder && intent.price.isZero

end Intent

end TerminalGateway
