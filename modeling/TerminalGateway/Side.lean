/-!
# Sides

An order buys or sells.  The terminal's `sell` flag is zero for a purchase and anything else
for a sale.
-/

namespace TerminalGateway

/-- The side of an order. -/
inductive Side where
  | buy
  | sell
deriving Repr, DecidableEq, Inhabited

namespace Side

/-- The side that a `sell` flag stands for. -/
def ofSellFlag (flag : Int) : Side :=
  if flag = 0 then buy else sell

/-- The `sell` flag of a side. -/
def sellFlag : Side → Nat
  | buy => 0
  | sell => 1

/-- The name of a side. -/
def name : Side → String
  | buy => "buy"
  | sell => "sell"

@[simp]
theorem ofSellFlag_sellFlag (side : Side) : ofSellFlag side.sellFlag = side := by
  cases side <;> rfl

end Side

end TerminalGateway
