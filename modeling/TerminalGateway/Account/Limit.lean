import TerminalGateway.Asset
import TerminalGateway.Json.Value

/-!
# Limits

Rows of the terminal's tables of limits and trade accounts, handed on as they were received.
-/

namespace TerminalGateway.Account

/-- The table that a row belongs to. -/
inductive LimitKind where
  | money
  | stock
  /-- A notice of a trading restriction. -/
  | received
  | tradeAccount
deriving Repr, DecidableEq

/-- A row of a table of limits. -/
structure Limit where
  kind : LimitKind
  /-- The wildcard for rows that concern the whole account. -/
  asset : Asset
  payload : Json.Value

end TerminalGateway.Account
