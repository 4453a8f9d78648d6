import TerminalGateway.Command.Dialect
import TerminalGateway.Connection.Lifecycle
import TerminalGateway.Message.Kind
import TerminalGateway.Subscription
import TerminalGateway.Transport.Event
import TerminalGateway.View

/-!
# Words

Values of small types are known to observers by words.  Each vocabulary is a table, and is read
in both directions.

Main definitions:

- `View.Words`: a vocabulary.
- `View.Words.value?`, `View.Words.view`: reading a word, and showing a value.
-/

namespace TerminalGateway.View

open TerminalGateway.Json (Value)

/-- A vocabulary. -/
abbrev Words (α : Type) := List (String × α)

namespace Words

/-- The value that a word stands for. -/
def value? {α : Type} (words : Words α) (word : String) : Option α :=
  words.lookup word

/-- A value by its word, null for a value without one. -/
def view {α : Type} [BEq α] (words : Words α) (value : α) : Value :=
  maybe (fun entry => .string entry.1) (words.find? fun entry => entry.2 == value)

end Words

/-! ## Messages -/

/-- Encodings. -/
def encodings : Words Text.Encoding :=
  [("utf8", .utf8), ("windows1251", .windows1251)]

/-- Dialects. -/
def dialects : Words Dialect :=
  [.web, .bridge].map fun dialect => (Dialect.name dialect, dialect)

/-- How far a transaction has come. -/
def statuses : Words Message.Status :=
  [("interim", .interim), ("accepted", .accepted), ("rejected", .rejected)]

/-- Kinds of replies. -/
def replyKinds : Words Message.ReplyKind :=
  [("transaction", .transaction), ("order", .order), ("cancel", .cancel)]

/-- Kinds of messages about the connection. -/
def lifecycleKinds : Words Message.LifecycleKind :=
  [("auth", .auth), ("session_open", .sessionOpen), ("connection_status", .connectionStatus),
    ("datasource_ack", .feedAnswer)]

/-- Kinds of messages about the market. -/
def marketKinds : Words Message.MarketKind :=
  [("quotes", .quotes), ("candles", .candles), ("level2", .books), ("all_trades", .allTrades)]

/-- Kinds of messages about the account. -/
def accountKinds : Words Message.AccountKind :=
  [("orders", .orders), ("trades", .trades), ("money_limits", .moneyLimits),
    ("stock_limits", .stockLimits), ("limit_received", .limitReceived),
    ("trade_accounts", .tradeAccounts)]

/-! ## Connections -/

/-- States of a connection. -/
def states : Words Connection.State :=
  [.disconnected, .connecting, .connected, .busy, .disconnecting].map fun state =>
    (Connection.State.name state, state)

/-- What may happen to a connection. -/
def triggers : Words Connection.Trigger :=
  [("connect", .connect), ("connect_failed", .connectFailed), ("session_opened", .sessionOpened),
    ("replay_done", .replayDone), ("unexpected_close", .unexpectedClose),
    ("auth_failed", .authFailed), ("close", .close), ("closed", .closed)]

/-- How a probe is answered. -/
def livenesses : Words Transport.Liveness :=
  [("await_pong", .awaitPong), ("immediate", .immediate)]

/-! ## Sinks -/

/-- What a sink may declare, one by one and in groups. -/
def declarations : Words (List Capability) :=
  [("quote", [.quote]), ("candle", [.candle]), ("level2", [.book]), ("heartbeat", [.heartbeat]),
    ("order", [.order]), ("trade", [.trade]), ("limit", [.limit]), ("reply", [.reply]),
    ("state", [.state]), ("feed", Capability.feed), ("broker", Capability.broker),
    ("all", Capability.all)]

end TerminalGateway.View
