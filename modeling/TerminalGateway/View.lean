import TerminalGateway.Gateway.Item

/-!
# Views

Flat JSON objects that show an observer what happens: one for each kind of event, with decimals
and large numbers as texts, and assets as pairs of codes.  Unlike record forms they are not meant
to be read back.

Main definitions:

- `View.event`: the view of an event.
- `View.intent`, `View.outcome`: the views of a transaction and of its end.
- `View.item`: the view of what waits in a queue.
-/

namespace TerminalGateway.View

open TerminalGateway.Json (Value)

/-! ## Parts -/

/-- A number that may not fit into 53 bits. -/
def integer (n : Int) : Value :=
  .string n.repr

/-- A decimal with all its places. -/
def decimal (d : Decimal) : Value :=
  .string d.text

/-- The wildcard as a star, an instrument as the pair of its codes. -/
def asset : Asset → Value
  | .any => .string Asset.wildcard
  | .instrument classCode secCode => .array [.string classCode, .string secCode]

/-- A moment without a zone. -/
def time (m : Calendar.Moment) : Value :=
  .string m.spacedText

/-- A side by its name. -/
def side (s : Side) : Value :=
  .string s.name

/-- What may be missing. -/
def maybe {α : Type} (view : α → Value) (value : Option α) : Value :=
  .ofOption view value

/-- Lower-case hexadecimal digits, two for each byte. -/
def bytes (data : List UInt8) : Value :=
  .string (String.ofList (data.flatMap fun b =>
    [Value.hexDigit (b.toNat / 16), Value.hexDigit (b.toNat % 16)]))

/-! ## Market and account data -/

/-- A quote. -/
def quote (q : Market.Quote) : Value :=
  .object [
    ("event", .string "quote"), ("asset", asset q.asset), ("bid", maybe decimal q.bid),
    ("ask", maybe decimal q.ask), ("last", maybe decimal q.last),
    ("change", maybe decimal q.lastChange), ("volume", maybe decimal q.lastVolume),
    ("time", maybe time q.tradeTime)]

/-- A candle. -/
def candle (c : Market.Candle) : Value :=
  .object [
    ("event", .string "candle"), ("asset", asset c.asset), ("time", time c.time),
    ("o", decimal c.openPrice), ("h", decimal c.high), ("l", decimal c.low),
    ("c", decimal c.close), ("v", decimal c.volume)]

/-- A price line. -/
def level (l : Market.Level) : Value :=
  .array [decimal l.price, maybe decimal l.bidVolume, maybe decimal l.askVolume]

/-- An order book with its best lines. -/
def book (b : Market.Book) : Value :=
  .object [
    ("event", .string "level2"), ("asset", asset b.asset),
    ("levels", .array (b.levels.map level)), ("best_bid", maybe level b.bestBid?),
    ("best_ask", maybe level b.bestAsk?)]

/-- An order. -/
def order (o : Account.Order) : Value :=
  .object [
    ("event", .string "order"), ("number", .string o.number), ("time", time o.time),
    ("asset", asset o.asset), ("side", side o.side), ("account", .string o.account),
    ("price", decimal o.price), ("qty", decimal o.quantity), ("volume", decimal o.volume),
    ("balance", maybe decimal o.balance), ("status", integer o.status),
    ("trans_id", maybe (fun id : Nat => integer id) o.transactionId),
    ("filled", .bool o.isFilled)]

/-- A trade. -/
def trade (t : Account.Trade) : Value :=
  .object [
    ("event", .string "trade"), ("number", .string t.number),
    ("order", maybe .string t.orderNumber), ("time", time t.time), ("asset", asset t.asset),
    ("side", side t.side), ("price", decimal t.price), ("qty", decimal t.quantity),
    ("volume", maybe decimal t.volume)]

/-- The name of a table of limits. -/
def limitKind : Account.LimitKind → String
  | .money => "money"
  | .stock => "stock"
  | .received => "received"
  | .tradeAccount => "trade_account"

/-- A row of a table of limits, with its payload as a text. -/
def limit (l : Account.Limit) : Value :=
  .object [
    ("event", .string "limit"), ("kind", .string (limitKind l.kind)), ("asset", asset l.asset),
    ("payload", .string l.payload.text)]

/-! ## Transactions -/

/-- A transaction. -/
def intent (i : Intent) : Value :=
  .object [
    ("action", .string i.action.tag), ("asset", asset i.asset), ("side", maybe side i.side),
    ("price", decimal i.price), ("qty", decimal i.quantity), ("market", .bool i.isMarket)]

/-- How a transaction ended. -/
def outcome : Transaction.Outcome → Value
  | .accepted number => .object [("accepted", maybe .string number)]
  | .rejected text => .object [("rejected", .string text)]
  | .unrecognized => .string "unrecognized"
  | .timedOut => .string "timed_out"

/-- What sinks learn about the end of a transaction. -/
def notice (n : Transaction.Notice) : Value :=
  .object [
    ("event", .string "reply"), ("id", integer n.transactionId), ("asset", asset n.asset),
    ("outcome", outcome n.outcome)]

/-! ## Events and items -/

/-- An event. -/
def event : Event → Value
  | .quote q => quote q
  | .candle c => candle c
  | .book b => book b
  | .heartbeat beat => .object [("heartbeat", .ofInt beat.count)]
  | .order o => order o
  | .trade t => trade t
  | .limit l => limit l
  | .reply n => notice n
  | .state s => .object [("state", .string s.name)]

/-- What a connection reports. -/
def transportEvent : Transport.Event → Value
  | .opened => .string "opened"
  | .frame data => .object [("frame", bytes data)]
  | .error text => .object [("error", .string text)]
  | .closed reason =>
      .object [
        ("closed", .string (match reason with
          | .peer _ => "peer"
          | .error _ => "error")),
        ("display", .string reason.message)]
  | .pong => .string "pong"

/-- What a timer or a connection put into a queue, with the number of its session, and nothing
for the requests of callers. -/
def item : Gateway.Item → Value
  | .transport generation event => .array [.ofInt generation, transportEvent event]
  | .heartbeatTick generation => .array [.ofInt generation, .string "heartbeat_tick"]
  | .reconnect generation => .array [.ofInt generation, .string "reconnect"]
  | .expirySweep => .string "expiry_sweep"
  | .shutdown => .string "shutdown"
  | _ => .null

end TerminalGateway.View
