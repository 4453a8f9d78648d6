import TerminalGateway.Command.Table
import TerminalGateway.Command.Wire
import TerminalGateway.Failure
import TerminalGateway.Message.Kind

/-!
# Commands

The texts of the frames that the gateway sends.  Every frame is a JSON object.

Main definitions:

- `handshake`: the frames sent as soon as a connection is open.
- `feedRequest`: the frames that ask for the market data of an asset.
- `transaction`: the frames that carry a transaction.
- `logout`: the frame sent before a session is closed.
-/

namespace TerminalGateway.Command

open TerminalGateway.Json (Value)
open TerminalGateway.Message

/-! ## Opening and closing a session -/

/-- The login at the web server. -/
def login (name password version : String) : String :=
  objectText [
    ("msgid", .ofInt Code.login),
    ("login", .string name),
    ("password", .string password),
    ("width", .string "200"),
    ("height", .string "200"),
    ("userAgent", .string "quikgate"),
    ("lang", .string "ru"),
    ("version", .string version)]

/-- A call of a method of the bridge. -/
def call (id method : String) (arguments : List String) : String :=
  objectText [
    ("id", .string id),
    ("method", .string method),
    ("args", .array (arguments.map Value.string))]

/-- The frames sent as soon as a connection is open. -/
def handshake : Dialect → (name password version : String) → List String
  | .web, name, password, version => [login name password version]
  | .bridge, _, password, _ => [call authName "checkSecurity" [password]]

/-- The frame sent before an open session is closed; the bridge has none. -/
def logout : Dialect → Option String
  | .web => some (objectText [("msgid", .ofInt Code.logout)])
  | .bridge => none

/-! ## Commands about an asset -/

/-- The codes of an asset; the wildcard is no asset that a terminal could know. -/
def codesOf (asset : Asset) : Except SendError (String × String) :=
  match asset.codes? with
  | some codes => .ok codes
  | none => .error (.serialization "wildcard asset cannot be sent to the terminal")

/-- The request for the quotes and candles of an asset. -/
def quotesRequest (asset : Asset) (period : Nat) : Except SendError String := do
  let (classCode, secCode) ← codesOf asset
  return objectText [
    ("msgid", .ofInt Code.quotesRequest),
    ("c", .string classCode),
    ("s", .string secCode),
    ("p", .ofInt period)]

/-- The request for the order book of an asset. -/
def bookRequest (asset : Asset) (depth : Nat) : Except SendError String := do
  let (classCode, secCode) ← codesOf asset
  return objectText [
    ("msgid", .ofInt Code.bookRequest),
    ("c", .string classCode),
    ("s", .string secCode),
    ("depth", .ofInt depth)]

/-- The request for the trades of an asset on the bridge. -/
def tradesRequest (asset : Asset) : Except SendError String := do
  let (classCode, secCode) ← codesOf asset
  return call (feedName ++ "_" ++ classCode ++ "_" ++ secCode) "CreateDataSource"
    [classCode, secCode, "INTERVAL_TICK"]

/-- The frames that ask for the market data of an asset. -/
def feedRequest (dialect : Dialect) (asset : Asset) (period depth : Nat) :
    Except SendError (List String) :=
  match dialect with
  | .web => do return [← quotesRequest asset period, ← bookRequest asset depth]
  | .bridge => do return [← tradesRequest asset]

/-! ## Transactions -/

/-- The number by which the web server knows an action. -/
def actionCode : Action → Int
  | .newOrder => Code.newOrder
  | .killAllOrders => Code.killAllOrders

/-- A decimal on the wire of the web server. -/
def amount (d : Decimal) : Except SendError Value :=
  match number? d with
  | some number => .ok (.number number)
  | none => .error (.serialization "number out of range")

/-- What an order for one side adds to a transaction. -/
def sideMembers (intent : Intent) : Except SendError (List (String × Value)) :=
  match intent.side with
  | none => .ok []
  | some side => do
      let price ← amount intent.price
      let quantity ← amount intent.quantity
      return [("sell", .ofInt side.sellFlag), ("price", price), ("quantity", quantity)]

/-- A transaction for the web server. -/
def webTransaction (transactionId : Nat) (account : TradeAccount) (intent : Intent) :
    Except SendError String := do
  let (classCode, secCode) ← codesOf intent.asset
  let members ← sideMembers intent
  return objectText ([
    ("msgid", .ofInt (actionCode intent.action)),
    ("action", .string intent.action.tag),
    ("trans_id", .ofInt transactionId),
    ("ccode", .string classCode),
    ("scode", .string secCode),
    ("clientcode", .string account.clientCode),
    ("account", .string account.account)] ++ members)

/-- A transaction for the bridge: the order, and the request for its result. -/
def bridgeTransaction (transactionId : Nat) (account : TradeAccount) (intent : Intent) :
    Except SendError (List String) := do
  let (classCode, secCode) ← codesOf intent.asset
  let fields := tableFields transactionId account intent classCode secCode
  return [
    call ("order_" ++ transactionId.repr) "sendTransaction" [tableText fields],
    call (transactionId.repr ++ "_reply") "OnTransReply" [transactionId.repr]]

/-- The frames that carry a transaction. -/
def transaction (dialect : Dialect) (transactionId : Nat) (account : TradeAccount)
    (intent : Intent) : Except SendError (List String) :=
  match dialect with
  | .web => do return [← webTransaction transactionId account intent]
  | .bridge => bridgeTransaction transactionId account intent

/-- No transaction is about the wildcard. -/
theorem transaction_of_any (dialect : Dialect) (transactionId : Nat) (account : TradeAccount)
    {intent : Intent} (hany : intent.asset = .any) :
    transaction dialect transactionId account intent =
      .error (.serialization "wildcard asset cannot be sent to the terminal") := by
  have hcodes : codesOf intent.asset =
      .error (.serialization "wildcard asset cannot be sent to the terminal") := by
    rw [hany]
    rfl
  cases dialect with
  | web =>
      unfold transaction webTransaction
      rw [hcodes]
      rfl
  | bridge =>
      unfold transaction bridgeTransaction
      rw [hcodes]
      rfl

end TerminalGateway.Command
