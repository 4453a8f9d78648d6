import TerminalGateway.Message.Reply

/-!
# Kinds of messages

Every message carries an id: a number on the web protocol, a text on the bridge.  The id, and
for some messages a field of the payload, tell what the message is about.

Main definitions:

- `Id`: the id of a message.
- `Kind`: what a message is about.
- `Kind.classify`: the kind of a message.
-/

namespace TerminalGateway.Message

open TerminalGateway.Json (Value)

/-- The id of a message. -/
inductive Id where
  | code (number : Int)
  | text (name : String)
deriving Repr, DecidableEq

/-- An id as it is shown. -/
def Id.shown : Id → String
  | .code number => number.repr
  | .text name => name

/-! ## Numbers and names of messages -/

namespace Code

/-- The login request. -/
def login : Int := 10000

/-- The logout. -/
def logout : Int := 10006

/-- The request for an order book. -/
def bookRequest : Int := 11014

/-- The request for quotes and candles. -/
def quotesRequest : Int := 11016

/-- A new order. -/
def newOrder : Int := 12000

/-- The cancellation of all orders. -/
def killAllOrders : Int := 12100

end Code

/-- The bridge's message about a password check. -/
def authName : String :=
  "msg_auth"

/-- The beginning of the bridge's answers to requests for a feed. -/
def feedName : String :=
  "msg_create_ds"

/-- The bridge's message about an event in the terminal. -/
def callbackName : String :=
  "callback"

/-! ## Kinds -/

/-- Messages about the session itself. -/
inductive LifecycleKind where
  | auth
  | sessionOpen
  | connectionStatus
  | feedAnswer
deriving Repr, DecidableEq

/-- Messages with market data. -/
inductive MarketKind where
  | quotes
  | candles
  | books
  /-- Trades of all participants, one at a time. -/
  | allTrades
deriving Repr, DecidableEq

/-- Messages with account data. -/
inductive AccountKind where
  | orders
  | trades
  | moneyLimits
  | stockLimits
  | limitReceived
  | tradeAccounts
deriving Repr, DecidableEq

/-- What a message is about. -/
inductive Kind where
  | lifecycle (kind : LifecycleKind)
  | market (kind : MarketKind)
  | account (kind : AccountKind)
  | reply (reply : Reply)
  | unhandled
deriving Repr, DecidableEq

namespace Kind

/-- The kind of a message known by a number. -/
def ofCode (code : Int) (payload : Value) : Kind :=
  if code = 20006 then lifecycle .auth
  else if code = 20000 then lifecycle .sessionOpen
  else if code = 20008 then lifecycle .connectionStatus
  else if code = 21011 then market .quotes
  else if code = 21016 then market .candles
  else if code = 21014 then market .books
  else if code = 21001 then account .orders
  else if code = 21003 then account .trades
  else if code = 21004 then account .moneyLimits
  else if code = 21005 then account .stockLimits
  else if code = 21006 then account .limitReceived
  else if code = 21022 then account .tradeAccounts
  else if code = 21009 then reply (.ofPayload .transaction payload)
  else if 22000 ≤ code ∧ code ≤ 22004 then reply (.ofPayload .order payload)
  else if code = 22100 ∨ code = 22101 then reply (.ofPayload .cancel payload)
  else unhandled

/-- The kind of an event that the bridge reports. -/
def ofCallback (payload : Value) : Kind :=
  match (payload.get? "callback_name").bind Value.string? with
  | some "OnAllTrade" => market .allTrades
  | some "OnTransReply" =>
      match (payload.get? "result").bind Reply.ofCallback? with
      | some answer => reply answer
      | none => unhandled
  | _ => unhandled

/-- The kind of a message known by a text. -/
def ofName (name : String) (payload : Value) : Kind :=
  if name = authName then lifecycle .auth
  else if name = callbackName then ofCallback payload
  else if feedName.toList.isPrefixOf name.toList then lifecycle .feedAnswer
  else
    match Reply.ofTextId? name payload with
    | some answer => reply answer
    | none => unhandled

/-- The kind of a message. -/
def classify : Id → Value → Kind
  | .code number, payload => ofCode number payload
  | .text name, payload => ofName name payload

end Kind

end TerminalGateway.Message
