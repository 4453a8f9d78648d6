import TerminalGateway.Message.Scalar

/-!
# Replies to transactions

A terminal answers one transaction on several streams, each with fields of its own.  All
replies are brought into one form, whose transaction id is the only thing by which a reply is
matched to its transaction.

Main definitions:

- `Status`: what a reply says about the transaction.
- `Reply`: a reply in the common form.
- `Reply.ofPayload`, `Reply.ofTextId?`, `Reply.ofCallback?`: the three streams.
-/

namespace TerminalGateway.Message

open TerminalGateway.Json (Value)

/-- The stream of a reply. -/
inductive ReplyKind where
  | transaction
  | order
  | cancel
deriving Repr, DecidableEq

/-- What a reply says about its transaction. -/
inductive Status where
  /-- The transaction is under way; more replies follow. -/
  | interim
  | accepted
  | rejected
deriving Repr, DecidableEq

namespace Status

/-- The meaning of a transaction's status code: sent or received, executed, or failed. -/
def ofTransactionStatus (code : Int) : Status :=
  if code = 0 ∨ code = 1 then interim
  else if code = 3 then accepted
  else rejected

/-- The meaning of a result code, zero for success. -/
def ofResultCode (code : Int) : Status :=
  if code = 0 then accepted else rejected

/-- No further reply changes the transaction's fate. -/
def isTerminal : Status → Bool
  | interim => false
  | accepted => true
  | rejected => true

end Status

/-- A reply to a transaction. -/
structure Reply where
  kind : ReplyKind
  transactionId : Option Nat
  status : Status
  /-- The exchange's number of the order, once there is one. -/
  orderNumber : Option String
  text : Option String
deriving Repr, DecidableEq

namespace Reply

/-- A reply whose message is known by a number.  A status code counts before a result code, and
a reply with neither is interim. -/
def ofPayload (kind : ReplyKind) (payload : Value) : Reply where
  kind := kind
  transactionId :=
    Scalar.first? Scalar.int? payload ["trans_id", "transid", "request"] >>= Scalar.natural?
  status :=
    match Scalar.intAt? payload "status" with
    | some code => .ofTransactionStatus code
    | none =>
        match Scalar.first? Scalar.int? payload ["resultCode", "result"] with
        | some code => .ofResultCode code
        | none => .interim
  orderNumber := Scalar.textAt? payload "ordernum"
  text := Scalar.textAt? payload "text"

/-- The result of a transaction on the bridge; without a status it is interim. -/
def ofResult (transactionId : Nat) (result : Value) : Reply where
  kind := .transaction
  transactionId := some transactionId
  status := ((Scalar.intAt? result "status").map .ofTransactionStatus).getD .interim
  orderNumber := Scalar.textAt? result "order_num"
  text := Scalar.textAt? result "result_msg"

/-- What the bridge says about an order it was sent: always interim. -/
def ofOrderNotice (transactionId : Nat) (payload : Value) : Reply where
  kind := .order
  transactionId := some transactionId
  status := .interim
  orderNumber := none
  text := (payload.get? "result").bind fun result => (result.item? 0).bind Scalar.text?

/-- What the bridge answers to a request for the result: the result once it is an object, and
an interim reply before. -/
def ofResultAnswer (transactionId : Nat) (payload : Value) : Reply :=
  match payload.get? "result" with
  | some (.object members) => ofResult transactionId (.object members)
  | _ => ⟨.transaction, some transactionId, .interim, none, none⟩

/-- The text after a beginning. -/
def after? (beginning text : List Char) : Option (List Char) :=
  if beginning.isPrefixOf text then some (text.drop beginning.length) else none

/-- The text before an ending. -/
def before? (ending text : List Char) : Option (List Char) :=
  if ending.isSuffixOf text then some (text.take (text.length - ending.length)) else none

/-- A reply whose message is known by a text: `order_` and an id, or an id and `_reply`. -/
def ofTextId? (id : String) (payload : Value) : Option Reply :=
  match after? "order_".toList id.toList with
  | some digits => do
      return ofOrderNotice (← Text.readNat? Number.limit64 digits) payload
  | none =>
      match before? "_reply".toList id.toList with
      | some digits => do
          return ofResultAnswer (← Text.readNat? Number.limit64 digits) payload
      | none => none

/-- The result that the bridge reports on its own. -/
def ofCallback? (result : Value) : Option Reply := do
  let transactionId ← Scalar.natural? (← Scalar.intAt? result "trans_id")
  return ofResult transactionId result

end Reply

end TerminalGateway.Message
