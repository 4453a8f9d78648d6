import TerminalGateway.Event.Messages
import TerminalGateway.View.Failure

/-!
# Views of messages

A message is shown with its id, its kind, its payload as a text, and what it says about the
market or the account.

Main definitions:

- `View.kind`: the kind of a message.
- `View.message`: a message.
-/

namespace TerminalGateway.View

open TerminalGateway.Json (Value)

/-- What a message is about; of a reply also what it says. -/
def kind : Message.Kind → Value
  | .lifecycle kind => lifecycleKinds.view kind
  | .market kind => marketKinds.view kind
  | .account kind => accountKinds.view kind
  | .reply reply =>
      .object [
        ("reply", replyKinds.view reply.kind),
        ("id", maybe (fun id : Nat => integer id) reply.transactionId),
        ("status", statuses.view reply.status), ("order", maybe .string reply.orderNumber),
        ("text", maybe .string reply.text)]
  | .unhandled => .string "unhandled"

/-- The id of a message. -/
def messageId : Message.Id → Value
  | .code number => .object [("int", integer number)]
  | .text name => .object [("text", .string name)]

/-- The events of a message, if it can be read. -/
def decoded : Except DecodeError (List Event) → Value
  | .ok events => .array (events.map event)
  | .error error => decodeError error

/-- What a message says about the market or the account, nothing for other messages. -/
def contents (m : Message) (receivedAt : Calendar.Moment) : List (String × Value) :=
  match m.kind with
  | .market kind => [("events", decoded (Event.ofMarket kind m.payload receivedAt))]
  | .account kind => [("events", decoded (Event.ofAccount kind m.payload))]
  | _ => []

/-- A field of the payload, as a number and as a text. -/
def messageField (m : Message) (name : String) : Value :=
  .array [.string name, maybe integer (m.int? name), maybe .string (m.text? name)]

/-- A message that was received at some moment, with the fields that are asked for. -/
def message (m : Message) (receivedAt : Calendar.Moment) (fields : Option (List String)) : Value :=
  .object ([("id", messageId m.id), ("display", .string m.id.shown), ("kind", kind m.kind),
    ("payload", .string m.payload.text)] ++ contents m receivedAt
    ++ (fields.map fun names => ("fields", .array (names.map (messageField m)))).toList)

end TerminalGateway.View
