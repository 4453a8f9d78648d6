import TerminalGateway.Json.Tree
import TerminalGateway.Message.Kind
import TerminalGateway.Text.Encoding

/-!
# Messages

A frame holds one JSON object with the id of its message.  A frame that is not text, not JSON,
no object or without a usable id is refused, and so is later a message that lacks a field.

Main definitions:

- `Message`: an id, the kind it stands for and the payload.
- `DecodeError`: why a frame or a message is refused.
- `Message.decode`: the message in a frame.
-/

namespace TerminalGateway

open TerminalGateway.Json (Value)

/-- Why a frame or a message is refused. -/
inductive DecodeError where
  /-- The bytes are not text in the encoding in use. -/
  | encoding (fault : Text.Utf8.Fault)
  | json
  | notAnObject
  | missingId
  /-- The id is neither a 64-bit number nor a text. -/
  | invalidId (text : String)
  /-- A field is missing or cannot be read. -/
  | field (name : String)
deriving Repr, DecidableEq

/-- The wording of an error. -/
def DecodeError.message : DecodeError → String
  | .encoding fault => s!"Frame text cannot be decoded: {fault.message}"
  | .json => "Malformed JSON"
  | .notAnObject => "Envelope is not a JSON object"
  | .missingId => "Envelope has no message id"
  | .invalidId text => s!"Unsupported message id type: {text}"
  | .field name => s!"Missing or invalid field '{name}'"

/-- A message of the terminal. -/
structure Message where
  id : Message.Id
  kind : Message.Kind
  payload : Value

namespace Message

/-- The message with an id and a payload, classified. -/
def ofPayload (id : Id) (payload : Value) : Message :=
  ⟨id, .classify id payload, payload⟩

/-- The id in a payload: the member `msgid`, or `id` where there is none. -/
def idOf (payload : Value) : Except DecodeError Id :=
  match payload.members? with
  | none => .error .notAnObject
  | some _ =>
      match (payload.get? "msgid").or (payload.get? "id") with
      | none => .error .missingId
      | some .null => .error .missingId
      | some (.number number) =>
          match number.int? with
          | some code => .ok (.code code)
          | none => .error (.invalidId number.text)
      | some (.string name) => .ok (.text name)
      | some other => .error (.invalidId other.text)

/-- The message in the text of a frame. -/
def ofText (text : List Char) : Except DecodeError Message :=
  match Value.read? (Text.trim text) with
  | none => .error .json
  | some payload => (idOf payload).map fun id => ofPayload id payload

/-- The message in a frame. -/
def decode (encoding : Text.Encoding) (frame : List UInt8) : Except DecodeError Message :=
  match encoding.decode frame with
  | .error fault => .error (.encoding fault)
  | .ok text => ofText text

/-- A field of the payload as a whole number. -/
def int? (message : Message) (name : String) : Option Int :=
  Scalar.intAt? message.payload name

/-- A field of the payload as a text. -/
def text? (message : Message) (name : String) : Option String :=
  Scalar.textAt? message.payload name

end Message

end TerminalGateway
