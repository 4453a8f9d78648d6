import TerminalGateway.Failure
import TerminalGateway.Transport.Address
import TerminalGateway.Transport.Reader

/-!
# WebSockets

On a WebSocket every message is a frame of its own, be it text or binary.  Probes and their
answers are messages of the protocol, and so is the end of the connection, which may carry a
code and a reason.

Main definitions:

- `WebSocket.react`: the reader of a WebSocket.
- `WebSocket.closeFrame`: the end as it is understood.
- `WebSocket.addressFault?`: what is wrong with an address.
-/

namespace TerminalGateway.Transport.WebSocket

/-- What arrives on a WebSocket. -/
inductive Arrival where
  | text (text : String)
  | binary (data : List UInt8)
  | ping (data : List UInt8)
  | pong (data : List UInt8)
  /-- The end, perhaps with a code and a reason. -/
  | close (frame : Option (Nat × String))
  | failed (text : String)
  /-- The stream ended without a message about it. -/
  | ended
deriving Repr, DecidableEq

/-- A code that a message about the end may carry: those with a meaning that is not reserved for
other uses, and those for libraries and applications. -/
def isCloseCode (code : Nat) : Bool :=
  (1000 ≤ code && code ≤ 1003) || (1007 ≤ code && code ≤ 1013) || (3000 ≤ code && code ≤ 4999)

/-- The end as it is understood: a code that may not be sent counts as a violation of the
protocol. -/
def closeFrame (code : Nat) (reason : String) : Nat × String :=
  if isCloseCode code then (code, reason) else (1002, "Protocol violation")

/-- The wording of the end. -/
def closeText : Option (Nat × String) → String
  | some (code, reason) => code.repr ++ " " ++ reason
  | none => "close frame"

/-- The reader of a WebSocket. -/
def react : Reader Unit Arrival := fun _ arrival =>
  match arrival with
  | .text text => .goOn [.frame (Text.Utf8.encode text.toList)] ()
  | .binary data => .goOn [.frame data] ()
  | .ping _ => .goOn [] ()
  | .pong _ => .goOn [.pong] ()
  | .close frame => .finish [.closed (.peer (closeText frame))]
  | .failed text => .finish [.error text, .closed (.error text)]
  | .ended => .finish [.closed (.peer "stream ended")]

/-- What is wrong with an address: it needs a host, and either one of the two schemes for
WebSockets or the number of a service. -/
def addressFault? (url : String) : Option ConnectError :=
  match Address.read url with
  | .error fault => some (.handshake ("HTTP format error: " ++ fault.message))
  | .ok address =>
      if address.authority.isEmpty then some (.invalidEndpoint "No host name in the URL")
      else if address.service?.isSome || address.scheme = some "ws".toList
          || address.scheme = some "wss".toList then none
      else some (.invalidEndpoint "URL scheme not supported")

end TerminalGateway.Transport.WebSocket
