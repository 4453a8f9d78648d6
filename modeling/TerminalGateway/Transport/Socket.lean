import TerminalGateway.Failure
import TerminalGateway.Frame
import TerminalGateway.Transport.Address
import TerminalGateway.Transport.Reader

/-!
# Raw sockets

A raw socket carries frames in the encoding of the terminal, each ended by the delimiter.  It
knows no probes.

Main definitions:

- `Socket.react`: the reader of a socket.
- `Socket.outgoing`: the bytes that carry a text.
- `Socket.target`: the host and the service that an address names.
-/

namespace TerminalGateway.Transport.Socket

open TerminalGateway.Frame (Splitter Cut oversizeMessage)

/-- What a read brings. -/
inductive Arrival where
  | bytes (data : List UInt8)
  /-- The terminal sends no more. -/
  | eof
  | failed (text : String)
deriving Repr, DecidableEq

/-- The report about a part of the stream. -/
def report : Cut → Event
  | .frame bytes => .frame bytes
  | .oversize limit => .error (oversizeMessage limit)

/-- The reader of a socket. -/
def react : Reader Splitter Arrival := fun splitter arrival =>
  match arrival with
  | .bytes data =>
      let (cuts, splitter) := splitter.push data
      .goOn (cuts.map report) splitter
  | .eof => .finish [.closed (.peer "eof")]
  | .failed text => .finish [.error text, .closed (.error text)]

/-- The bytes that carry a text. -/
def outgoing (splitter : Splitter) (encoding : Text.Encoding) (text : String) :
    Except SendError (List UInt8) :=
  match encoding.encode? text.toList with
  | some bytes => .ok (splitter.encode bytes)
  | none => .error (.encoding encoding)

/-- The host and the number of the service that an address names, or what is wrong with it. -/
def target (address : String) : Except String (String × Nat) :=
  match Address.splitService? address.toList with
  | none => .error "invalid socket address"
  | some (host, digits) =>
      match Address.readService? digits with
      | none => .error "invalid port value"
      | some service =>
          if host.contains (Char.ofNat 0) then
            .error "file name contained an unexpected NUL byte"
          else .ok (String.ofList host, service)

/-- Why there is no connection to an address, for the given reason unless the address itself is
at fault. -/
def connectError (address reason : String) : ConnectError :=
  let cause := match target address with
    | .error fault => fault
    | .ok _ => reason
  .io s!"{address}: {cause}"

example : target "localhost:80" = .ok ("localhost", 80) := by rfl
example : target "localhost" = .error "invalid socket address" := by rfl

end TerminalGateway.Transport.Socket
