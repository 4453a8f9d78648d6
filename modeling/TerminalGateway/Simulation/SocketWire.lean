import TerminalGateway.Transport.Socket

/-!
# A raw socket between two ends

The client's end is a writer and a reader with a splitter each; the terminal's end reads whatever
is written and ends its own side when it likes.  Everything written at once arrives at once.

Main definitions:

- `SocketWire`: the two ends.
- `SocketWire.send`, `SocketWire.close`: what the client does.
- `SocketWire.peerWrite`, `SocketWire.peerClose`: what the terminal does, and what the reader
  reports of it.
-/

namespace TerminalGateway.Simulation

open TerminalGateway.Frame (Splitter)
open TerminalGateway.Transport

/-- A raw socket. -/
structure SocketWire where
  encoding : Text.Encoding
  outgoing : Splitter
  incoming : Splitter
  writerHeld : Bool := true
  /-- The terminal has not ended its side. -/
  peerOpen : Bool := true

namespace SocketWire

/-- A socket that has just been connected.  Only what arrives is limited in length. -/
def connect (delimiter : List UInt8) (encoding : Text.Encoding) (maxLength : Nat) :
    Except String SocketWire := do
  return {
    encoding := encoding
    outgoing := ← Splitter.ofDelimiter delimiter Frame.defaultMaxLength
    incoming := ← Splitter.ofDelimiter delimiter maxLength }

/-- The bytes that the terminal gets for a text. -/
def send (wire : SocketWire) (text : String) : Except SendError (List UInt8) :=
  if wire.writerHeld then Socket.outgoing wire.outgoing wire.encoding text
  else .error .notConnected

/-- A probe, which counts as answered. -/
def ping (wire : SocketWire) : Except SendError Liveness :=
  if wire.writerHeld then .ok .immediate else .error .notConnected

/-- Ends the client's side.  The reader goes on. -/
def close (wire : SocketWire) : SocketWire :=
  { wire with writerHeld := false }

/-- The terminal has seen the end of the client's side. -/
def peerEof (wire : SocketWire) : Bool :=
  !wire.writerHeld

/-- What the reader reports of an arrival, and the socket after it. -/
def arrive (wire : SocketWire) (arrival : Socket.Arrival) : List Transport.Event × SocketWire :=
  match Socket.react wire.incoming arrival with
  | .goOn events splitter => (events, { wire with incoming := splitter })
  | .finish events => (events, { wire with peerOpen := false })

/-- The terminal writes; tells whether its side is open. -/
def peerWrite (wire : SocketWire) (data : List UInt8) : Bool × List Transport.Event × SocketWire :=
  if wire.peerOpen then (true, wire.arrive (.bytes data)) else (false, [], wire)

/-- The terminal ends its side; tells whether it was open. -/
def peerClose (wire : SocketWire) : Bool × List Transport.Event × SocketWire :=
  if wire.peerOpen then (true, wire.arrive .eof) else (false, [], wire)

end SocketWire

end TerminalGateway.Simulation
