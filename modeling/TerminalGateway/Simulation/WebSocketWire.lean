import TerminalGateway.Failure
import TerminalGateway.Transport.WebSocket

/-!
# A WebSocket between two ends

Both ends answer probes and the end of the connection by themselves.  The client answers what it
reads only while it reads, so it leaves the terminal's end of the connection unanswered until it
closes its own side.

Main definitions:

- `WebSocketWire`: how far the connection has come to its end.
- `WebSocketWire.send`, `WebSocketWire.ping`, `WebSocketWire.close`: what the client does, and
  what the terminal gets.
- `WebSocketWire.arrive`, `WebSocketWire.drop`: what the terminal does, and what the reader
  reports of it.
-/

namespace TerminalGateway.Simulation

open TerminalGateway.Transport

/-- How far a connection has come to its end. -/
inductive WebSocketStage where
  | active
  /-- The terminal ended it. -/
  | closedByPeer
  /-- The stream is gone. -/
  | gone
deriving Repr, DecidableEq

/-- A WebSocket. -/
structure WebSocketWire where
  stage : WebSocketStage := .active
  writerHeld : Bool := true
  reading : Bool := true
deriving Repr, DecidableEq

namespace WebSocketWire

/-- Why nothing can be written, nothing if it can. -/
def fault? (wire : WebSocketWire) : Option SendError :=
  if !wire.writerHeld then some .notConnected
  else
    match wire.stage with
    | .active => none
    | .closedByPeer =>
        some (.io "WebSocket protocol error: Sending after closing is not allowed")
    | .gone => some (.io "Trying to work with closed connection")

/-- What the reader reports of an arrival, what the client answers by itself, and the connection
after it. -/
def arrive (wire : WebSocketWire) (arrival : WebSocket.Arrival) :
    List Transport.Event × List WebSocket.Arrival × WebSocketWire :=
  if wire.reading then
    let answers := match arrival with
      | .ping data => [.pong data]
      | _ => []
    match WebSocket.react () arrival with
    | .goOn events _ => (events, answers, wire)
    | .finish events => (events, answers, { wire with stage := .closedByPeer, reading := false })
  else ([], [], wire)

/-- The terminal ends the connection, perhaps with a code and a reason. -/
def peerClose (wire : WebSocketWire) (frame : Option (Nat × String)) :
    List Transport.Event × List WebSocket.Arrival × WebSocketWire :=
  wire.arrive (.close (frame.map fun (code, reason) => WebSocket.closeFrame code reason))

/-- The terminal lets go of the stream without a word. -/
def drop (wire : WebSocketWire) : List Transport.Event × List WebSocket.Arrival × WebSocketWire :=
  let (events, answers, wire) := wire.arrive
    (.failed "WebSocket protocol error: Connection reset without closing handshake")
  (events, answers, { wire with stage := .gone })

/-- Sends a text; gives what the terminal gets. -/
def send (wire : WebSocketWire) (text : String) : Except SendError (List WebSocket.Arrival) :=
  match wire.fault? with
  | some error => .error error
  | none => .ok [.text text]

/-- Sends a probe; gives what the reader reports of its answer, and what the terminal gets. -/
def ping (wire : WebSocketWire) :
    Except SendError (List Transport.Event × List WebSocket.Arrival) :=
  match wire.fault? with
  | some error => .error error
  | none => .ok ((wire.arrive (.pong [])).1, [.ping []])

/-- Closes the client's side; gives what the reader reports of the terminal's answer, and what
the terminal gets. -/
def close (wire : WebSocketWire) : List Transport.Event × List WebSocket.Arrival × WebSocketWire :=
  if wire.writerHeld then
    match wire.stage with
    | .active =>
        let (events, _, wire) := wire.arrive (.close none)
        (events, [.close none], { wire with writerHeld := false })
    | .closedByPeer => ([], [.close none], { wire with writerHeld := false })
    | .gone => ([], [], { wire with writerHeld := false })
  else ([], [], wire)

end WebSocketWire

end TerminalGateway.Simulation
