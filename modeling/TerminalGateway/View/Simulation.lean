import TerminalGateway.Simulation.Run
import TerminalGateway.Simulation.WebSocketWire
import TerminalGateway.View.Failure

/-!
# Views of simulations

What an observer sees of simulated connections, of a gateway at work and of the ends of
transactions.

Main definitions:

- `View.written`: what terminals got.
- `View.finished`: the calls that have finished.
- `View.resolution`: how a transaction ended, with its notice.
- `View.arrival`: a message on a WebSocket.
-/

namespace TerminalGateway.View

open TerminalGateway.Json (Value)

/-- A list under a name, left out when it is empty. -/
def filled (name : String) (values : List Value) : List (String × Value) :=
  if values.isEmpty then [] else [(name, .array values)]

/-- Something that a terminal got. -/
def writtenText : Transport.Channel.Written → Value
  | .text text => .object [("text", .string text)]
  | .ping => .string "ping"
  | .close => .string "close"

/-- What terminals got, one entry for each thing written, by number of the line. -/
def written (seen : List (Nat × List Transport.Channel.Written × Bool)) : List Value :=
  seen.flatMap fun (number, texts, gone) =>
    (texts.map writtenText ++ if gone then [Value.string "gone"] else []).map fun entry =>
      .array [.ofInt number, entry]

/-- The calls that have finished: those for a session, then transactions. -/
def finished (seen : Simulation.Observation) : List Value :=
  let answers := seen.answers.map fun (caller, result) =>
    .array [.string "connect", .ofInt caller, match result with
      | .ok _ => .string "connected"
      | .error error => gatewayError error]
  let outcomes := seen.outcomes.map fun (id, result) =>
    .array [.string "transaction", .ofInt id, outcome result]
  answers ++ outcomes

/-- How far a gateway has come: the state of its connection and what it has counted. -/
def progress (s : Simulation) : List (String × Value) :=
  let counters := s.gateway.counters
  [("state", .string s.gateway.state.name),
    ("stats", .array ([counters.frames, counters.decodeErrors, counters.unhandled,
      counters.reconnects, s.queue.depth].map fun n : Nat => .ofInt n)),
    ("attempts", .ofInt s.hub.attempts)]

/-- How a transaction ended, with the notice that sinks get of it. -/
def resolution (r : Transaction.Resolution) : Value :=
  .object [
    ("id", integer r.transactionId), ("intent", maybe intent r.intent),
    ("outcome", outcome r.outcome), ("event", notice r.notice)]

/-- A message on a WebSocket as the other end gets it. -/
def arrival : Transport.WebSocket.Arrival → Value
  | .text text => .object [("text", .string text)]
  | .binary data => .object [("binary", bytes data)]
  | .ping data => .object [("ping", bytes data)]
  | .pong data => .object [("pong", bytes data)]
  | .close _ => .string "close"
  | .failed text => .object [("error", .string text)]
  | .ended => .string "ended"

end TerminalGateway.View
