/-!
# Connection states

The states of the gateway's connection and what moves it from one to another.

- Disconnected to connecting: a connection is asked for.
- Connecting to busy: the trade session is open; busy to connected: the subscriptions have been
  asked for again.
- Connecting, busy or connected to disconnected: the session is lost.
- Connecting, busy or connected to disconnecting, and on to disconnected: the connection is closed
  on request, or while connecting because the terminal refused it.

Main definitions:

- `State`, `Trigger`: states and what happens to them.
- `next?`: the table of transitions; nothing where a trigger is out of place.
-/

namespace TerminalGateway.Connection

/-- The state of the connection. -/
inductive State where
  | disconnected
  | connecting
  | connected
  /-- The session is open and the subscriptions are being asked for again. -/
  | busy
  | disconnecting
deriving Repr, DecidableEq, Inhabited

/-- The name of a state. -/
def State.name : State → String
  | .disconnected => "disconnected"
  | .connecting => "connecting"
  | .connected => "connected"
  | .busy => "busy"
  | .disconnecting => "disconnecting"

/-- What happens to the connection. -/
inductive Trigger where
  | connect
  | connectFailed
  | sessionOpened
  | replayDone
  | unexpectedClose
  | authFailed
  | close
  | closed
deriving Repr, DecidableEq

/-- The state after a trigger. -/
def next? : State → Trigger → Option State
  | .disconnected, .connect => some .connecting
  | .disconnected, .close => some .disconnected
  | .connecting, .connectFailed => some .disconnected
  | .connecting, .sessionOpened => some .busy
  | .connecting, .unexpectedClose => some .disconnected
  | .connecting, .authFailed => some .disconnecting
  | .connecting, .close => some .disconnecting
  | .busy, .replayDone => some .connected
  | .busy, .unexpectedClose => some .disconnected
  | .busy, .close => some .disconnecting
  | .connected, .unexpectedClose => some .disconnected
  | .connected, .close => some .disconnecting
  | .disconnecting, .close => some .disconnecting
  | .disconnecting, .closed => some .disconnected
  | .disconnecting, .unexpectedClose => some .disconnected
  | _, _ => none

end TerminalGateway.Connection
