import TerminalGateway.Failure
import TerminalGateway.Subscription
import TerminalGateway.Transport.Event

/-!
# What a gateway takes up

Everything that a gateway reacts to goes through one queue: the requests of its callers, what
its connections report, and the reminders of its timers.  What a session causes carries the
number of the session.
-/

namespace TerminalGateway.Gateway

/-- One thing for a gateway to take up. -/
inductive Item where
  /-- A caller wants an open session and waits for it. -/
  | connect (caller : Nat)
  /-- A caller wants the session closed and waits for it. -/
  | close (caller : Nat)
  | subscribe (asset : Asset) (sink : SinkId) (declared : List Capability)
  | unsubscribe (asset : Asset) (sink : SinkId)
  | shutdown
  /-- A connection was made, and this is its writer; its reader reports from now on. -/
  | sessionReady (generation writer : Nat)
  | connectFailed (generation : Nat) (error : ConnectError)
  | transport (generation : Nat) (event : Transport.Event)
  /-- It is time for a probe. -/
  | heartbeatTick (generation : Nat)
  /-- It is time to search for overdue transactions. -/
  | expirySweep
  /-- The delay before an attempt to connect again is over. -/
  | reconnect (generation : Nat)

/-- The number of the session that an item belongs to, zero for an item that belongs to none. -/
def Item.generation : Item → Nat
  | .sessionReady generation _ => generation
  | .connectFailed generation _ => generation
  | .transport generation _ => generation
  | .heartbeatTick generation => generation
  | .reconnect generation => generation
  | _ => 0

end TerminalGateway.Gateway
