import TerminalGateway.Gateway.Messages

/-!
# Taking up items

A gateway takes up one item after the other.  What an ended session still causes is told by its
number and passed over.

Main definitions:

- `Gateway.step`: the state after an item, with the journal of that item alone.
- `Gateway.run`: the state after a sequence of items.
-/

namespace TerminalGateway.Gateway

variable {World : Type}

/-- A caller wants an open session; there must not be one or be one under way. -/
def onConnect (g : Gateway World) (caller : Nat) : Gateway World :=
  if g.state = .disconnected then { g with caller := some caller }.openSession
  else g.record (.answered caller (.error (.connect .alreadyConnected)))

/-- A sink subscribes to an asset.  The first sink of an asset makes the gateway ask for its
market data, at once if it is connected. -/
def onSubscribe (link : Link World) (g : Gateway World) (asset : Asset) (sink : SinkId)
    (declared : List Capability) : Gateway World :=
  let (subscribed, subscriptions) := g.subscriptions.subscribe asset sink declared
  let g := { g with subscriptions := subscriptions }
  if subscribed.firstForAsset ∧ g.state = .connected then g.requestFeed link asset else g

/-- A connection was made.  One that is no longer wanted is closed. -/
def onSessionReady (link : Link World) (g : Gateway World) (generation writer : Nat) :
    Gateway World :=
  if g.life.isCurrent generation then g.installWriter link writer else g.closeLine link writer

/-- The answer to a probe.  It is counted in any state, and sinks hear of it while the gateway is
connected. -/
def onPong (g : Gateway World) (time : Reading) : Gateway World :=
  let (beat, heartbeat) := g.heartbeat.onPong time.wall
  let g := { g with heartbeat := heartbeat }
  if g.state = .connected then g.publish (.heartbeat beat) else g

/-- What the connection of the current session reports. -/
def onTransport (link : Link World) (g : Gateway World) (time : Reading) :
    Transport.Event → Gateway World
  | .opened => g.onOpened link
  | .frame bytes => g.onFrame link time bytes
  | .error _ => g
  | .closed _ => g.onLost link time
  | .pong => g.onPong time

/-- Counts a probe. -/
def countProbe (g : Gateway World) : Gateway World :=
  { g with heartbeat := g.heartbeat.onProbe }

/-- Sends a probe.  Where connections know no probes, the answer takes its place at the end of the
queue. -/
def probe (link : Link World) (g : Gateway World) : Gateway World :=
  match g.ping link with
  | (.ok .awaitPong, g) => g.countProbe
  | (.ok .immediate, g) => g.countProbe.record (.enqueued (.transport g.life.generation .pong))
  | (.error _, g) => g

/-- It is time for a probe.  A session with too many unanswered probes is lost. -/
def onTick (link : Link World) (g : Gateway World) (time : Reading) (generation : Nat) :
    Gateway World :=
  if g.life.isCurrent generation ∧ g.state = .connected then
    if g.heartbeat.isOverdue g.settings.probing.limit then g.onLost link time
    else g.probe link
  else g

/-- The delay before an attempt to connect again is over. -/
def onReconnect (g : Gateway World) (generation : Nat) : Gateway World :=
  if g.life.isCurrent generation ∧ g.state = .disconnected then g.openSession else g

/-- The gateway stops for good. -/
def onShutdown (link : Link World) (g : Gateway World) (time : Reading) : Gateway World :=
  { (g.shut link time).answer (.error .stopped) with running := false }

/-- Takes up an item. -/
def handle (link : Link World) (g : Gateway World) (time : Reading) : Item → Gateway World
  | .connect caller => g.onConnect caller
  | .close caller => (g.shut link time).record (.released caller)
  | .subscribe asset sink declared => g.onSubscribe link asset sink declared
  | .unsubscribe asset sink =>
      { g with subscriptions := (g.subscriptions.unsubscribe asset sink).2 }
  | .shutdown => g.onShutdown link time
  | .sessionReady generation writer => g.onSessionReady link generation writer
  | .connectFailed generation error =>
      if g.life.isCurrent generation then g.onConnectFailed time error else g
  | .transport generation event =>
      if g.life.isCurrent generation then g.onTransport link time event else g
  | .heartbeatTick generation => g.onTick link time generation
  | .expirySweep => g.expire time g.settings.timeoutNanos
  | .reconnect generation => g.onReconnect generation

/-- The state after an item, with a journal of what was done for it.  A gateway that has stopped
takes up nothing. -/
def step (link : Link World) (g : Gateway World) (time : Reading) (item : Item) :
    Gateway World :=
  if g.running then { g with journal := [] }.handle link time item else { g with journal := [] }

/-- The state after a sequence of items, each taken up at its time. -/
def run (link : Link World) (g : Gateway World) (items : List (Reading × Item)) :
    Gateway World :=
  items.foldl (fun g item => g.step link item.1 item.2) g

end TerminalGateway.Gateway
