import TerminalGateway.Command.Frames
import TerminalGateway.Gateway.Basic

/-!
# Opening and ending sessions

A session begins with an attempt to connect.  Once the login was accepted and the trade session
is open, the market data of every asset with a sink is asked for again, and the gateway is
connected.  A session ends because it is closed, because the terminal refuses it or because its
connection is lost; only in the last case, and when nobody waits for the session, the gateway
connects again.

Main definitions:

- `Gateway.openSession`, `Gateway.onSessionOpen`: the two ends of the way to a session.
- `Gateway.shut`, `Gateway.onRefused`, `Gateway.onLost`, `Gateway.onConnectFailed`: its ends.
- `Gateway.expire`: the end of transactions that have been pending for too long.
-/

namespace TerminalGateway.Gateway

variable {World : Type}

/-! ## Pending transactions -/

/-- Ends every transaction that has been pending for at least `bound` nanoseconds.  Whoever
submitted one hears of it before any sink. -/
def expire (g : Gateway World) (time : Reading) (bound : Nat) : Gateway World :=
  let (ended, pending) := g.pending.expire time.now bound
  let settled := { g with
    pending := pending
    journal := g.journal ++ ended.map fun (e : Transaction.Completed) =>
      Effect.settled e.issuer e.resolution }
  settled.publishAll (ended.map fun e => .reply e.resolution.notice)

/-- Ends every pending transaction. -/
def expireAll (g : Gateway World) (time : Reading) : Gateway World :=
  g.expire time 0

/-! ## The way to a session -/

/-- Begins a session with an attempt to connect. -/
def openSession (g : Gateway World) : Gateway World :=
  let g := (g.trigger .connect).nextGeneration
  { g with stage := .transport, session := some g.life.generation }.record
    (.startSession g.life.generation)

/-- Logs in as soon as the connection is open. -/
def onOpened (link : Link World) (g : Gateway World) : Gateway World :=
  let credentials := g.settings.credentials
  { g with stage := .auth }.sendAll link
    (Command.handshake g.settings.dialect credentials.login credentials.password
      g.settings.clientVersion)

/-- Asks for the market data of an asset. -/
def requestFeed (link : Link World) (g : Gateway World) (asset : Asset) : Gateway World :=
  match Command.feedRequest g.settings.dialect asset g.settings.feed.period
      g.settings.feed.depth with
  | .ok frames => g.sendAll link frames
  | .error _ => g

/-- Asks for the market data of every asset with a sink. -/
def replay (link : Link World) (g : Gateway World) : Gateway World :=
  g.subscriptions.assets.foldl (fun g asset => g.requestFeed link asset) g

/-- Begins to probe the current session. -/
def startTicker (g : Gateway World) : Gateway World :=
  { g with ticker := some g.life.generation }.record
    (.startTicker g.life.generation g.settings.probeInterval)

/-- The trade session is open. -/
def onSessionOpen (link : Link World) (g : Gateway World) : Gateway World :=
  let g := { g with stage := .established }.trigger .sessionOpened
  let g := { g with
    life := g.life.resetRetries
    heartbeat := g.heartbeat.resetProbes }
  (((g.replay link).trigger .replayDone).startTicker).answer (.ok ())

/-! ## The end of a session -/

/-- Stops the probes of the current session. -/
def stopTicker (g : Gateway World) : Gateway World :=
  match g.ticker with
  | some generation => { g with ticker := none }.record (.stopTicker generation)
  | none => g

/-- Stops the probes and the reader of the current session. -/
def stopTasks (g : Gateway World) : Gateway World :=
  let g := g.stopTicker
  match g.session with
  | some generation => { g with session := none }.record (.stopSession generation)
  | none => g

/-- Says goodbye to the terminal if the session was open. -/
def sayGoodbye (link : Link World) (g : Gateway World) : Gateway World :=
  if g.stage = .established then g.sendAll link (Command.logout g.settings.dialect).toList else g

/-- Takes the current session down.  What it still reports no longer counts. -/
def closeSession (link : Link World) (g : Gateway World) : Gateway World :=
  let g := (((g.stopTasks).sayGoodbye link).closeWriter link).nextGeneration
  { g with stage := .idle }

/-- Closes the connection in any state, but leaves the pending transactions. -/
def disconnect (link : Link World) (g : Gateway World) : Gateway World :=
  if g.state = .disconnected then g.nextGeneration
  else
    (((g.trigger .close).answer (.error .closed)).closeSession link).trigger .closed

/-- Closes the connection in any state and ends every pending transaction.  An attempt to
connect again that was decided on will not be made. -/
def shut (link : Link World) (g : Gateway World) (time : Reading) : Gateway World :=
  (g.disconnect link).expireAll time

/-- The terminal refused the login or the trade session. -/
def onRefused (link : Link World) (g : Gateway World) (time : Reading) (error : AuthError) :
    Gateway World :=
  let g := ((g.trigger .authFailed).closeSession link).trigger .closed
  (g.expireAll time).answer (.error (.auth error))

/-! ## Connecting again -/

/-- Decides on another attempt to connect: at once, after a delay, or never.  When there will be
none, nobody is left to answer the pending transactions. -/
def retry (g : Gateway World) (time : Reading) : Gateway World :=
  match g.life.scheduleRetry with
  | (none, life) => { g with life := life }.expireAll time
  | (some delay, life) =>
      let g := { g with
        life := life
        counters := { g.counters with reconnects := g.counters.reconnects + 1 } }
      if delay = 0 then g.openSession else g.record (.retryAfter g.life.generation delay)

/-- The caller who waits for the session is told why there is none; when nobody waits, another
attempt may be made. -/
def answerOrRetry (g : Gateway World) (time : Reading) (error : ConnectError) : Gateway World :=
  match g.caller with
  | some _ => g.answer (.error (.connect error))
  | none => g.retry time

/-- The connection was not made. -/
def onConnectFailed (g : Gateway World) (time : Reading) (error : ConnectError) :
    Gateway World :=
  ({ g with session := none, stage := .idle }.trigger .connectFailed).answerOrRetry time error

/-- The connection of a session was lost. -/
def onLost (link : Link World) (g : Gateway World) (time : Reading) : Gateway World :=
  if g.state = .disconnected ∨ g.state = .disconnecting then g
  else
    let g := ((g.stopTasks).closeWriter link).nextGeneration
    ({ g with stage := .idle }.trigger .unexpectedClose).answerOrRetry time .closedDuringHandshake

end TerminalGateway.Gateway
