import TerminalGateway.Connection.Lifecycle
import TerminalGateway.Gateway.Item
import TerminalGateway.Settings.Basic

/-!
# The state of a gateway

A gateway is a state that changes with every item it takes up.  What it does to others is
written down in a journal: whom it calls, what it writes, what it starts and stops.  Connections
are known by numbers, and how they take what is written to them is left open.

Main definitions:

- `Stage`, `Counters`: the progress of a session, and what has been counted.
- `Effect`: what a gateway does to others.
- `Link`: how connections take what is written to them.
- `Gateway`: the state, and the journal of the item that is being taken up.
- `Gateway.publish`, `Gateway.trigger`: handing out events, and changing the connection's state.
-/

namespace TerminalGateway

namespace Gateway

/-- How far the current session has come. -/
inductive Stage where
  | idle
  /-- The connection is being made. -/
  | transport
  /-- The login has been sent. -/
  | auth
  /-- The login was accepted, the trade session is not yet open. -/
  | sessionOpen
  | established
deriving Repr, DecidableEq

/-- What a gateway counts. -/
structure Counters where
  /-- Frames of the current session. -/
  frames : Nat := 0
  /-- Frames and messages that could not be read. -/
  decodeErrors : Nat := 0
  /-- Messages of no known kind. -/
  unhandled : Nat := 0
  /-- Attempts to connect again that were decided on. -/
  reconnects : Nat := 0
deriving Repr, DecidableEq

/-- What a gateway does to others. -/
inductive Effect where
  /-- Something happened to the connection; the state that it led to, nothing if out of place. -/
  | triggered (trigger : Connection.Trigger) (state : Option Connection.State)
  /-- A sink was given an event. -/
  | called (sink : SinkId) (event : Event)
  | wrote (writer : Nat) (text : String) (result : Except SendError Unit)
  | probed (writer : Nat) (result : Except SendError Transport.Liveness)
  | closed (writer : Nat)
  /-- A connection is to be made and read. -/
  | startSession (generation : Nat)
  /-- The connection need not be made, or read, any longer. -/
  | stopSession (generation : Nat)
  | startTicker (generation interval : Nat)
  | stopTicker (generation : Nat)
  /-- A connection is to be tried again after a delay in nanoseconds. -/
  | retryAfter (generation delay : Nat)
  /-- A caller who wants an open session is answered. -/
  | answered (caller : Nat) (result : Except GatewayError Unit)
  /-- A caller who wants the session closed is answered. -/
  | released (caller : Nat)
  /-- Whoever submitted a transaction learns its outcome. -/
  | settled (issuer : Nat) (resolution : Transaction.Resolution)
  /-- An item goes to the end of the gateway's own queue. -/
  | enqueued (item : Item)

/-- How connections take what is written to them, in a world that it may change. -/
structure Link (World : Type) where
  send : World → Nat → String → Except SendError Unit × World
  ping : World → Nat → Except SendError Transport.Liveness × World
  /-- Closes the connection and lets go of the writer. -/
  close : World → Nat → World

/-- The time as a gateway reads it. -/
structure Reading where
  /-- Nanoseconds since the gateway was started. -/
  now : Nat
  /-- The calendar's moment in UTC. -/
  wall : Calendar.Moment
deriving DecidableEq

end Gateway

open Gateway in
/-- The state of a gateway in a world of connections. -/
structure Gateway (World : Type) where
  settings : Settings
  world : World
  life : Connection.Lifecycle
  stage : Stage := .idle
  subscriptions : Subscriptions := {}
  heartbeat : Connection.Heartbeat := {}
  pending : Transaction.Pending := {}
  counters : Counters := {}
  /-- The writer of the current session. -/
  writer : Option Nat := none
  /-- The caller who waits for an open session. -/
  caller : Option Nat := none
  /-- The session whose connection is being made or read. -/
  session : Option Nat := none
  /-- The session that is being probed. -/
  ticker : Option Nat := none
  running : Bool := true
  /-- What was done to others for the current item, oldest first. -/
  journal : List Effect := []

namespace Gateway

variable {World : Type}

/-- A gateway that has not connected yet. -/
def start (settings : Settings) (world : World) : Gateway World where
  settings := settings
  world := world
  life := { policy := settings.retry }

/-- The state of the connection. -/
def state (g : Gateway World) : Connection.State :=
  g.life.state

/-- Writes down what is done to others. -/
def record (g : Gateway World) (effect : Effect) : Gateway World :=
  { g with journal := g.journal ++ [effect] }

/-- Hands an event to the sinks that it concerns. -/
def publish (g : Gateway World) (event : Event) : Gateway World :=
  { g with
    journal := g.journal ++ (g.subscriptions.publish event).called.map fun sink =>
      .called sink event }

/-- Hands out events in order. -/
def publishAll (g : Gateway World) (events : List Event) : Gateway World :=
  events.foldl publish g

/-- Something happens to the connection.  Sinks hear of a state that differs from the one
before. -/
def trigger (g : Gateway World) (trigger : Connection.Trigger) : Gateway World :=
  let (after, life) := g.life.apply trigger
  let changed := { g with life := life }.record (.triggered trigger after)
  if life.state = g.life.state then changed else changed.publish (.state life.state)

/-- A new session begins; whatever an earlier one still causes no longer counts. -/
def nextGeneration (g : Gateway World) : Gateway World :=
  { g with life := g.life.nextGeneration }

/-- Answers the caller who waits for an open session, if there is one. -/
def answer (g : Gateway World) (result : Except GatewayError Unit) : Gateway World :=
  match g.caller with
  | some caller => { g with caller := none }.record (.answered caller result)
  | none => g

/-! ## Writing -/

/-- Writes a text to the current session. -/
def send (link : Link World) (g : Gateway World) (text : String) :
    Except SendError Unit × Gateway World :=
  match g.writer with
  | none => (.error .notConnected, g)
  | some writer =>
      let (result, world) := link.send g.world writer text
      (result, { g with world := world }.record (.wrote writer text result))

/-- Writes texts to the current session, up to the first that fails. -/
def sendAll (link : Link World) (g : Gateway World) : List String → Gateway World
  | [] => g
  | text :: rest =>
      match g.send link text with
      | (.ok _, g) => g.sendAll link rest
      | (.error _, g) => g

/-- Sends a probe on the current session. -/
def ping (link : Link World) (g : Gateway World) :
    Except SendError Transport.Liveness × Gateway World :=
  match g.writer with
  | none => (.error .notConnected, g)
  | some writer =>
      let (result, world) := link.ping g.world writer
      (result, { g with world := world }.record (.probed writer result))

/-- Closes a connection. -/
def closeLine (link : Link World) (g : Gateway World) (writer : Nat) : Gateway World :=
  { g with world := link.close g.world writer }.record (.closed writer)

/-- Closes the connection of the current session and forgets its writer. -/
def closeWriter (link : Link World) (g : Gateway World) : Gateway World :=
  match g.writer with
  | none => g
  | some writer => { g with writer := none }.closeLine link writer

/-- Makes a writer that of the current session; a connection that it takes over from is
closed. -/
def installWriter (link : Link World) (g : Gateway World) (writer : Nat) : Gateway World :=
  match g.writer with
  | none => { g with writer := some writer }
  | some previous => { g with writer := some writer }.closeLine link previous

end Gateway

end TerminalGateway
