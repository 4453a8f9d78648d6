import TerminalGateway.Gateway.Step
import TerminalGateway.Gateway.Submission
import TerminalGateway.Simulation.Attached
import TerminalGateway.Simulation.Clock

/-!
# A gateway at work

A gateway whose terminal is played within the program, on a clock that is moved by hand.  Between
two requests everything that can happen at the present instant happens: the gateway takes up its
items first, then connections are made, then readers report.

Main definitions:

- `Simulation`: the gateway, its queue, its timers, and what has come of it.
- `Simulation.settle`: everything that can happen at the present instant.
- `Simulation.advance`: the clock moves from timer to timer.
- `Simulation.connect`, `Simulation.submit` and the other requests of callers.
-/

namespace TerminalGateway

open TerminalGateway.Gateway (Item Effect Link Reading)
open TerminalGateway.Simulation (Attached Alarm Clock)
open TerminalGateway.Transport (Hub Line Liveness)

/-- A gateway at work. -/
structure Simulation where
  gateway : Gateway Hub
  queue : Queue Item := {}
  clock : Clock := {}
  /-- The sessions whose connection is to be made. -/
  connecting : List Nat := []
  /-- The readers at work. -/
  readers : List Attached := []
  /-- The owner has not let go of the gateway. -/
  owned : Bool := true
  /-- The number of callers so far. -/
  callers : Nat := 0
  /-- What sinks were given, oldest first. -/
  events : List (SinkId × Event) := []
  /-- What callers were told about their sessions. -/
  answers : List (Nat × Except GatewayError Unit) := []
  /-- The outcomes of transactions, by number of the transaction. -/
  outcomes : List (Nat × Transaction.Outcome) := []

namespace Simulation

/-- How lines take what is written to them. -/
def link : Link Hub where
  send := Hub.send
  ping := Hub.ping
  close := Hub.close

/-- A gateway that has just been started. -/
def start (settings : Settings) (liveness : Liveness) : Simulation where
  gateway := Gateway.start settings { liveness := liveness }
  clock := Clock.set {} settings.sweepInterval .sweep (some settings.sweepInterval)

/-- The lines to the terminal. -/
def hub (s : Simulation) : Hub :=
  s.gateway.world

/-- The simulation with other lines. -/
def withHub (s : Simulation) (hub : Hub) : Simulation :=
  { s with gateway := { s.gateway with world := hub } }

/-- The time as the gateway reads it.  The calendar does not matter. -/
def reading (s : Simulation) : Reading :=
  ⟨s.clock.now, .epoch⟩

/-! ## What a gateway does to others -/

/-- Stops whatever works for a session. -/
def stopSession (s : Simulation) (generation : Nat) : Simulation :=
  let (stopped, others) := s.readers.partition fun reader => reader.generation = generation
  { s.withHub (stopped.foldl (fun hub reader => hub.dropReader reader.line) s.hub) with
    readers := others
    connecting := s.connecting.filter (· ≠ generation) }

/-- Carries out what the gateway does to others. -/
def perform (s : Simulation) : Effect → Simulation
  | .called sink event => { s with events := s.events ++ [(sink, event)] }
  | .startSession generation => { s with connecting := s.connecting ++ [generation] }
  | .stopSession generation => s.stopSession generation
  | .startTicker generation interval =>
      { s with clock := s.clock.set interval (.tick generation) (some interval) }
  | .stopTicker generation => { s with clock := s.clock.cancel (.tick generation) }
  | .retryAfter generation delay =>
      { s with clock := s.clock.set delay (.reconnect generation) none }
  | .answered caller result => { s with answers := s.answers ++ [(caller, result)] }
  | .settled _ resolution =>
      { s with outcomes := s.outcomes ++ [(resolution.transactionId, resolution.outcome)] }
  | .enqueued item => { s with queue := (s.queue.push item).2 }
  | .triggered _ _ => s
  | .wrote _ _ _ => s
  | .probed _ _ => s
  | .closed _ => s
  | .released _ => s

/-- An item that nobody will take up any longer: its writer is let go, its caller is told. -/
def abandon (s : Simulation) : Item → Simulation
  | .sessionReady _ writer => s.withHub (s.hub.dropWriter writer)
  | .connect caller => { s with answers := s.answers ++ [(caller, .error .stopped)] }
  | _ => s

/-- A gateway that has stopped takes nothing from its queue and searches for nothing. -/
def afterStop (s : Simulation) : Simulation :=
  if s.gateway.running then s
  else
    let left := s.queue.items
    left.foldl abandon
      { s with queue := s.queue.close, clock := s.clock.cancel .sweep }

/-- The gateway takes up an item. -/
def process (s : Simulation) (item : Item) : Simulation :=
  let gateway := s.gateway.step link s.reading item
  (gateway.journal.foldl perform { s with gateway := gateway }).afterStop

/-! ## Everything at one instant -/

/-- Makes the connection of a session and sets its reader to work. -/
def makeConnection (s : Simulation) (generation : Nat) : Simulation :=
  match s.hub.connect with
  | (.error error, hub) =>
      { s.withHub hub with queue := (s.queue.push (.connectFailed generation error)).2 }
  | (.ok line, hub) =>
      match s.queue.push (.sessionReady generation line) with
      | (true, queue) =>
          { s.withHub hub with
            queue := queue
            readers := s.readers ++ [⟨line, generation, false⟩] }
      | (false, queue) =>
          { s.withHub ((hub.dropWriter line).dropReader line) with queue := queue }

/-- A reader takes up whatever has arrived. -/
def letRead (s : Simulation) (reader : Attached) : Simulation :=
  let (left, hub, queue) := reader.read s.hub s.queue
  { s.withHub hub with
    queue := queue
    readers := s.readers.flatMap fun other => if other = reader then left.toList else [other] }

/-- The next thing that happens at the present instant, nothing when all is quiet. -/
def turn? (s : Simulation) : Option Simulation :=
  match s.queue.next with
  | (some item, queue) => some ({ s with queue := queue }.process item)
  | (none, _) =>
      match s.connecting with
      | generation :: rest => some ({ s with connecting := rest }.makeConnection generation)
      | [] => (s.readers.find? fun reader => reader.isReady s.hub).map s.letRead

/-- The first argument bounds the number of turns. -/
def turns : Nat → Simulation → Simulation
  | 0, s => s
  | n + 1, s =>
      match s.turn? with
      | some s => turns n s
      | none => s

/-- No more turns than this can follow at one instant: each of what waits, is under way or may be
refused leads to a few of them, and so does each further attempt that the policy allows. -/
def turnBound (s : Simulation) : Nat :=
  let underway := (s.hub.lines.flatMap Line.underway).length
  16 * (4 + s.queue.items.length + s.connecting.length + s.hub.lines.length + underway
    + s.hub.refusals + s.gateway.settings.retry.maxRetries.getD 0)

/-- Everything that can happen at the present instant. -/
def settle (s : Simulation) : Simulation :=
  turns s.turnBound s

/-! ## Time -/

/-- The item that a timer puts into the queue. -/
def itemOf : Alarm → Item
  | .sweep => .expirySweep
  | .tick generation => .heartbeatTick generation
  | .reconnect generation => .reconnect generation

/-- A timer goes off, and everything that follows from it happens. -/
def ring (s : Simulation) (timer : Simulation.Timer) : Simulation :=
  let s := { s with clock := s.clock.ring timer }
  { s with queue := (s.queue.push (itemOf timer.alarm)).2 }.settle

/-- Moves the clock from timer to timer.  The first argument bounds their number. -/
def advanceTo (horizon : Nat) : Nat → Simulation → Simulation
  | 0, s => s
  | n + 1, s =>
      match s.clock.due? horizon with
      | some timer => advanceTo horizon n (s.ring timer)
      | none => s

/-- Moves the clock on by a number of milliseconds.  In each of them a search and a probe may fall
due, and each timer that is set only once goes off once. -/
def advance (s : Simulation) (millis : Nat) : Simulation :=
  let horizon := s.clock.now + Duration.ofMillis millis
  let s := advanceTo horizon (3 * (millis + 1) + s.clock.timers.length) s
  { s with clock := { s.clock with now := horizon } }

/-! ## Requests -/

/-- Puts an item into the queue; tells whether the gateway takes it up. -/
def push (s : Simulation) (item : Item) : Bool × Simulation :=
  let (taken, queue) := s.queue.push item
  (taken, { s with queue := queue })

/-- A caller wants an open session; gives the number of the caller. -/
def connect (s : Simulation) : Nat × Simulation :=
  let caller := s.callers
  match { s with callers := caller + 1 }.push (.connect caller) with
  | (true, s) => (caller, s)
  | (false, s) => (caller, { s with answers := s.answers ++ [(caller, .error .stopped)] })

/-- A caller wants the session closed. -/
def close (s : Simulation) : Simulation :=
  let caller := s.callers
  (s.push (.close caller)).2

/-- A request that needs no answer but that the gateway is there. -/
def request (s : Simulation) (item : Item) : Except GatewayError Unit × Simulation :=
  match s.push item with
  | (true, s) => (.ok (), s)
  | (false, s) => (.error .stopped, s)

/-- A caller submits a transaction. -/
def submit (s : Simulation) (intent : Intent) : Except SendError Nat × Simulation :=
  let (result, gateway) := s.gateway.submit link s.reading s.callers intent
  (result, { s with gateway := gateway })

/-- A caller writes a text of its own. -/
def sendRaw (s : Simulation) (text : String) : Except SendError Unit × Simulation :=
  let (result, gateway) := s.gateway.sendRaw link text
  (result, { s with gateway := gateway })

/-- The owner lets go of the gateway, which stops; tells whether the owner still had it. -/
def letGo (s : Simulation) : Bool × Simulation :=
  if s.owned then (true, ({ s with owned := false }.push .shutdown).2) else (false, s)

/-! ## Observation -/

/-- What has come of a simulation since it was last looked at. -/
structure Observation where
  /-- What terminals got, by number of the line, and whether the client has let go of it. -/
  client : List (Nat × List Transport.Channel.Written × Bool)
  /-- What each sink was given, of those that were given anything. -/
  events : List (SinkId × List Event)
  /-- What callers were told, by number of the caller. -/
  answers : List (Nat × Except GatewayError Unit)
  /-- The outcomes of transactions, by number of the transaction. -/
  outcomes : List (Nat × Transaction.Outcome)

/-- What sinks were given, sink by sink. -/
def eventsBySink (events : List (SinkId × Event)) : List (SinkId × List Event) :=
  let sinks := ((events.map Prod.fst).eraseDups).mergeSort
  sinks.map fun sink => (sink, (events.filter fun entry => entry.1 = sink).map Prod.snd)

/-- Looks at what has come of a simulation. -/
def observe (s : Simulation) : Observation × Simulation :=
  let (client, hub) := s.hub.collect
  ({ client := client
     events := eventsBySink s.events
     answers := s.answers.mergeSort fun x y => x.1 ≤ y.1
     outcomes := s.outcomes.mergeSort fun x y => x.1 ≤ y.1 },
    { s.withHub hub with events := [], answers := [], outcomes := [] })

end Simulation

end TerminalGateway
