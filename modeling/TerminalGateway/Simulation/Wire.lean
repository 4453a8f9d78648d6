import TerminalGateway.Simulation.Attached

/-!
# A connection without a gateway

Lines to a terminal within the program, their readers, and one writer, with a queue that nobody
but the observer takes from.

Main definitions:

- `Wire`: the lines, the readers at work, the writer and the queue.
- `Wire.connect`, `Wire.send`, `Wire.close`, `Wire.take`: what the client does.
- `Wire.settle`: the readers take up whatever has arrived.
-/

namespace TerminalGateway.Simulation

open TerminalGateway.Gateway (Item)
open TerminalGateway.Transport (Hub Liveness)

/-- Lines with their readers, a writer and a queue. -/
structure Wire where
  hub : Hub := {}
  queue : Queue Item := {}
  readers : List Attached := []
  writer : Option Nat := none
  /-- The number of connections made. -/
  generation : Nat := 0

namespace Wire

/-- Each reader takes up whatever has arrived. -/
def settle (wire : Wire) : Wire :=
  wire.readers.foldl (fun wire reader =>
    let (reader, hub, queue) := reader.read wire.hub wire.queue
    { wire with hub := hub, queue := queue, readers := wire.readers ++ reader.toList })
    { wire with readers := [] }

/-- Connects, sets the reader to work and takes the new writer in place of the one before; gives
the number of the connection and whether there was a writer before. -/
def connect (wire : Wire) : Except ConnectError (Nat × Bool) × Wire :=
  match wire.hub.connect with
  | (.error error, hub) => (.error error, { wire with hub := hub })
  | (.ok line, hub) =>
      let generation := wire.generation + 1
      let hub := match wire.writer with
        | some previous => hub.dropWriter previous
        | none => hub
      (.ok (generation, wire.writer.isSome),
        { wire with
          hub := hub
          generation := generation
          writer := some line
          readers := wire.readers ++ [⟨line, generation, false⟩] })

/-- Sends a text. -/
def send (wire : Wire) (text : String) : Except SendError Unit × Wire :=
  match wire.writer with
  | none => (.error .notConnected, wire)
  | some line =>
      let (result, hub) := wire.hub.send line text
      (result, { wire with hub := hub })

/-- Sends a probe. -/
def ping (wire : Wire) : Except SendError Liveness × Wire :=
  match wire.writer with
  | none => (.error .notConnected, wire)
  | some line =>
      let (result, hub) := wire.hub.ping line
      (result, { wire with hub := hub })

/-- Closes the connection, if there is one. -/
def close (wire : Wire) : Wire :=
  match wire.writer with
  | none => wire
  | some line => { wire with hub := wire.hub.close line, writer := none }

/-- Lets go of the writer without closing; tells whether there was one. -/
def take (wire : Wire) : Bool × Wire :=
  match wire.writer with
  | none => (false, wire)
  | some line => (true, { wire with hub := wire.hub.dropWriter line, writer := none })

/-- Puts an item into the queue. -/
def push (wire : Wire) (item : Item) : Bool × Wire :=
  let (taken, queue) := wire.queue.push item
  (taken, { wire with queue := queue })

/-- Everything in the queue, if anybody may take from it, by number of the connection. -/
def drain (wire : Wire) : List Item × Wire :=
  if wire.queue.isOpen then
    (wire.queue.items.mergeSort fun first second => first.generation ≤ second.generation,
      { wire with queue := { wire.queue with items := [], depth := 0 } })
  else ([], wire)

end Wire

end TerminalGateway.Simulation
