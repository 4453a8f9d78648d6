import TerminalGateway.Gateway.Item
import TerminalGateway.Queue
import TerminalGateway.Transport.Channel

/-!
# Readers at work

The reader of a line puts its reports into the gateway's queue, under the number of its session,
until the line ends or nobody takes from the queue any longer.

Main definitions:

- `Attached`: a reader at work.
- `Attached.read`: what it makes of all that has arrived.
-/

namespace TerminalGateway.Simulation

open TerminalGateway.Gateway (Item)
open TerminalGateway.Transport (Hub Channel.Arrival Channel.react)

/-- The reader of a line, at work for a session. -/
structure Attached where
  line : Nat
  generation : Nat
  /-- It has reported that the line is open. -/
  begun : Bool := false
deriving Repr, DecidableEq

namespace Attached

/-- Puts reports into the queue, up to the first that is refused; tells whether all were taken. -/
def report (generation : Nat) (queue : Queue Item) : List Transport.Event → Bool × Queue Item
  | [] => (true, queue)
  | event :: rest =>
      match queue.push (.transport generation event) with
      | (true, queue) => report generation queue rest
      | (false, queue) => (false, queue)

/-- Takes up arrivals in order; tells whether the reader goes on after them. -/
def follow (generation : Nat) (queue : Queue Item) : List Channel.Arrival → Bool × Queue Item
  | [] => (true, queue)
  | arrival :: rest =>
      match Channel.react () arrival with
      | .finish events => (false, (report generation queue events).2)
      | .goOn events _ =>
          match report generation queue events with
          | (true, queue) => follow generation queue rest
          | (false, queue) => (false, queue)

/-- The reader has something to do. -/
def isReady (reader : Attached) (hub : Hub) : Bool :=
  !reader.begun || !(hub.arrivals reader.line).isEmpty

/-- Takes up all that has arrived; gives the reader if it goes on. -/
def read (reader : Attached) (hub : Hub) (queue : Queue Item) :
    Option Attached × Hub × Queue Item :=
  let (listened, queue) :=
    if reader.begun then (true, queue) else report reader.generation queue [.opened]
  let (goesOn, queue) :=
    if listened then follow reader.generation queue (hub.arrivals reader.line) else (false, queue)
  if goesOn then (some { reader with begun := true }, hub.clear reader.line, queue)
  else (none, hub.dropReader reader.line, queue)

end Attached

end TerminalGateway.Simulation
