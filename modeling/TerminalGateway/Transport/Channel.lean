import TerminalGateway.Failure
import TerminalGateway.Transport.Reader

/-!
# Connections within the program

For tests and dry runs the terminal can be played within the program.  Every connection is a
line with two ends.  The client's end is a writer and a reader, which may be let go separately;
the terminal's end is held by whoever accepted the line.

Main definitions:

- `Channel.react`: the reader of a line.
- `Line`: a connection; what its ends hold and what is under way.
- `Hub`: all lines, and what becomes of the next attempt to connect.
- `Hub.connect`, `Hub.send`, `Hub.ping`, `Hub.close`: what the client does.
- `Hub.deliver`, `Hub.hangUp`, `Hub.collect`: what the terminal does.
-/

namespace TerminalGateway.Transport

namespace Channel

/-- What arrives at the client's end. -/
inductive Arrival where
  | frame (bytes : List UInt8)
  | pong
  | close (reason : String)
  /-- The terminal let go of its end. -/
  | dropped
  /-- The client closed the line itself. -/
  | closedLocally
deriving Repr, DecidableEq

/-- The reader of a line. -/
def react : Reader Unit Arrival := fun _ arrival =>
  match arrival with
  | .frame bytes => .goOn [.frame bytes] ()
  | .pong => .goOn [.pong] ()
  | .close reason => .finish [.closed (.peer reason)]
  | .dropped => .finish [.closed (.peer "terminal peer dropped")]
  | .closedLocally => .finish [.closed (.peer "closed locally")]

/-- What the client wrote. -/
inductive Written where
  | text (text : String)
  | ping
  | close
deriving Repr, DecidableEq

end Channel

/-- A connection within the program. -/
structure Line where
  /-- What the client wrote and the terminal has not yet taken. -/
  written : List Channel.Written := []
  /-- What the terminal sent and the reader has not yet taken. -/
  underway : List Channel.Arrival := []
  terminalHeld : Bool := true
  writerHeld : Bool := true
  readerHeld : Bool := true
  /-- The client closed the line. -/
  closing : Bool := false
  /-- The terminal knows that the writer is gone. -/
  goneNoticed : Bool := false
deriving DecidableEq

namespace Line

/-- The end of a line as its reader sees it, if it has come. -/
def ending? (line : Line) : Option Channel.Arrival :=
  if !line.terminalHeld then some .dropped
  else if line.closing || !line.writerHeld then some .closedLocally
  else none

/-- All that has arrived.  What the terminal sent comes before any end of the line. -/
def arrivals (line : Line) : List Channel.Arrival :=
  line.underway ++ line.ending?.toList

/-- The terminal's view of what happened since it last looked: what the client wrote, and once
whether the writer is gone.  Nobody looks at an end that was let go. -/
def collect (line : Line) : List Channel.Written × Bool × Line :=
  if line.terminalHeld then
    let gone := !line.writerHeld && !line.goneNoticed
    (line.written, gone, { line with written := [], goneNoticed := line.goneNoticed || gone })
  else ([], false, line)

end Line

/-- All lines in the order in which they were made. -/
structure Hub where
  liveness : Liveness := .awaitPong
  lines : List Line := []
  /-- Somebody accepts lines. -/
  listening : Bool := true
  /-- The number of attempts that will be refused. -/
  refusals : Nat := 0
  /-- The number of attempts made, refused ones among them. -/
  attempts : Nat := 0
deriving DecidableEq

namespace Hub

/-- The name of the endpoint. -/
def endpoint : String :=
  "channel://terminal"

/-- The hub with one line changed. -/
def change (hub : Hub) (number : Nat) (f : Line → Line) : Hub :=
  { hub with lines := hub.lines.modify number f }

/-! ## The client -/

/-- An attempt to connect, which gives the number of the new line. -/
def connect (hub : Hub) : Except ConnectError Nat × Hub :=
  let hub := { hub with attempts := hub.attempts + 1 }
  if 0 < hub.refusals then
    (.error (.io "connection refused"), { hub with refusals := hub.refusals - 1 })
  else if hub.listening then
    (.ok hub.lines.length, { hub with lines := hub.lines ++ [({} : Line)] })
  else (.error (.io "no listener"), hub)

/-- Writes to a line, which fails when the terminal has let go of its end. -/
def write (hub : Hub) (number : Nat) (written : Channel.Written) : Except SendError Unit × Hub :=
  match hub.lines[number]? with
  | some line =>
      if line.terminalHeld then
        (.ok (), hub.change number fun line => { line with written := line.written ++ [written] })
      else (.error (.io "terminal peer is gone"), hub)
  | none => (.error .notConnected, hub)

/-- Sends a text. -/
def send (hub : Hub) (number : Nat) (text : String) : Except SendError Unit × Hub :=
  hub.write number (.text text)

/-- Sends a probe, if the terminal is to answer probes. -/
def ping (hub : Hub) (number : Nat) : Except SendError Liveness × Hub :=
  match hub.liveness with
  | .immediate => (.ok .immediate, hub)
  | .awaitPong =>
      let (result, hub) := hub.write number .ping
      (result.map fun _ => .awaitPong, hub)

/-- Lets go of the writer. -/
def dropWriter (hub : Hub) (number : Nat) : Hub :=
  hub.change number fun line => { line with writerHeld := false }

/-- Lets go of the reader; what is under way to it is lost. -/
def dropReader (hub : Hub) (number : Nat) : Hub :=
  hub.change number fun line => { line with readerHeld := false }

/-- All that has arrived on a line. -/
def arrivals (hub : Hub) (number : Nat) : List Channel.Arrival :=
  ((hub.lines[number]?).map Line.arrivals).getD []

/-- The reader has taken all that was under way. -/
def clear (hub : Hub) (number : Nat) : Hub :=
  hub.change number fun line => { line with underway := [] }

/-- Tells the terminal of the end, lets the reader know and lets go of the writer. -/
def close (hub : Hub) (number : Nat) : Hub :=
  ((hub.write number .close).2.change number fun line => { line with closing := true }).dropWriter
    number

/-! ## The terminal -/

/-- The terminal's end of a line, if it is held. -/
def held? (hub : Hub) (number : Nat) : Option Line :=
  (hub.lines[number]?).filter Line.terminalHeld

/-- Sends something to the client; tells whether a reader is there to take it. -/
def deliver (hub : Hub) (number : Nat) (arrival : Channel.Arrival) : Bool × Hub :=
  if (hub.held? number).any Line.readerHeld then
    (true, hub.change number fun line => { line with underway := line.underway ++ [arrival] })
  else (false, hub)

/-- Sends several things to the client; tells whether each was sent. -/
def deliverAll (hub : Hub) (number : Nat) (arrivals : List Channel.Arrival) : Bool × Hub :=
  arrivals.foldl (fun (sent, hub) arrival =>
    let (taken, hub) := hub.deliver number arrival
    (sent && taken, hub)) (true, hub)

/-- Lets go of the terminal's end. -/
def hangUp (hub : Hub) (number : Nat) : Hub :=
  hub.change number fun line => { line with terminalHeld := false }

/-- Accepts no more lines. -/
def stopListening (hub : Hub) : Hub :=
  { hub with listening := false }

/-- What the terminal's ends got since they were last looked at, by number of the line. -/
def collect (hub : Hub) : List (Nat × List Channel.Written × Bool) × Hub :=
  let seen := hub.lines.map Line.collect
  ((List.range seen.length).zip (seen.map fun (written, gone, _) => (written, gone)),
    { hub with lines := seen.map fun (_, _, line) => line })

end Hub

end TerminalGateway.Transport
