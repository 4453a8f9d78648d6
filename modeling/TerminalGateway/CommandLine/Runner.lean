import TerminalGateway.CommandLine.Report
import TerminalGateway.Gateway.Step
import TerminalGateway.Transport.Outbox

/-!
# The program's own gateway

The program runs one gateway over a raw socket, with one sink that takes every event and is
subscribed to the wildcard and to the assets of the command line.  It logs what the sink is given
and when it is connected.  What is said, wanted and written piles up until somebody takes it.

Main definitions:

- `Runner`: the gateway, the reader's memory, and what the program has said.
- `Runner.take`: the gateway takes up an item.
- `Runner.arrive`: bytes of the terminal arrive.
- `Runner.release`: takes what has piled up.
- `transcript`: a whole conversation with a terminal.
- `refusal`: what happens when there is no terminal.
-/

namespace TerminalGateway.CommandLine

open TerminalGateway.Frame (Splitter)
open TerminalGateway.Gateway (Item Effect Link Reading)
open TerminalGateway.Transport (Outbox)

/-- The program's gateway at work. -/
structure Runner where
  gateway : Gateway Outbox
  incoming : Splitter
  /-- What the program has said, oldest first. -/
  lines : List String := []
  /-- What the gateway wants done and nobody has done yet, oldest first. -/
  wanted : List Effect := []
  /-- The answer to the program's wish for an open session. -/
  answer : Option (Except GatewayError Unit) := none

/-- What a conversation leaves behind. -/
structure Transcript where
  exitCode : Nat
  lines : List String
  /-- All that the terminal got. -/
  written : List UInt8

namespace Runner

/-- How a socket takes what is written to it. -/
def link : Link Outbox where
  send := Outbox.send
  ping := Outbox.ping
  close := Outbox.close

/-- The number of the program's sink. -/
def sink : SinkId :=
  0

/-- The number of the program as a caller. -/
def caller : Nat :=
  0

/-- How the stream of an endpoint is cut into frames.  A WebSocket is never cut, so any choice
will do for it. -/
def framing : Endpoint → String × Nat
  | .webSocket _ => (Frame.defaultDelimiter, Frame.defaultMaxLength)
  | .socket _ delimiter maxLength => (delimiter, maxLength)

/-- A gateway that has just been started; there is none for settings with an empty delimiter. -/
def start (settings : Settings) : Except String Runner := do
  let (delimiter, maxLength) := framing settings.endpoint
  let delimiter := Text.Utf8.encode delimiter.toList
  let outgoing ← Splitter.ofDelimiter delimiter Frame.defaultMaxLength
  return {
    gateway := .start settings { encoding := settings.encoding, splitter := outgoing }
    incoming := ← Splitter.ofDelimiter delimiter maxLength }

/-- What the program says about one thing that its gateway did. -/
def say (runner : Runner) : Effect → Runner
  | .called _ event => { runner with lines := runner.lines ++ (eventLine? event).toList }
  | .answered _ result => { runner with answer := some result }
  | _ => runner

/-- The gateway takes up an item. -/
def take (runner : Runner) (time : Reading) (item : Item) : Runner :=
  let gateway := runner.gateway.step link time item
  gateway.journal.foldl say
    { runner with gateway := gateway, wanted := runner.wanted ++ gateway.journal }

/-- The gateway takes up items in order. -/
def takeAll (runner : Runner) (time : Reading) (items : List Item) : Runner :=
  items.foldl (fun runner item => runner.take time item) runner

/-- What the program wants of its gateway: every asset's events, and an open session. -/
def wishes (assets : List Asset) : List Item :=
  (.any :: assets).map (fun asset => .subscribe asset sink Capability.all) ++ [.connect caller]

/-- The current session's connection was made. -/
def connected (runner : Runner) (time : Reading) : Runner :=
  let generation := runner.gateway.life.generation
  let (writer, world) := runner.gateway.world.connect
  let gateway := { runner.gateway with world := world }
  { runner with
    gateway := gateway
    incoming := { runner.incoming with buffer := [], scanned := 0 } }.takeAll time
    [.sessionReady generation writer, .transport generation .opened]

/-- The current session's connection was not made. -/
def refused (runner : Runner) (time : Reading) (error : ConnectError) : Runner :=
  runner.take time (.connectFailed runner.gateway.life.generation error)

/-- The reader of the current session takes up an arrival. -/
def arrive (runner : Runner) (time : Reading) (arrival : Transport.Socket.Arrival) : Runner :=
  let generation := runner.gateway.life.generation
  let reports (events : List Transport.Event) : List Item := events.map (.transport generation)
  match Transport.Socket.react runner.incoming arrival with
  | .goOn events splitter => { runner with incoming := splitter }.takeAll time (reports events)
  | .finish events => runner.takeAll time (reports events)

/-- The program says more. -/
def print (runner : Runner) (lines : List String) : Runner :=
  { runner with lines := runner.lines ++ lines }

/-- The program is interrupted. -/
def interrupt (runner : Runner) (time : Reading) : Runner :=
  (runner.print (farewellLines runner.gateway.counters)).take time .shutdown

/-- The program gives up because it got no open session. -/
def giveUp (runner : Runner) (time : Reading) (error : GatewayError) : Runner :=
  ((runner.print [failureLine error]).take time .shutdown).print [gatewayErrorLine error]

/-- All that has been said, wanted and written since it was last taken. -/
def release (runner : Runner) : List String × List Effect × List UInt8 × Runner :=
  let (bytes, world) := runner.gateway.world.takeBytes
  (runner.lines, runner.wanted, bytes,
    { runner with
      gateway := { runner.gateway with world := world }
      lines := []
      wanted := [] })

/-- The end of a conversation. -/
def finish (runner : Runner) (exitCode : Nat) : Transcript :=
  ⟨exitCode, runner.lines, runner.gateway.world.bytes⟩

end Runner

/-- A conversation with a terminal that says `first` after the login and, once the program is
connected, the texts of `rest`, and then interrupts the program.  Nothing in it takes any time.
A program that `first` leaves without an answer is still waiting when the terminal is gone. -/
def transcript (runner : Runner) (assets : List Asset) (first : List UInt8)
    (rest : List (List UInt8)) : Transcript :=
  let time : Reading := ⟨0, .epoch⟩
  let runner := (runner.takeAll time (Runner.wishes assets)).connected time
  let runner := runner.arrive time (.bytes first)
  match runner.answer with
  | some (.error error) => (runner.giveUp time error).finish 1
  | some (.ok _) =>
      let runner := rest.foldl (fun runner bytes => runner.arrive time (.bytes bytes))
        (runner.print [bannerLine])
      (runner.interrupt time).finish 0
  | none => runner.finish 1

/-- A program whose connection is not made. -/
def refusal (runner : Runner) (assets : List Asset) (error : ConnectError) : Transcript :=
  let time : Reading := ⟨0, .epoch⟩
  let runner := (runner.takeAll time (Runner.wishes assets)).refused time error
  match runner.answer with
  | some (.error error) => (runner.giveUp time error).finish 1
  | _ => runner.finish 1

end TerminalGateway.CommandLine
