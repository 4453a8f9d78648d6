import Std.Async.DNS
import Std.Async.Signal
import Std.Async.TCP
import Std.Async.Timer
import Std.Sync.Channel
import TerminalGateway.CommandLine.Runner
import TerminalGateway.Transport.WebSocket

/-!
# The program

Runs the gateway of the command line over a raw socket.  Every decision is the runner's; here its
wishes are carried out: connections are made and read, timers are set, lines are printed.

Main definitions:

- `Happening`: what the world does to the program.
- `Program`: the runner, and what is needed to carry out its wishes.
- `serve`: carries out wishes and waits for what happens, until the program ends.
-/

namespace TerminalGateway.CommandLine

open Std.Async
open Std.Async.TCP.Socket (Client)
open TerminalGateway.Gateway (Effect Item Reading)
open TerminalGateway.Transport.Socket (Arrival)

/-- What the world does to the program. -/
inductive Happening where
  /-- There is something for the gateway to take up. -/
  | item (item : Item)
  /-- The connection of a session was made. -/
  | made (generation : Nat) (client : Client)
  /-- The connection of a session was not made. -/
  | refused (generation : Nat) (error : ConnectError)
  /-- The connection of a session was read. -/
  | arrived (generation : Nat) (arrival : Arrival)
  | interrupted

/-- The runner, and what is needed to carry out its wishes. -/
structure Program where
  runner : Runner
  happenings : Std.CloseableChannel Happening
  /-- When the program was started, in nanoseconds. -/
  startedAt : Nat
  /-- The connection that takes what is written. -/
  client : Option Client := none
  /-- The program has said that it is connected. -/
  welcomed : Bool := false

namespace Program

/-! ## Time -/

/-- The calendar's moment. -/
def wallClock : IO Calendar.Moment := do
  let now ← Std.Time.Timestamp.now
  let millis := now.toMillisecondsSinceUnixEpoch.toInt
  return (Calendar.Moment.epoch.addMillis? millis).getD .epoch

/-- The time as the gateway reads it. -/
def reading (program : Program) : IO Reading := do
  return ⟨(← IO.monoNanosNow) - program.startedAt, ← wallClock⟩

/-- The time as the log shows it, in whole seconds. -/
def logTime : IO String := do
  let now ← wallClock
  let seconds := now.millis / 1000 * 1000
  return ((Calendar.Moment.epoch.addMillis? seconds).getD .epoch).utcText

/-! ## Carrying out wishes -/

/-- Lets something happen once a computation has come to its end. -/
def later (program : Program) (computation : Async Happening) : IO Unit := do
  let announced : Async Unit := do
    let happening ← computation
    discard (program.happenings.send happening)
  discard announced.toIO

/-- Puts an item before the gateway after a number of nanoseconds. -/
def after (program : Program) (nanos : Nat) (item : Item) : IO Unit := do
  program.later do
    sleep (.ofNat (Duration.ceilMillis nanos))
    return .item item

/-- Connects to the first of several addresses that accepts. -/
def connectAny (service : UInt16) : List Std.Net.IPAddr → Async Client
  | [] => throw (IO.userError "no address")
  | address :: rest => do
      let client ← Client.mk
      let target : Std.Net.SocketAddress := match address with
        | .v4 address => .v4 ⟨address, service⟩
        | .v6 address => .v6 ⟨address, service⟩
      try
        client.connect target
        return client
      catch error =>
        if rest.isEmpty then throw error else connectAny service rest

/-- Connects to an address. -/
def connectTo (address : String) : Async Client :=
  match Transport.Socket.target address with
  | .error fault => throw (IO.userError fault)
  | .ok (host, service) => do
      let addresses ← DNS.getAddrInfo host (toString service)
      connectAny service.toUInt16 addresses.toList

/-- Makes the connection of a session. -/
def connect (program : Program) (generation : Nat) : IO Unit := do
  match program.runner.gateway.settings.endpoint with
  | .webSocket url =>
      let error := (Transport.WebSocket.addressFault? url).getD
        (.handshake "WebSocket connections are not supported")
      discard (program.happenings.send (.refused generation error))
  | .socket address _ _ =>
      program.later do
        try
          return .made generation (← connectTo address)
        catch error =>
          return .refused generation (.io s!"{address}: {error}")

/-- The greatest number of bytes that are read at once. -/
def readSize : UInt64 :=
  65536

/-- Reads once from the connection of a session. -/
def read (program : Program) (generation : Nat) (client : Client) : IO Unit :=
  program.later do
    try
      match ← client.recv? readSize with
      | some data => return .arrived generation (.bytes data.toList)
      | none => return .arrived generation .eof
    catch error =>
      return .arrived generation (.failed (toString error))

/-- Carries out one wish. -/
def perform (program : Program) : Effect → IO Unit
  | .startSession generation => program.connect generation
  | .startTicker generation interval => program.after interval (.heartbeatTick generation)
  | .retryAfter generation delay => program.after delay (.reconnect generation)
  | .enqueued item => discard (program.happenings.send (.item item))
  | _ => return ()

/-- Lets go of the connection.  The terminal sees its end; a connection that has already failed
needs none. -/
def hangUp (client : Client) : IO Unit := do
  try client.shutdown.block catch _ => return ()

/-- Prints lines, with the time where they belong to the log. -/
def say (lines : List String) : IO Unit := do
  let time ← logTime
  lines.forM fun line => IO.eprintln (stamped time line)

/-- Carries out everything that the runner wants. -/
def settle (program : Program) : IO Program := do
  let (lines, wanted, bytes, runner) := program.runner.release
  let program := { program with runner := runner }
  say lines
  if let some client := program.client then
    if !bytes.isEmpty then
      try (client.send ⟨bytes.toArray⟩).block catch _ => pure ()
    if runner.gateway.world.current.isNone then
      hangUp client
  wanted.forM program.perform
  if runner.gateway.world.current.isNone then return { program with client := none }
  else return program

/-! ## What happens -/

/-- Waits for an interruption. -/
def awaitInterrupt (program : Program) : IO Unit := do
  let waiter ← Signal.Waiter.mk .sigint false
  let signal ← waiter.wait
  program.later do
    discard (await signal)
    return .interrupted

/-- A timer that is set again as long as it is needed. -/
def setAgain (program : Program) : Item → IO Unit
  | .expirySweep =>
      program.after program.runner.gateway.settings.sweepInterval .expirySweep
  | .heartbeatTick generation =>
      if program.runner.gateway.ticker = some generation then
        program.after program.runner.gateway.settings.probeInterval (.heartbeatTick generation)
      else return ()
  | _ => return ()

/-- The session is the one whose connection is being made or read. -/
def isWanted (program : Program) (generation : Nat) : Bool :=
  program.runner.gateway.session = some generation

/-- The program after something has happened. -/
def onHappening (program : Program) (happening : Happening) : IO Program := do
  let time ← program.reading
  match happening with
  | .item item =>
      let program ← settle { program with runner := program.runner.take time item }
      program.setAgain item
      return program
  | .made generation client =>
      if program.isWanted generation then
        let program ← settle
          { program with runner := program.runner.connected time, client := some client }
        program.read generation client
        return program
      else
        hangUp client
        return program
  | .refused generation error =>
      settle { program with runner := program.runner.take time (.connectFailed generation error) }
  | .arrived generation arrival =>
      if program.isWanted generation then
        let program ← settle { program with runner := program.runner.arrive time arrival }
        if let some client := program.client then
          if program.isWanted generation then program.read generation client
        return program
      else return program
  | .interrupted => settle { program with runner := program.runner.interrupt time }

end Program

/-- Carries out wishes and waits for what happens, until the program ends. -/
partial def serve (program : Program) : IO UInt32 := do
  let some happening ← program.happenings.sync.recv | return 0
  let program ← program.onHappening happening
  if !program.runner.gateway.running then return 0
  match program.runner.answer with
  | some (.error error) =>
      discard (Program.settle
        { program with runner := program.runner.giveUp (← program.reading) error })
      return 1
  | some (.ok _) =>
      if program.welcomed then serve program
      else
        Program.say [bannerLine]
        program.awaitInterrupt
        serve { program with welcomed := true }
  | none => serve program

/-- Starts the gateway and lets it work. -/
def work (settings : Settings) (assets : List Asset) : IO UInt32 := do
  match Runner.start settings with
  | .error message => throw (IO.userError message)
  | .ok runner =>
      let program : Program := {
        runner := runner
        happenings := ← Std.CloseableChannel.new
        startedAt := ← IO.monoNanosNow }
      program.after settings.sweepInterval .expirySweep
      let time ← program.reading
      serve (← Program.settle
        { program with runner := runner.takeAll time (Runner.wishes assets) })

/-- The bytes of a file, if it can be read. -/
def contents? (path : String) : IO (Option (List UInt8)) := do
  try
    return some (← IO.FS.readBinFile path).toList
  catch _ => return none

/-- Follows the arguments. -/
def follow (arguments : List String) : IO (Except Stop (Plan × Settings)) := do
  match Plan.ofArguments arguments with
  | .error stop => return .error stop
  | .ok plan =>
      let file ← match plan.path with
        | some path => contents? path
        | none => pure none
      let login ← IO.getEnv "QUIKGATE_LOGIN"
      let password ← IO.getEnv "QUIKGATE_PASSWORD"
      return (plan.settings file login password).map fun settings => (plan, settings)

end TerminalGateway.CommandLine

open TerminalGateway.CommandLine in
/-- Does what the arguments ask for. -/
def main (arguments : List String) : IO UInt32 := do
  match ← follow arguments with
  | .error stop =>
      stop.lines.forM IO.eprintln
      return stop.exitCode.toUInt32
  | .ok (plan, settings) => work settings plan.assets
