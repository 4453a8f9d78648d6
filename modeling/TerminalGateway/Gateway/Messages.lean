import TerminalGateway.Event.Messages
import TerminalGateway.Gateway.Login
import TerminalGateway.Gateway.Session

/-!
# Messages of the terminal

Frames of the current session are decoded and taken up by kind.  What cannot be read is counted
and otherwise without effect.

Main definitions:

- `Gateway.onMessage`: taking up a message.
- `Gateway.onFrame`: taking up a frame.
-/

namespace TerminalGateway.Gateway

open TerminalGateway.Json (Value)
open TerminalGateway.Message (LifecycleKind Reply)

variable {World : Type}

/-- Counts a frame or message that cannot be read. -/
def countDecodeError (g : Gateway World) : Gateway World :=
  { g with counters := { g.counters with decodeErrors := g.counters.decodeErrors + 1 } }

/-- Hands out the events of a message, if it could be read. -/
def publishRead (g : Gateway World) : Except DecodeError (List Event) → Gateway World
  | .ok events => g.publishAll events
  | .error _ => g.countDecodeError

/-- A reply ends its transaction.  Whoever submitted the transaction hears of it before any
sink; sinks also hear of a reply to a transaction that is not pending. -/
def onReply (g : Gateway World) (reply : Reply) : Gateway World :=
  let (decision, pending) := g.pending.resolve reply
  let g := { g with pending := pending }
  let g := match decision with
    | .completed ended => g.record (.settled ended.issuer ended.resolution)
    | _ => g
  match decision.resolution? with
  | some resolution => g.publish (.reply resolution.notice)
  | none => g

/-- The answer to the login.  One that nobody waits for has no effect. -/
def onLogin (link : Link World) (g : Gateway World) (time : Reading) (payload : Value) :
    Gateway World :=
  if g.stage = .auth then
    match loginError? g.settings.dialect payload with
    | some error => g.onRefused link time error
    | none =>
        if g.settings.dialect.authOpensSession then g.onSessionOpen link
        else { g with stage := .sessionOpen }
  else g

/-- The answer about the trade session.  One that nobody waits for has no effect. -/
def onTradeSession (link : Link World) (g : Gateway World) (time : Reading) (payload : Value) :
    Gateway World :=
  if g.stage = .sessionOpen then
    match sessionError? payload with
    | some error => g.onRefused link time error
    | none => g.onSessionOpen link
  else g

/-- Takes up a message about the session itself. -/
def onLifecycle (link : Link World) (g : Gateway World) (time : Reading) (kind : LifecycleKind)
    (payload : Value) : Gateway World :=
  match kind with
  | .auth => g.onLogin link time payload
  | .sessionOpen => g.onTradeSession link time payload
  | .connectionStatus => g
  | .feedAnswer => g

/-- Takes up a message. -/
def onMessage (link : Link World) (g : Gateway World) (time : Reading) (message : Message) :
    Gateway World :=
  match message.kind with
  | .lifecycle kind => g.onLifecycle link time kind message.payload
  | .market kind => g.publishRead (Event.ofMarket kind message.payload time.wall)
  | .account kind => g.publishRead (Event.ofAccount kind message.payload)
  | .reply reply => g.onReply reply
  | .unhandled =>
      { g with counters := { g.counters with unhandled := g.counters.unhandled + 1 } }

/-- Takes up a frame of the current session. -/
def onFrame (link : Link World) (g : Gateway World) (time : Reading) (bytes : List UInt8) :
    Gateway World :=
  let g := { g with counters := { g.counters with frames := g.counters.frames + 1 } }
  match Message.decode g.settings.encoding bytes with
  | .ok message => g.onMessage link time message
  | .error _ => g.countDecodeError

end TerminalGateway.Gateway
