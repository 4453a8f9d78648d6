/-!
# What connections report

A connection reports that it is open, each frame that arrives, the answers to probes, and as its
last word that it has been closed.

Main definitions:

- `CloseReason`: who closed a connection and why.
- `Event`: what a connection reports.
- `Liveness`: how a probe is answered.
-/

namespace TerminalGateway.Transport

/-- Why a connection is closed. -/
inductive CloseReason where
  /-- The terminal ended it. -/
  | peer (text : String)
  /-- It failed. -/
  | error (text : String)
deriving Repr, DecidableEq

/-- The wording of a reason. -/
def CloseReason.message : CloseReason → String
  | .peer text => s!"closed by peer: {text}"
  | .error text => s!"transport error: {text}"

/-- What a connection reports. -/
inductive Event where
  | opened
  /-- The bytes of one message, not yet understood. -/
  | frame (bytes : List UInt8)
  | error (text : String)
  /-- The last report of a connection. -/
  | closed (reason : CloseReason)
  /-- The answer to a probe. -/
  | pong
deriving Repr, DecidableEq

/-- How a probe is answered. -/
inductive Liveness where
  /-- The terminal will answer. -/
  | awaitPong
  /-- The connection knows no probes, and a probe counts as answered. -/
  | immediate
deriving Repr, DecidableEq

end TerminalGateway.Transport
