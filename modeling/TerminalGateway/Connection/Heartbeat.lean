import TerminalGateway.Calendar.Moment

/-!
# Heartbeats

The gateway probes an open session at regular times and counts the answers.  A session whose
probes stay unanswered for too long is taken for lost.

Main definitions:

- `Beat`: what sinks learn about an answer.
- `Heartbeat`: the count of answers and of probes still unanswered.
-/

namespace TerminalGateway.Connection

open TerminalGateway.Calendar (Moment)

/-- An answer to a probe. -/
structure Beat where
  /-- The number of answers since the gateway was started. -/
  count : Nat
  time : Moment
deriving DecidableEq

/-- The answers and open probes of a gateway. -/
structure Heartbeat where
  last : Option Moment := none
  count : Nat := 0
  /-- Probes sent since the last answer. -/
  unanswered : Nat := 0
deriving DecidableEq

namespace Heartbeat

/-- Counts an answer; no probe is open after it. -/
def onPong (heart : Heartbeat) (now : Moment) : Beat × Heartbeat :=
  (⟨heart.count + 1, now⟩, { last := some now, count := heart.count + 1, unanswered := 0 })

/-- Counts a probe. -/
def onProbe (heart : Heartbeat) : Heartbeat :=
  { heart with unanswered := heart.unanswered + 1 }

/-- More than `limit` probes are open; a limit of zero tolerates any number. -/
def isOverdue (heart : Heartbeat) (limit : Nat) : Bool :=
  0 < limit && limit < heart.unanswered

/-- Forgets the open probes of an earlier session. -/
def resetProbes (heart : Heartbeat) : Heartbeat :=
  { heart with unanswered := 0 }

end Heartbeat

end TerminalGateway.Connection
