import TerminalGateway.Transport.Event

/-!
# Readers

Each kind of connection has a reader, which turns what arrives into reports.  It first reports
that the connection is open, and stops once it has reported the end or the gateway no longer
listens.

Main definitions:

- `Reaction`: what a reader makes of one arrival.
- `Reader.follow`, `Reader.reports`: what a reader reports of a sequence of arrivals.
-/

namespace TerminalGateway.Transport

/-- What a reader makes of one arrival. -/
inductive Reaction (σ : Type) where
  /-- It reports and reads on. -/
  | goOn (events : List Event) (state : σ)
  /-- It reports for the last time. -/
  | finish (events : List Event)

/-- A reader of arrivals of the type `ι` that remembers a state of the type `σ`. -/
abbrev Reader (σ ι : Type) :=
  σ → ι → Reaction σ

namespace Reader

variable {σ ι : Type}

/-- What a reader tries to report of the given arrivals to a gateway that listens to `patience`
more reports.  A reader that reads on stops at the first report that nobody listens to. -/
def follow (react : Reader σ ι) (patience : Nat) (state : σ) : List ι → List Event
  | [] => []
  | arrival :: rest =>
      match react state arrival with
      | .finish events => events
      | .goOn events next =>
          if events.length ≤ patience then
            events ++ follow react (patience - events.length) next rest
          else events.take (patience + 1)

/-- All that a reader tries to report, from the opening of its connection on. -/
def reports (react : Reader σ ι) (patience : Nat) (state : σ) (arrivals : List ι) : List Event :=
  match patience with
  | 0 => [.opened]
  | patience + 1 => .opened :: follow react patience state arrivals

end Reader

end TerminalGateway.Transport
