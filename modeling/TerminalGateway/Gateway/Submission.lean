import TerminalGateway.Gateway.Session

/-!
# Submitting transactions

Callers submit transactions besides the queue, in small steps between which a gateway may take
up items: they look at the state, take a number, make the transaction pending, and write its
frames one by one.  A transaction is pending before it is written, so that no reply comes too
early; when a frame cannot be written it is forgotten.

Main definitions:

- `Submission`: how far a submission has come; `Submission.step` takes it further.
- `Gateway.submit`: all steps in one.
- `Gateway.sendRaw`: writing a text of the caller's own.
-/

namespace TerminalGateway

/-- How far a submission has come. -/
inductive Submission where
  /-- The state has not been looked at. -/
  | waiting (issuer : Nat) (intent : Intent)
  /-- The gateway was connected. -/
  | admitted (issuer : Nat) (intent : Intent)
  /-- The transaction has a number and its frames are made. -/
  | numbered (issuer : Nat) (intent : Intent) (transactionId : Nat) (frames : List String)
  /-- The transaction is pending, and these frames are still to be written. -/
  | writing (transactionId : Nat) (frames : List String)
  /-- A frame was not written, and the transaction is still pending. -/
  | failing (transactionId : Nat) (error : SendError)
  /-- The caller was told why the transaction was not sent. -/
  | refused (error : SendError)
  /-- The caller got the number of the transaction and waits for its outcome. -/
  | sent (transactionId : Nat)
deriving DecidableEq

namespace Submission

open Gateway

variable {World : Type}

/-- One step of a submission.  One that is over takes no more. -/
def step (link : Link World) (time : Reading) (g : Gateway World) :
    Submission → Submission × Gateway World
  | .waiting issuer intent =>
      if g.state = .connected then (.admitted issuer intent, g) else (.refused .notConnected, g)
  | .admitted issuer intent =>
      let (transactionId, pending) := g.pending.takeId
      let g := { g with pending := pending }
      match Command.transaction g.settings.dialect transactionId g.settings.account intent with
      | .ok frames => (.numbered issuer intent transactionId frames, g)
      | .error error => (.refused error, g)
  | .numbered issuer intent transactionId frames =>
      let entry := ⟨transactionId, intent, time.now, issuer⟩
      (.writing transactionId frames, { g with pending := (g.pending.register entry).2 })
  | .writing transactionId [] => (.sent transactionId, g)
  | .writing transactionId (frame :: frames) =>
      match g.send link frame with
      | (.ok _, g) => (.writing transactionId frames, g)
      | (.error error, g) => (.failing transactionId error, g)
  | .failing transactionId error =>
      (.refused error, { g with pending := (g.pending.deregister transactionId).2 })
  | .refused error => (.refused error, g)
  | .sent transactionId => (.sent transactionId, g)

/-- Several steps with nothing in between. -/
def steps (link : Link World) (time : Reading) :
    Nat → Submission → Gateway World → Submission × Gateway World
  | 0, submission, g => (submission, g)
  | n + 1, submission, g =>
      let (submission, g) := submission.step link time g
      steps link time n submission g

/-- The steps that end any submission: to look, to take a number, to make it pending, to write at
most two frames, and to tell the caller. -/
def stepCount : Nat :=
  6

end Submission

namespace Gateway

variable {World : Type}

/-- Submits a transaction; gives its number, or why it was not sent. -/
def submit (link : Link World) (g : Gateway World) (time : Reading) (issuer : Nat)
    (intent : Intent) : Except SendError Nat × Gateway World :=
  match Submission.steps link time Submission.stepCount (.waiting issuer intent) g with
  | (.sent transactionId, g) => (.ok transactionId, g)
  | (.refused error, g) => (.error error, g)
  | (_, g) => (.error .notConnected, g)

/-- Writes a text of the caller's own to the open session. -/
def sendRaw (link : Link World) (g : Gateway World) (text : String) :
    Except SendError Unit × Gateway World :=
  if g.state = .connected ∨ g.state = .busy then g.send link text else (.error .notConnected, g)

end Gateway

end TerminalGateway
