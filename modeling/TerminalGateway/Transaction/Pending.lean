import TerminalGateway.Intent
import TerminalGateway.Message.Reply

/-!
# Pending transactions

Transactions are numbered before they are sent, and stay pending until a reply decides them or
their time is over.  The first deciding reply counts; a later one is for a transaction that is no
longer known.

Main definitions:

- `Outcome`: how a transaction ends.
- `Resolution`: the end of a transaction; `Notice`: what sinks learn about it.
- `Pending`: the next number and the transactions without an end.
- `Pending.register`, `Pending.deregister`, `Pending.resolve`, `Pending.expire`: what happens to
  them.
-/

namespace TerminalGateway.Transaction

open TerminalGateway.Message (Reply)

/-- How a transaction ends. -/
inductive Outcome where
  | accepted (orderNumber : Option String)
  | rejected (text : String)
  /-- A reply to a transaction that is not pending. -/
  | unrecognized
  | timedOut
deriving Repr, DecidableEq

/-- The end of a transaction. -/
structure Resolution where
  transactionId : Nat
  /-- Absent for a transaction that was not pending. -/
  intent : Option Intent
  outcome : Outcome
deriving DecidableEq

/-- What sinks learn about the end of a transaction. -/
structure Notice where
  transactionId : Nat
  asset : Asset
  outcome : Outcome
deriving DecidableEq

/-- The notice of a transaction's end; one that was not pending concerns every asset. -/
def Resolution.notice (resolution : Resolution) : Notice where
  transactionId := resolution.transactionId
  asset := (resolution.intent.map Intent.asset).getD .any
  outcome := resolution.outcome

/-- A transaction without an end. -/
structure Entry where
  transactionId : Nat
  intent : Intent
  /-- When the transaction was submitted, in nanoseconds. -/
  submittedAt : Nat
  /-- Whoever submitted it and waits for its outcome. -/
  issuer : Nat
deriving DecidableEq

/-- A transaction that has ended: who waits for it and how it ended. -/
structure Completed where
  issuer : Nat
  resolution : Resolution
deriving DecidableEq

/-- The end of a pending transaction. -/
def Entry.complete (entry : Entry) (outcome : Outcome) : Completed :=
  ⟨entry.issuer, entry.transactionId, some entry.intent, outcome⟩

/-- What a reply decides. -/
inductive Decision where
  /-- The reply is interim or names no transaction. -/
  | nothing
  /-- The reply ends a pending transaction. -/
  | completed (ended : Completed)
  /-- The reply is for a transaction that is not pending. -/
  | unrecognized (transactionId : Nat)
deriving DecidableEq

/-- The end of a transaction that a decision brings to light. -/
def Decision.resolution? : Decision → Option Resolution
  | .nothing => none
  | .completed ended => some ended.resolution
  | .unrecognized transactionId => some ⟨transactionId, none, .unrecognized⟩

/-- The transactions without an end, and the number of the next transaction. -/
structure Pending where
  nextId : Nat := 1
  entries : List Entry := []
deriving DecidableEq

namespace Pending

/-- The wording of a rejection without a text of its own. -/
def rejectedText : String :=
  "rejected by terminal"

/-- Takes the next number, which is never given again. -/
def takeId (pending : Pending) : Nat × Pending :=
  (pending.nextId, { pending with nextId := pending.nextId + 1 })

/-- The pending transaction with a number. -/
def find? (pending : Pending) (id : Nat) : Option Entry :=
  pending.entries.find? fun entry => entry.transactionId = id

/-- The entries of all transactions but one. -/
def without (pending : Pending) (id : Nat) : Pending :=
  { pending with entries := pending.entries.filter fun entry => entry.transactionId ≠ id }

/-- Makes a transaction pending.  One of the same number makes way for it and is given back. -/
def register (pending : Pending) (entry : Entry) : Option Entry × Pending :=
  let others := pending.without entry.transactionId
  (pending.find? entry.transactionId, { others with entries := others.entries ++ [entry] })

/-- Forgets a transaction that was never sent. -/
def deregister (pending : Pending) (id : Nat) : Option Entry × Pending :=
  (pending.find? id, pending.without id)

/-- What a terminal reply means for its transaction. -/
def outcomeOf (reply : Reply) : Outcome :=
  match reply.status with
  | .accepted => .accepted reply.orderNumber
  | _ => .rejected (reply.text.getD rejectedText)

/-- Matches a reply to its transaction. -/
def resolve (pending : Pending) (reply : Reply) : Decision × Pending :=
  match reply.transactionId with
  | none => (.nothing, pending)
  | some id =>
      if reply.status.isTerminal then
        match pending.find? id with
        | some entry => (.completed (entry.complete (outcomeOf reply)), pending.without id)
        | none => (.unrecognized id, pending)
      else (.nothing, pending)

/-- An entry that has been pending for at least `bound` nanoseconds. -/
def isOverdue (now bound : Nat) (entry : Entry) : Bool :=
  bound ≤ now - entry.submittedAt

/-- Ends every transaction that has been pending for at least `bound` nanoseconds. -/
def expire (pending : Pending) (now bound : Nat) : List Completed × Pending :=
  ((pending.entries.filter (isOverdue now bound)).map fun entry => entry.complete .timedOut,
    { pending with entries := pending.entries.filter fun entry => !isOverdue now bound entry })

end Pending

end TerminalGateway.Transaction
