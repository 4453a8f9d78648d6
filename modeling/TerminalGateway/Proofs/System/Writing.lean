import TerminalGateway.Gateway.Step
import TerminalGateway.Gateway.Submission

/-!
# What writing changes

Whatever a gateway writes to a connection, it changes nothing of itself: only the world of
connections changes, and the journal tells what was written.

Main definitions:

- `Effect.isWriting`, `Writes`: what is done to a connection, and gateways that differ by it.
- `Submission.filed`: the pending transactions after a step of a submission.

Main results:

- Theorem `writes_sendAll`, `writes_ping`, `writes_replay`, `writes_sayGoodbye`, `writes_sendRaw`:
  the operations that only write.
- Theorem `writes_closeWriter`, `writes_installWriter`: those that only change the writer besides.
- Theorem `Submission.writes_step`: a step of a submission only files transactions besides.
-/

namespace TerminalGateway.Gateway

variable {World : Type}

/-- An effect on a connection. -/
def Effect.isWriting : Effect → Bool
  | .wrote _ _ _ => true
  | .probed _ _ => true
  | .closed _ => true
  | _ => false

/-- The second gateway is the first after it has written something, or nothing. -/
def Writes (g next : Gateway World) : Prop :=
  ∃ world effects, next = { g with world := world, journal := g.journal ++ effects } ∧
    ∀ effect ∈ effects, effect.isWriting = true

/-! ## What only writes -/

theorem Writes.refl (g : Gateway World) : Writes g g :=
  ⟨g.world, [], by simp, by simp⟩

theorem Writes.trans {g middle next : Gateway World} (hfirst : Writes g middle)
    (hsecond : Writes middle next) : Writes g next := by
  rcases hfirst with ⟨_, first, rfl, hfirst⟩
  rcases hsecond with ⟨world, second, rfl, hsecond⟩
  refine ⟨world, first ++ second, by simp, fun effect heffect => ?_⟩
  exact (List.mem_append.mp heffect).elim (hfirst effect) (hsecond effect)

theorem writes_record (g : Gateway World) (world : World) {effect : Effect}
    (h : effect.isWriting = true) : Writes g ({ g with world := world }.record effect) :=
  ⟨world, [effect], rfl, by simpa using h⟩

theorem writes_send (link : Link World) (g : Gateway World) (text : String) :
    Writes g (g.send link text).2 := by
  unfold send
  split
  · exact .refl g
  · exact writes_record g _ rfl

theorem writes_sendAll (link : Link World) (g : Gateway World) (texts : List String) :
    Writes g (g.sendAll link texts) := by
  induction texts generalizing g with
  | nil => exact .refl g
  | cons text rest ih =>
      have hsend := writes_send link g text
      unfold sendAll
      split <;> rename_i result next heq <;> rw [heq] at hsend
      · exact hsend.trans (ih next)
      · exact hsend

theorem writes_ping (link : Link World) (g : Gateway World) : Writes g (g.ping link).2 := by
  unfold ping
  split
  · exact .refl g
  · exact writes_record g _ rfl

theorem writes_closeLine (link : Link World) (g : Gateway World) (writer : Nat) :
    Writes g (g.closeLine link writer) :=
  writes_record g _ rfl

theorem writes_requestFeed (link : Link World) (g : Gateway World) (asset : Asset) :
    Writes g (g.requestFeed link asset) := by
  unfold requestFeed
  split
  · exact writes_sendAll link g _
  · exact .refl g

theorem writes_replay (link : Link World) (g : Gateway World) : Writes g (g.replay link) := by
  unfold replay
  induction g.subscriptions.assets generalizing g with
  | nil => exact .refl g
  | cons asset rest ih => exact (writes_requestFeed link g asset).trans (ih _)

theorem writes_sayGoodbye (link : Link World) (g : Gateway World) :
    Writes g (g.sayGoodbye link) := by
  unfold sayGoodbye
  split
  · exact writes_sendAll link g _
  · exact .refl g

theorem writes_sendRaw (link : Link World) (g : Gateway World) (text : String) :
    Writes g (g.sendRaw link text).2 := by
  unfold sendRaw
  split
  · exact writes_send link g text
  · exact .refl g

/-! ## What changes the writer besides -/

theorem writes_closeWriter (link : Link World) (g : Gateway World) :
    Writes { g with writer := none } (g.closeWriter link) := by
  cases hwriter : g.writer with
  | none =>
      have hsame : { g with writer := none } = g := by rw [← hwriter]
      rw [hsame]
      simp only [closeWriter, hwriter]
      exact .refl g
  | some writer =>
      simp only [closeWriter, hwriter]
      exact writes_closeLine link _ writer

theorem writes_installWriter (link : Link World) (g : Gateway World) (writer : Nat) :
    Writes { g with writer := some writer } (g.installWriter link writer) := by
  unfold installWriter
  split
  · exact .refl _
  · exact writes_closeLine link _ _

end TerminalGateway.Gateway

namespace TerminalGateway.Submission

open TerminalGateway.Gateway
open TerminalGateway.Transaction (Pending)

variable {World : Type}

/-! ## What files transactions besides -/

/-- The pending transactions after a step of a submission. -/
def filed (time : Reading) (pending : Pending) : Submission → Pending
  | .admitted _ _ => pending.takeId.2
  | .numbered issuer intent transactionId _ =>
      (pending.register ⟨transactionId, intent, time.now, issuer⟩).2
  | .failing transactionId _ => (pending.deregister transactionId).2
  | _ => pending

/-- A step of a submission files its transaction, or writes. -/
theorem writes_step (link : Link World) (time : Reading) (g : Gateway World)
    (submission : Submission) :
    Writes { g with pending := submission.filed time g.pending }
      (submission.step link time g).2 := by
  cases submission with
  | waiting issuer intent =>
      simp only [step]
      split <;> exact .refl g
  | admitted issuer intent =>
      simp only [step]
      split <;> exact .refl _
  | writing transactionId frames =>
      cases frames with
      | nil => exact .refl g
      | cons frame frames =>
          have hsend := writes_send link g frame
          rcases hsent : g.send link frame with ⟨result, next⟩
          rw [hsent] at hsend
          cases result with
          | ok _ =>
              simp only [step, hsent]
              exact hsend
          | error _ =>
              simp only [step, hsent]
              exact hsend
  | _ => exact .refl _

end TerminalGateway.Submission
