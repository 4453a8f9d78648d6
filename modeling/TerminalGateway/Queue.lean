/-!
# Queues

Many producers put items into a queue from which one consumer takes them in order.  A gauge tells
how many items wait.  A producer first counts its item and then puts it, and takes the count back
if the consumer is gone; the consumer first takes an item and then counts it off.

Main definitions:

- `Queue`: the items that wait, the gauge and whether the consumer is still there.
- `Queue.raise`, `Queue.offer`, `Queue.lower`, `Queue.take`: the single steps.
- `Queue.push`, `Queue.next`: the steps of a producer, and of the consumer, in one.
-/

namespace TerminalGateway

/-- A queue of items for one consumer. -/
structure Queue (α : Type) where
  items : List α := []
  /-- The number of waiting items, as far as it has been counted. -/
  depth : Nat := 0
  /-- The consumer is there. -/
  isOpen : Bool := true

namespace Queue

variable {α : Type}

/-! ## Single steps -/

/-- Counts an item that is about to be put. -/
def raise (q : Queue α) : Queue α :=
  { q with depth := q.depth + 1 }

/-- Puts an item; refused when the consumer is gone. -/
def offer (q : Queue α) (item : α) : Bool × Queue α :=
  if q.isOpen then (true, { q with items := q.items ++ [item] }) else (false, q)

/-- Counts off an item. -/
def lower (q : Queue α) : Queue α :=
  { q with depth := q.depth - 1 }

/-- Takes the first item that waits. -/
def take (q : Queue α) : Option α × Queue α :=
  match q.items with
  | [] => (none, q)
  | item :: rest => if q.isOpen then (some item, { q with items := rest }) else (none, q)

/-- The consumer goes.  What waits is left and never taken. -/
def close (q : Queue α) : Queue α :=
  { q with isOpen := false }

/-! ## Steps in one -/

/-- Puts an item and counts it; tells whether the consumer was still there. -/
def push (q : Queue α) (item : α) : Bool × Queue α :=
  match q.raise.offer item with
  | (true, q) => (true, q)
  | (false, q) => (false, q.lower)

/-- Takes the first item and counts it off. -/
def next (q : Queue α) : Option α × Queue α :=
  match q.take with
  | (some item, q) => (some item, q.lower)
  | (none, q) => (none, q)

/-- A refused item leaves the gauge as it was. -/
theorem depth_push_of_closed {q : Queue α} (h : q.isOpen = false) (item : α) :
    (q.push item).2.depth = q.depth := by
  simp [push, offer, raise, lower, h]

end Queue

end TerminalGateway
