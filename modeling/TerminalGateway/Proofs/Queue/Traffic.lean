import TerminalGateway.Queue
import Mathlib.Data.List.Basic

/-!
# Traffic at a queue

Any number of producers put items into a queue from which its consumer takes them.  Nobody waits
for anybody: between the two or three steps of a producer, and between the two of the consumer,
all others may take steps of theirs.

Main definitions:

- `Traffic`: a queue, how far each producer and the consumer are, and what was done so far.
- `Traffic.Turn`, `Traffic.step?`, `Traffic.run?`: one step of somebody, and a run of steps.

Main results:

- Theorem `Traffic.step?_eq_some_iff`: what a turn does, and when it is due.
- Theorems `Traffic.exists_run_push`, `Traffic.exists_run_next`: steps that nobody comes between.
-/

namespace TerminalGateway

/-! ## Single steps at a queue -/

namespace Queue

variable {α : Type} {q : Queue α} {item : α}

theorem offer_of_open (hopen : q.isOpen = true) :
    q.offer item = (true, { q with items := q.items ++ [item] }) := by
  simp [offer, hopen]

theorem offer_of_closed (hclosed : q.isOpen = false) : q.offer item = (false, q) := by
  simp [offer, hclosed]

theorem take_of_open {rest : List α} (hopen : q.isOpen = true)
    (hitems : q.items = item :: rest) : q.take = (some item, { q with items := rest }) := by
  simp [take, hitems, hopen]

/-- An item is taken just when the consumer is there and the item is the first. -/
theorem take_eq_some_iff :
    q.take.1 = some item ↔ q.isOpen = true ∧ ∃ rest, q.items = item :: rest := by
  unfold take
  split <;> rename_i hitems
  · simp [hitems]
  · cases hopen : q.isOpen with
    | true => simp [hitems]
    | false => simp

/-- Taking an item does not count it off. -/
theorem depth_take : q.take.2.depth = q.depth := by
  unfold take
  split
  · rfl
  · split <;> rfl

end Queue

/-! ## Those who use a queue -/

/-- How far a producer is with an item. -/
inductive Traffic.Stage (α : Type) where
  | idle
  /-- The item was counted and is about to be put. -/
  | counted (item : α)
  /-- The item was refused and is still counted. -/
  | refused (item : α)
deriving DecidableEq

/-- A queue of items, each with the number of its producer, among those who use it. -/
structure Traffic (α : Type) where
  queue : Queue (Nat × α) := {}
  producers : List (Traffic.Stage α)
  /-- The item that the consumer has taken and not counted off yet. -/
  held : Option (Nat × α) := none
  /-- The items that producers have counted, in this order. -/
  begun : List (Nat × α) := []
  /-- The items that were put. -/
  accepted : List (Nat × α) := []
  /-- The items that were refused. -/
  refused : List (Nat × α) := []
  /-- The items that the consumer has taken. -/
  taken : List (Nat × α) := []

namespace Traffic

variable {α : Type}

/-- The producer has counted an item for which nothing waits in the queue. -/
def Stage.isUnderWay : Stage α → Bool
  | .idle => false
  | _ => true

/-- The number of producers that have counted an item and neither put it nor taken the count
back. -/
def underWay (t : Traffic α) : Nat :=
  t.producers.countP Stage.isUnderWay

/-- The item that a producer is about to put. -/
def Stage.inHand (p : Nat) : Stage α → List (Nat × α)
  | .counted item => [(p, item)]
  | _ => []

/-- The item that the producer of a number is about to put. -/
def inHand (t : Traffic α) (p : Nat) : List (Nat × α) :=
  t.producers[p]?.elim [] (Stage.inHand p)

/-- The items of one producer. -/
def of (p : Nat) (items : List (Nat × α)) : List (Nat × α) :=
  items.filter fun item => item.1 == p

/-- An empty queue with a number of producers. -/
def start (α : Type) (count : Nat) : Traffic α where
  producers := .replicate count .idle

/-! ## Turns -/

/-- One step of a producer or of the consumer. -/
inductive Turn (α : Type) where
  /-- A producer counts an item. -/
  | count (p : Nat) (item : α)
  /-- It puts the item. -/
  | put (p : Nat)
  /-- The item was refused: it takes the count back. -/
  | undo (p : Nat)
  /-- The consumer takes the first item. -/
  | take
  /-- It counts the item off. -/
  | settle
  /-- The consumer goes. -/
  | close

/-- The producer whose step a turn is. -/
def Turn.producer? : Turn α → Option Nat
  | .count p _ | .put p | .undo p => some p
  | _ => none

/-- What a turn adds to the gauge. -/
def Turn.change : Turn α → Int
  | .count _ _ => 1
  | .undo _ | .settle => -1
  | _ => 0

/-- A producer has counted an item. -/
def counts (t : Traffic α) (p : Nat) (item : α) : Traffic α :=
  { t with
    queue := t.queue.raise
    producers := t.producers.set p (.counted item)
    begun := t.begun ++ [(p, item)] }

/-- A producer has put its item. -/
def puts (t : Traffic α) (p : Nat) (item : α) : Traffic α :=
  { t with
    queue := (t.queue.offer (p, item)).2
    producers := t.producers.set p .idle
    accepted := t.accepted ++ [(p, item)] }

/-- A producer has its item refused. -/
def refuses (t : Traffic α) (p : Nat) (item : α) : Traffic α :=
  { t with
    queue := (t.queue.offer (p, item)).2
    producers := t.producers.set p (.refused item)
    refused := t.refused ++ [(p, item)] }

/-- A producer has taken its count back. -/
def undoes (t : Traffic α) (p : Nat) : Traffic α :=
  { t with queue := t.queue.lower, producers := t.producers.set p .idle }

/-- The consumer has taken an item. -/
def takes (t : Traffic α) (item : Nat × α) : Traffic α :=
  { t with queue := t.queue.take.2, held := some item, taken := t.taken ++ [item] }

/-- The consumer has counted its item off. -/
def settles (t : Traffic α) : Traffic α :=
  { t with queue := t.queue.lower, held := none }

/-- The consumer is gone. -/
def closes (t : Traffic α) : Traffic α :=
  { t with queue := t.queue.close }

/-- The traffic after a turn, nothing for a turn that is not due.  The consumer does not go while
it holds an item that it has not counted off. -/
def step? (t : Traffic α) : Turn α → Option (Traffic α)
  | .count p item =>
      match t.producers[p]? with
      | some .idle => some (t.counts p item)
      | _ => none
  | .put p =>
      match t.producers[p]? with
      | some (.counted item) =>
          if (t.queue.offer (p, item)).1 then some (t.puts p item) else some (t.refuses p item)
      | _ => none
  | .undo p =>
      match t.producers[p]? with
      | some (.refused _) => some (t.undoes p)
      | _ => none
  | .take =>
      match t.held, t.queue.take.1 with
      | none, some item => some (t.takes item)
      | _, _ => none
  | .settle =>
      match t.held with
      | some _ => some t.settles
      | none => none
  | .close =>
      match t.held with
      | some _ => none
      | none => some t.closes

/-- The traffic after a run, nothing if one of its turns is not due. -/
def run? : Traffic α → List (Turn α) → Option (Traffic α)
  | t, [] => some t
  | t, turn :: rest => (t.step? turn).bind fun next => next.run? rest

/-- What a turn does. -/
inductive Step (t : Traffic α) : Turn α → Traffic α → Prop where
  | count {p : Nat} {item : α} (hidle : t.producers[p]? = some .idle) :
      Step t (.count p item) (t.counts p item)
  | put {p : Nat} {item : α} (hcounted : t.producers[p]? = some (.counted item))
      (hopen : t.queue.isOpen = true) : Step t (.put p) (t.puts p item)
  | refuse {p : Nat} {item : α} (hcounted : t.producers[p]? = some (.counted item))
      (hclosed : t.queue.isOpen = false) : Step t (.put p) (t.refuses p item)
  | undo {p : Nat} {item : α} (hrefused : t.producers[p]? = some (.refused item)) :
      Step t (.undo p) (t.undoes p)
  | take {item : Nat × α} {rest : List (Nat × α)} (hheld : t.held = none)
      (hopen : t.queue.isOpen = true) (hitems : t.queue.items = item :: rest) :
      Step t .take (t.takes item)
  | settle {item : Nat × α} (hheld : t.held = some item) : Step t .settle t.settles
  | close (hheld : t.held = none) : Step t .close t.closes

variable {t next last : Traffic α} {turn : Turn α}

theorem step_of_step? (hstep : t.step? turn = some next) : Step t turn next := by
  cases turn with
  | count p item =>
      simp only [step?] at hstep
      split at hstep <;> rename_i hstage <;> cases hstep
      exact .count hstage
  | put p =>
      simp only [step?] at hstep
      split at hstep <;> rename_i item hstage
      · cases hopen : t.queue.isOpen with
        | true =>
            rw [Queue.offer_of_open hopen] at hstep
            cases hstep
            exact .put hstage hopen
        | false =>
            rw [Queue.offer_of_closed hopen] at hstep
            cases hstep
            exact .refuse hstage hopen
      · cases hstep
  | undo p =>
      simp only [step?] at hstep
      split at hstep <;> rename_i hstage <;> cases hstep
      exact .undo hstage
  | take =>
      simp only [step?] at hstep
      split at hstep <;> rename_i hheld htake <;> cases hstep
      rcases Queue.take_eq_some_iff.mp htake with ⟨hopen, rest, hitems⟩
      exact .take hheld hopen hitems
  | settle =>
      simp only [step?] at hstep
      split at hstep <;> rename_i hheld <;> cases hstep
      exact .settle hheld
  | close =>
      simp only [step?] at hstep
      split at hstep <;> rename_i hheld <;> cases hstep
      exact .close hheld

/-- A turn is due just when it does one of these things. -/
theorem step?_eq_some_iff : t.step? turn = some next ↔ Step t turn next := by
  refine ⟨step_of_step?, fun hstep => ?_⟩
  cases hstep with
  | count hidle => simp [step?, hidle]
  | put hcounted hopen => simp [step?, hcounted, Queue.offer_of_open hopen]
  | refuse hcounted hclosed => simp [step?, hcounted, Queue.offer_of_closed hclosed]
  | undo hrefused => simp [step?, hrefused]
  | take hheld hopen hitems =>
      simp [step?, hheld, Queue.take_of_open hopen hitems]
  | settle hheld => simp [step?, hheld]
  | close hheld => simp [step?, hheld]

/-! ## Runs -/

theorem run?_cons (t : Traffic α) (turn : Turn α) (rest : List (Turn α)) :
    t.run? (turn :: rest) = (t.step? turn).bind fun next => next.run? rest :=
  rfl

/-- A run is a run of its first part, and one of the rest. -/
theorem run?_append (t : Traffic α) (first rest : List (Turn α)) :
    t.run? (first ++ rest) = (t.run? first).bind fun next => next.run? rest := by
  induction first generalizing t with
  | nil => rfl
  | cons turn first ih => simp only [List.cons_append, run?_cons, Option.bind_assoc, ih]

/-- What every turn keeps holds after a run. -/
theorem run_induction {P : Traffic α → Prop}
    (hstep : ∀ {t next : Traffic α} {turn : Turn α}, P t → t.step? turn = some next → P next)
    {turns : List (Turn α)} (hrun : t.run? turns = some last) (h : P t) : P last := by
  induction turns generalizing t with
  | nil => exact Option.some.inj hrun ▸ h
  | cons turn rest ih =>
      rcases Option.bind_eq_some_iff.mp hrun with ⟨next, hnext, hrest⟩
      exact ih hrest (hstep h hnext)

/-! ## Steps that nobody comes between -/

/-- A producer that is left alone puts an item, or has it refused, as in one step. -/
theorem exists_run_push {p : Nat} (hidle : t.producers[p]? = some .idle) (item : α) :
    ∃ turns last, t.run? turns = some last ∧ last.queue = (t.queue.push (p, item)).2 ∧
      last.producers = t.producers ∧
      (if (t.queue.push (p, item)).1 then last.accepted = t.accepted ++ [(p, item)]
        else last.refused = t.refused ++ [(p, item)]) := by
  rcases List.getElem?_eq_some_iff.mp hidle with ⟨hlt, hget⟩
  have hcount : t.step? (.count p item) = _ := step?_eq_some_iff.mpr (.count hidle)
  have hcounted : (t.counts p item).producers[p]? = some (.counted item) := by
    simp [counts, hlt]
  have hback : t.producers.set p .idle = t.producers := by
    rw [← hget, List.set_getElem_self]
  cases hopen : t.queue.isOpen with
  | true =>
      have hput := step?_eq_some_iff.mpr (Step.put hcounted hopen)
      refine ⟨[.count p item, .put p], (t.counts p item).puts p item, ?_, ?_⟩
      · simp [run?, hcount, hput]
      · simp [Queue.push, Queue.offer, Queue.raise, counts, puts, hopen, hback]
  | false =>
      have hput := step?_eq_some_iff.mpr (Step.refuse hcounted hopen)
      have hrefused : ((t.counts p item).refuses p item).producers[p]? =
          some (.refused item) := by
        simp [counts, refuses, hlt]
      have hundo := step?_eq_some_iff.mpr (Step.undo hrefused)
      refine ⟨[.count p item, .put p, .undo p], ((t.counts p item).refuses p item).undoes p,
        ?_, ?_⟩
      · simp [run?, hcount, hput, hundo]
      · simp [Queue.push, Queue.offer, Queue.raise, counts, refuses, undoes, hopen, hback]

/-- A consumer that is left alone takes an item and counts it off as in one step. -/
theorem exists_run_next {item : Nat × α} (hheld : t.held = none)
    (hnext : t.queue.next.1 = some item) :
    ∃ last, t.run? [.take, .settle] = some last ∧ last.queue = t.queue.next.2 ∧
      last.held = none ∧ last.taken = t.taken ++ [item] := by
  unfold Queue.next at hnext ⊢
  split at hnext <;> rename_i first q htake
  · cases hnext
    refine ⟨(t.takes item).settles, ?_, ?_⟩
    · simp [run?, step?, hheld, htake, takes]
    · simp [htake, takes, settles]
  · cases hnext

end Traffic

end TerminalGateway
