import TerminalGateway.Proofs.Queue.Traffic

/-!
# The gauge of a queue

The gauge and the items of a queue change in separate steps, in one order by the producers and in
the other by the consumer.  Whatever comes between these steps, the gauge tells how many items
wait, but for those that are being put or taken at this moment.  It is never counted off at zero,
and an item that is refused leaves no trace in it.

Main definitions:

- `Traffic.IsBalanced`: how the gauge, the items and what was done so far belong together.
- `Traffic.Ahead`: a traffic with one more push under way than another.
- `Traffic.Gauged`: what a run of a queue brings about.

Main results:

- Theorem `Traffic.IsBalanced.step`: a turn keeps the balance.
- Theorem `Traffic.run?_erase`: a refused push may be left out of a run.
- Theorem `Traffic.gauged_of_run`: both, for every run.
-/

namespace TerminalGateway.Traffic

variable {α : Type} {t u next last : Traffic α} {turn : Turn α} {p : Nat} {item : α}

/-! ## The balance -/

/-- The gauge counts the items that wait, those about to be put or refused, and the one that was
taken.  The items that were put are those that were taken and those that wait, in this order, and
each producer's items are put in its own order as long as the consumer is there. -/
structure IsBalanced (t : Traffic α) : Prop where
  depth_eq : t.queue.depth = t.queue.items.length + t.underWay + t.held.toList.length
  accepted_eq : t.accepted = t.taken ++ t.queue.items
  begun_eq : ∀ p, of p t.begun = of p t.accepted ++ of p t.refused ++ t.inHand p
  refused_eq : t.queue.isOpen = true → t.refused = []
  /-- What the consumer holds is the last that it has taken. -/
  held_eq : ∀ item, t.held = some item → t.taken.getLast? = some item

theorem isBalanced_start (α : Type) (count : Nat) : (start α count).IsBalanced where
  depth_eq := by simp [start, underWay, List.countP_replicate, Stage.isUnderWay]
  accepted_eq := rfl
  begun_eq p := by
    have hhand : (start α count).inHand p = [] := by
      by_cases hlt : p < count
      · simp [inHand, start, hlt, Stage.inHand]
      · simp [inHand, start, hlt]
    rw [hhand]
    rfl
  refused_eq _ := rfl
  held_eq _ hheld := by cases hheld

theorem of_nil (p : Nat) : of p ([] : List (Nat × α)) = [] :=
  rfl

theorem of_append (p : Nat) (first rest : List (Nat × α)) :
    of p (first ++ rest) = of p first ++ of p rest :=
  List.filter_append ..

theorem of_self (p : Nat) (item : α) : of p [(p, item)] = [(p, item)] := by
  simp [of]

theorem of_other {other : Nat} (hne : other ≠ p) (item : α) : of other [(p, item)] = [] := by
  simp [of, Ne.symm hne]

/-- The count of pushes under way follows the stage of the producer that takes a step. -/
theorem underWay_set {stage : Stage α} {old : Stage α} (hold : t.producers[p]? = some old)
    (hproducers : u.producers = t.producers.set p stage) :
    u.underWay + old.isUnderWay.toNat = t.underWay + stage.isUnderWay.toNat := by
  rcases List.getElem?_eq_some_iff.mp hold with ⟨hlt, hget⟩
  have hpos : old.isUnderWay = true → 0 < t.producers.countP Stage.isUnderWay := fun h =>
    List.countP_pos_iff.mpr ⟨old, hget ▸ List.getElem_mem hlt, h⟩
  unfold underWay
  rw [hproducers, List.countP_set hlt, hget]
  cases hunder : old.isUnderWay with
  | true =>
      have hsome := hpos hunder
      cases stage.isUnderWay <;> simp <;> omega
  | false => cases stage.isUnderWay <;> simp

/-- The stage of a producer tells what it has in hand. -/
theorem inHand_eq {stage : Stage α} (hstage : t.producers[p]? = some stage) :
    t.inHand p = stage.inHand p := by
  rw [inHand, hstage, Option.elim_some]

/-- The step of a producer concerns only its own items. -/
theorem IsBalanced.begun_eq_set (h : t.IsBalanced) {old stage : Stage α}
    (hold : t.producers[p]? = some old) (hproducers : u.producers = t.producers.set p stage)
    (hself : of p u.begun = of p u.accepted ++ of p u.refused ++ stage.inHand p)
    (hothers : ∀ other ≠ p, of other u.begun = of other t.begun ∧
      of other u.accepted = of other t.accepted ∧ of other u.refused = of other t.refused) :
    ∀ other, of other u.begun = of other u.accepted ++ of other u.refused ++ u.inHand other := by
  intro other
  by_cases hother : other = p
  · subst hother
    have hlt := (List.getElem?_eq_some_iff.mp hold).1
    rw [hself, inHand_eq (by rw [hproducers, List.getElem?_set_self hlt])]
  · rcases hothers other hother with ⟨hbegun, haccepted, hrefused⟩
    have hhand : u.inHand other = t.inHand other := by
      rw [inHand, hproducers, List.getElem?_set_ne (Ne.symm hother), inHand]
    rw [hbegun, haccepted, hrefused, hhand]
    exact h.begun_eq other

namespace IsBalanced

/-- A producer counts its item: one more push is under way. -/
theorem counts (h : t.IsBalanced) (hidle : t.producers[p]? = some .idle) (item : α) :
    (t.counts p item).IsBalanced where
  depth_eq := by
    have hset := underWay_set (u := t.counts p item) hidle rfl
    have hdepth := h.depth_eq
    simp only [Stage.isUnderWay, Bool.toNat_false, Bool.toNat_true] at hset
    simp only [Traffic.counts, Queue.raise] at hset ⊢
    omega
  accepted_eq := h.accepted_eq
  begun_eq := by
    have hbegun := h.begun_eq p
    rw [inHand_eq hidle] at hbegun
    refine h.begun_eq_set hidle rfl ?_ fun other hne => ⟨?_, rfl, rfl⟩
    · simp [Traffic.counts, of_append, of_self, hbegun, Stage.inHand]
    · simp [Traffic.counts, of_append, of_other hne]
  refused_eq := h.refused_eq
  held_eq := h.held_eq

/-- A producer puts its item: it waits and is no longer under way. -/
theorem puts (h : t.IsBalanced) (hcounted : t.producers[p]? = some (.counted item))
    (hopen : t.queue.isOpen = true) : (t.puts p item).IsBalanced where
  depth_eq := by
    have hset := underWay_set (u := t.puts p item) hcounted rfl
    have hdepth := h.depth_eq
    simp only [Stage.isUnderWay, Bool.toNat_false, Bool.toNat_true] at hset
    simp only [Traffic.puts, Queue.offer_of_open hopen, List.length_append,
      List.length_singleton] at hset ⊢
    omega
  accepted_eq := by
    simp only [Traffic.puts, Queue.offer_of_open hopen, h.accepted_eq, List.append_assoc]
  begun_eq := by
    have hbegun := h.begun_eq p
    rw [inHand_eq hcounted, h.refused_eq hopen] at hbegun
    refine h.begun_eq_set hcounted rfl ?_ fun other hne => ⟨rfl, ?_, rfl⟩
    · simp [Traffic.puts, of_append, of_self, hbegun, h.refused_eq hopen, of_nil,
        Stage.inHand]
    · simp [Traffic.puts, of_append, of_other hne]
  refused_eq hstill := h.refused_eq hopen
  held_eq := h.held_eq

/-- A producer has its item refused: it stays under way until the count is taken back. -/
theorem refuses (h : t.IsBalanced) (hcounted : t.producers[p]? = some (.counted item))
    (hclosed : t.queue.isOpen = false) : (t.refuses p item).IsBalanced where
  depth_eq := by
    have hset := underWay_set (u := t.refuses p item) hcounted rfl
    have hdepth := h.depth_eq
    simp only [Stage.isUnderWay, Bool.toNat_true] at hset
    simp only [Traffic.refuses, Queue.offer_of_closed hclosed] at hset ⊢
    omega
  accepted_eq := by
    simp only [Traffic.refuses, Queue.offer_of_closed hclosed, h.accepted_eq]
  begun_eq := by
    have hbegun := h.begun_eq p
    rw [inHand_eq hcounted] at hbegun
    refine h.begun_eq_set hcounted rfl ?_ fun other hne => ⟨rfl, rfl, ?_⟩
    · simp [Traffic.refuses, of_append, of_self, hbegun, Stage.inHand]
    · simp [Traffic.refuses, of_append, of_other hne]
  refused_eq hopen := by
    simp [Traffic.refuses, Queue.offer_of_closed hclosed, hclosed] at hopen
  held_eq := h.held_eq

/-- A refused item is in the gauge until its count is taken back. -/
theorem depth_pos_of_refused (h : t.IsBalanced)
    (hrefused : t.producers[p]? = some (.refused item)) : 0 < t.queue.depth := by
  have hset := underWay_set (u := t.undoes p) hrefused rfl
  have hdepth := h.depth_eq
  simp only [Stage.isUnderWay, Bool.toNat_false, Bool.toNat_true] at hset
  omega

/-- A producer takes its count back: nothing of the refused item is left in the gauge. -/
theorem undoes (h : t.IsBalanced) (hrefused : t.producers[p]? = some (.refused item)) :
    (t.undoes p).IsBalanced where
  depth_eq := by
    have hset := underWay_set (u := t.undoes p) hrefused rfl
    have hdepth := h.depth_eq
    simp only [Stage.isUnderWay, Bool.toNat_false, Bool.toNat_true] at hset
    simp only [Traffic.undoes, Queue.lower] at hset ⊢
    omega
  accepted_eq := h.accepted_eq
  begun_eq := by
    have hbegun := h.begun_eq p
    rw [inHand_eq hrefused] at hbegun
    exact h.begun_eq_set hrefused rfl hbegun fun _ _ => ⟨rfl, rfl, rfl⟩
  refused_eq := h.refused_eq
  held_eq := h.held_eq

/-- The consumer takes an item: it waits no longer and is still in the gauge. -/
theorem takes {item : Nat × α} {rest : List (Nat × α)} (h : t.IsBalanced) (hheld : t.held = none)
    (hopen : t.queue.isOpen = true) (hitems : t.queue.items = item :: rest) :
    (t.takes item).IsBalanced where
  depth_eq := by
    have hdepth := h.depth_eq
    rw [hitems, hheld] at hdepth
    simp only [Traffic.takes, Queue.take_of_open hopen hitems, underWay, Option.toList,
      List.length_cons, List.length_nil] at hdepth ⊢
    omega
  accepted_eq := by
    have haccepted := h.accepted_eq
    rw [hitems] at haccepted
    simp only [Traffic.takes, Queue.take_of_open hopen hitems, haccepted, List.append_assoc,
      List.singleton_append]
  begun_eq := h.begun_eq
  refused_eq _ := h.refused_eq hopen
  held_eq other hother := by
    cases hother
    exact List.getLast?_concat

/-- What the consumer holds is in the gauge until it is counted off. -/
theorem depth_pos_of_held {item : Nat × α} (h : t.IsBalanced) (hheld : t.held = some item) :
    0 < t.queue.depth := by
  have hdepth := h.depth_eq
  rw [hheld, Option.toList_some, List.length_singleton] at hdepth
  omega

/-- The consumer counts its item off. -/
theorem settles {item : Nat × α} (h : t.IsBalanced) (hheld : t.held = some item) :
    t.settles.IsBalanced where
  depth_eq := by
    have hdepth := h.depth_eq
    rw [hheld] at hdepth
    simp only [Traffic.settles, Queue.lower, underWay, Option.toList, List.length_cons,
      List.length_nil] at hdepth ⊢
    omega
  accepted_eq := h.accepted_eq
  begun_eq := h.begun_eq
  refused_eq := h.refused_eq
  held_eq _ hother := by cases hother

/-- The consumer goes: what waits is left and stays in the gauge. -/
theorem closes (h : t.IsBalanced) : t.closes.IsBalanced where
  depth_eq := h.depth_eq
  accepted_eq := h.accepted_eq
  begun_eq := h.begun_eq
  refused_eq hopen := by cases hopen
  held_eq := h.held_eq

/-- A turn keeps the balance. -/
theorem step (h : t.IsBalanced) (hstep : Step t turn next) : next.IsBalanced := by
  cases hstep with
  | count hidle => exact h.counts hidle _
  | put hcounted hopen => exact h.puts hcounted hopen
  | refuse hcounted hclosed => exact h.refuses hcounted hclosed
  | undo hrefused => exact h.undoes hrefused
  | take hheld hopen hitems => exact h.takes hheld hopen hitems
  | settle hheld => exact h.settles hheld
  | close hheld => exact h.closes

/-- A run keeps the balance. -/
theorem run (h : t.IsBalanced) {turns : List (Turn α)} (hrun : t.run? turns = some last) :
    last.IsBalanced :=
  run_induction (fun hbalanced hstep => hbalanced.step (step_of_step? hstep)) hrun h

/-- Nothing waits, goes or comes uncounted: a turn moves the gauge by what it adds, and never
counts it off at zero. -/
theorem depth_step (h : t.IsBalanced) (hstep : Step t turn next) :
    (next.queue.depth : Int) = t.queue.depth + turn.change := by
  cases hstep with
  | count hidle => rfl
  | @put p item hcounted hopen =>
      simp [Traffic.puts, Queue.offer_of_open hopen, Turn.change]
  | @refuse p item hcounted hclosed =>
      simp [Traffic.refuses, Queue.offer_of_closed hclosed, Turn.change]
  | undo hrefused =>
      have hpos := h.depth_pos_of_refused hrefused
      simp only [Traffic.undoes, Queue.lower, Turn.change]
      omega
  | take hheld hopen hitems =>
      simp [Traffic.takes, Queue.depth_take, Turn.change]
  | settle hheld =>
      have hpos := h.depth_pos_of_held hheld
      simp only [Traffic.settles, Queue.lower, Turn.change]
      omega
  | close hheld => simp [Traffic.closes, Queue.close, Turn.change]

/-- Where nobody is between two steps, the gauge tells how many items wait. -/
theorem depth_of_quiet (h : t.IsBalanced) (hunder : t.underWay = 0) (hheld : t.held = none) :
    t.queue.depth = t.queue.items.length := by
  rw [h.depth_eq, hunder, hheld]
  rfl

end IsBalanced

/-- What waits when the consumer is gone is left as it is. -/
theorem items_of_closed (hclosed : t.queue.isOpen = false) (hstep : Step t turn next) :
    next.queue.items = t.queue.items ∧ next.taken = t.taken ∧ next.queue.isOpen = false := by
  cases hstep with
  | count hidle => exact ⟨rfl, rfl, hclosed⟩
  | put hcounted hopen => simp [hclosed] at hopen
  | refuse hcounted _ => simp [refuses, Queue.offer_of_closed hclosed, hclosed]
  | undo hrefused => exact ⟨rfl, rfl, hclosed⟩
  | take hheld hopen hitems => simp [hclosed] at hopen
  | settle hheld => exact ⟨rfl, rfl, hclosed⟩
  | close hheld => exact ⟨rfl, rfl, rfl⟩

/-! ## A refused push -/

/-- A traffic is as another in which one producer, which is idle there, has counted an item. -/
structure Ahead (p : Nat) (stage : Stage α) (t u : Traffic α) : Prop where
  items_eq : t.queue.items = u.queue.items
  isOpen_eq : t.queue.isOpen = u.queue.isOpen
  depth_eq : t.queue.depth = u.queue.depth + 1
  held_eq : t.held = u.held
  producers_eq : t.producers = u.producers.set p stage
  idle : u.producers[p]? = some .idle

namespace Ahead

variable {stage : Stage α}

/-- Other producers are at the same stage in both. -/
theorem getElem?_of_ne (h : Ahead p stage t u) {other : Nat} (hne : other ≠ p) :
    t.producers[other]? = u.producers[other]? := by
  rw [h.producers_eq, List.getElem?_set_ne (Ne.symm hne)]

/-- A step of another producer does not touch the one that is ahead. -/
theorem producers_set (h : Ahead p stage t u) {other : Nat} (hne : other ≠ p)
    (new : Stage α) :
    t.producers.set other new = (u.producers.set other new).set p stage ∧
      (u.producers.set other new)[p]? = some .idle := by
  rw [h.producers_eq, List.set_comm _ _ hne, List.getElem?_set_ne hne]
  exact ⟨rfl, h.idle⟩

/-- Whatever others do, they can do without the push that is under way, and the one traffic stays
ahead of the other by that push. -/
theorem step (h : Ahead p stage t u) (hbalanced : u.IsBalanced)
    (hother : turn.producer? ≠ some p) (hstep : Step t turn next) :
    ∃ after, Step u turn after ∧ Ahead p stage next after := by
  cases hstep with
  | @count other item hidle =>
      have hne : other ≠ p := fun heq => hother (congrArg some heq)
      have hset := h.producers_set hne (.counted item)
      refine ⟨u.counts other item, .count (h.getElem?_of_ne hne ▸ hidle), ?_⟩
      refine ⟨h.items_eq, h.isOpen_eq, ?_, h.held_eq, hset.1, hset.2⟩
      simp [counts, Queue.raise, h.depth_eq]
  | @put other item hcounted hopen =>
      have hne : other ≠ p := fun heq => hother (congrArg some heq)
      have hset := h.producers_set hne .idle
      have hopenAfter := h.isOpen_eq ▸ hopen
      refine ⟨u.puts other item, .put (h.getElem?_of_ne hne ▸ hcounted) hopenAfter, ?_⟩
      simp only [puts, Queue.offer_of_open hopen, Queue.offer_of_open hopenAfter]
      exact ⟨congrArg (· ++ _) h.items_eq, h.isOpen_eq, h.depth_eq, h.held_eq, hset.1, hset.2⟩
  | @refuse other item hcounted hclosed =>
      have hne : other ≠ p := fun heq => hother (congrArg some heq)
      have hset := h.producers_set hne (.refused item)
      have hclosedAfter := h.isOpen_eq ▸ hclosed
      refine ⟨u.refuses other item, .refuse (h.getElem?_of_ne hne ▸ hcounted) hclosedAfter, ?_⟩
      simp only [refuses, Queue.offer_of_closed hclosed, Queue.offer_of_closed hclosedAfter]
      exact ⟨h.items_eq, h.isOpen_eq, h.depth_eq, h.held_eq, hset.1, hset.2⟩
  | @undo other item hrefused =>
      have hne : other ≠ p := fun heq => hother (congrArg some heq)
      have hset := h.producers_set hne .idle
      have hrefusedAfter := h.getElem?_of_ne hne ▸ hrefused
      have hpos := hbalanced.depth_pos_of_refused hrefusedAfter
      refine ⟨u.undoes other, .undo hrefusedAfter, ?_⟩
      refine ⟨h.items_eq, h.isOpen_eq, ?_, h.held_eq, hset.1, hset.2⟩
      simp only [undoes, Queue.lower, h.depth_eq]
      omega
  | @take item rest hheld hopen hitems =>
      have hopenAfter := h.isOpen_eq ▸ hopen
      have hitemsAfter := h.items_eq ▸ hitems
      refine ⟨u.takes item, .take (h.held_eq ▸ hheld) hopenAfter hitemsAfter, ?_⟩
      simp only [takes, Queue.take_of_open hopen hitems,
        Queue.take_of_open hopenAfter hitemsAfter]
      exact ⟨rfl, h.isOpen_eq, h.depth_eq, rfl, h.producers_eq, h.idle⟩
  | @settle item hheld =>
      have hheldAfter := h.held_eq ▸ hheld
      have hpos := hbalanced.depth_pos_of_held hheldAfter
      refine ⟨u.settles, .settle hheldAfter, ?_⟩
      refine ⟨h.items_eq, h.isOpen_eq, ?_, rfl, h.producers_eq, h.idle⟩
      simp only [settles, Queue.lower, h.depth_eq]
      omega
  | close hheld =>
      exact ⟨u.closes, .close (h.held_eq ▸ hheld),
        ⟨h.items_eq, rfl, h.depth_eq, h.held_eq, h.producers_eq, h.idle⟩⟩

/-- Others can do without the push that is under way for as long as its producer does nothing. -/
theorem run (h : Ahead p stage t u) (hbalanced : u.IsBalanced) {turns : List (Turn α)}
    (hothers : ∀ turn ∈ turns, turn.producer? ≠ some p) (hrun : t.run? turns = some last) :
    ∃ after, u.run? turns = some after ∧ Ahead p stage last after := by
  induction turns generalizing t u with
  | nil => exact ⟨u, rfl, Option.some.inj hrun ▸ h⟩
  | cons turn rest ih =>
      rcases Option.bind_eq_some_iff.mp hrun with ⟨next, hnext, hrest⟩
      rcases h.step hbalanced (hothers turn List.mem_cons_self) (step_of_step? hnext) with
        ⟨middle, hmiddle, hahead⟩
      rcases ih hahead (hbalanced.step hmiddle)
        (fun other hmem => hothers other (List.mem_cons_of_mem _ hmem)) hrest with
        ⟨after, hafter, hlast⟩
      refine ⟨after, ?_, hlast⟩
      rw [run?_cons, step?_eq_some_iff.mpr hmiddle, Option.bind_some, hafter]

/-- The producer that is ahead has its count taken back: no difference is left. -/
theorem undoes (h : Ahead p stage t u) :
    (t.undoes p).queue = u.queue ∧ (t.undoes p).held = u.held ∧
      (t.undoes p).producers = u.producers := by
  rcases List.getElem?_eq_some_iff.mp h.idle with ⟨hlt, hget⟩
  have hitems := h.items_eq
  have hisOpen := h.isOpen_eq
  have hdepth := h.depth_eq
  refine ⟨?_, h.held_eq, ?_⟩
  · cases htq : t.queue
    cases huq : u.queue
    simp_all [Traffic.undoes, Queue.lower]
  · rw [Traffic.undoes, h.producers_eq, List.set_set, ← hget, List.set_getElem_self]

end Ahead

/-- What others do leaves a producer at its stage. -/
theorem getElem?_of_run {turns : List (Turn α)}
    (hothers : ∀ turn ∈ turns, turn.producer? ≠ some p) (hrun : t.run? turns = some last) :
    last.producers[p]? = t.producers[p]? := by
  induction turns generalizing t with
  | nil => rw [Option.some.inj hrun]
  | cons turn rest ih =>
      rcases Option.bind_eq_some_iff.mp hrun with ⟨next, hnext, hrest⟩
      rw [ih (fun other hmem => hothers other (List.mem_cons_of_mem _ hmem)) hrest]
      have hother := hothers turn List.mem_cons_self
      cases step_of_step? hnext with
      | count _ | put _ _ | refuse _ _ | undo _ =>
          exact List.getElem?_set_ne fun heq => hother (congrArg some heq)
      | take _ _ _ | settle _ | close _ => rfl

/-- A refused push may be left out of a run, whatever came between its steps: the queue with its
gauge, the other producers and the consumer end as they do without it. -/
theorem run?_erase (h : t.IsBalanced) {between after : List (Turn α)}
    (hbetween : ∀ turn ∈ between, turn.producer? ≠ some p)
    (hafter : ∀ turn ∈ after, turn.producer? ≠ some p)
    (hrun : t.run? (.count p item :: between ++ .put p :: after ++ [.undo p]) = some last) :
    ∃ other, t.run? (between ++ after) = some other ∧ other.queue = last.queue ∧
      other.held = last.held ∧ other.producers = last.producers := by
  simp only [List.cons_append, List.append_assoc, run?_cons, run?_append,
    Option.bind_eq_some_iff] at hrun
  rcases hrun with
    ⟨counted, hcount, early, hearly, offered, hput, late, hlate, final, hundo, hfinal⟩
  obtain rfl := Option.some.inj hfinal
  cases step_of_step? hcount with
  | count hidle =>
    have hlt := (List.getElem?_eq_some_iff.mp hidle).1
    have hahead : Ahead p (.counted item) (t.counts p item) t :=
      ⟨rfl, rfl, rfl, rfl, rfl, hidle⟩
    rcases hahead.run h hbetween hearly with ⟨early', hearly', hahead⟩
    cases step_of_step? hundo with
    | undo hrefused =>
      rw [getElem?_of_run hafter hlate] at hrefused
      cases step_of_step? hput with
      | put hcounted _ =>
          have hlt := (List.getElem?_eq_some_iff.mp hcounted).1
          simp [puts, hlt] at hrefused
      | @refuse _ refused hcounted hclosed =>
          have hahead : Ahead p (.refused refused) (early.refuses p refused) early' := by
            refine ⟨?_, ?_, ?_, hahead.held_eq, ?_, hahead.idle⟩ <;>
              simp only [refuses, Queue.offer_of_closed hclosed]
            · exact hahead.items_eq
            · exact hahead.isOpen_eq
            · exact hahead.depth_eq
            · rw [hahead.producers_eq, List.set_set]
          rcases hahead.run (h.run hearly') hafter hlate with ⟨other, hother, hahead⟩
          rcases hahead.undoes with ⟨hqueue, hheld, hproducers⟩
          refine ⟨other, ?_, hqueue.symm, hheld.symm, hproducers.symm⟩
          rw [run?_append, hearly', Option.bind_some, hother]

/-! ## Every run -/

/-- What a run brings about at a queue that was empty when it began. -/
structure Gauged (count : Nat) (turns : List (Turn α)) (last : Traffic α) : Prop where
  /-- The gauge tells how many items wait, or are left, but for the pushes and the item that are
  under way. -/
  depth_eq : last.queue.depth =
    last.queue.items.length + last.underWay + last.held.toList.length
  depth_of_quiet : last.underWay = 0 → last.held = none →
    last.queue.depth = last.queue.items.length
  /-- The next turn moves the gauge by what it adds; it is never counted off at zero. -/
  depth_step : ∀ turn next, last.step? turn = some next →
    (next.queue.depth : Int) = last.queue.depth + turn.change
  /-- The items that were put are taken in this order, each of them once. -/
  accepted_eq : last.accepted = last.taken ++ last.queue.items
  /-- The items of a producer are taken in its order; they wait, or they were refused. -/
  begun_eq : ∀ p, of p last.begun =
    of p last.taken ++ of p last.queue.items ++ of p last.refused ++ last.inHand p
  /-- None is refused while the consumer is there. -/
  refused_eq : last.queue.isOpen = true → last.refused = []
  /-- What waits when the consumer is gone is left. -/
  left : last.queue.isOpen = false → ∀ turn next, last.step? turn = some next →
    next.queue.items = last.queue.items ∧ next.taken = last.taken
  /-- A push that was refused leaves the gauge, and all else, as they are without it. -/
  erase : ∀ before p item between after,
    turns = before ++ (.count p item :: between ++ .put p :: after ++ [.undo p]) →
      (∀ turn ∈ between ++ after, turn.producer? ≠ some p) →
        ∃ other, (start α count).run? (before ++ (between ++ after)) = some other ∧
          other.queue = last.queue ∧ other.held = last.held ∧ other.producers = last.producers

/-- For any number of producers, whatever comes between their steps and those of the consumer:
the gauge tells how many items wait, up to those under way, and never falls below zero; a refused
push leaves no trace in it; and no item is taken twice, out of its producer's order or, while the
consumer is there, lost. -/
theorem gauged_of_run {count : Nat} {turns : List (Turn α)}
    (hrun : (start α count).run? turns = some last) : Gauged count turns last := by
  have hbalanced : last.IsBalanced := (isBalanced_start α count).run hrun
  refine ⟨hbalanced.depth_eq, hbalanced.depth_of_quiet,
    fun turn next hstep => hbalanced.depth_step (step_of_step? hstep), hbalanced.accepted_eq,
    fun p => ?_, hbalanced.refused_eq, fun hclosed turn next hstep => ?_, ?_⟩
  · rw [hbalanced.begun_eq p, hbalanced.accepted_eq, of_append]
  · have hleft := items_of_closed hclosed (step_of_step? hstep)
    exact ⟨hleft.1, hleft.2.1⟩
  · intro before p item between after hturns hothers
    rw [hturns, run?_append, Option.bind_eq_some_iff] at hrun
    rcases hrun with ⟨middle, hmiddle, hlast⟩
    have hbetween : ∀ turn ∈ between, turn.producer? ≠ some p := fun turn hmem =>
      hothers turn (List.mem_append_left _ hmem)
    have hafter : ∀ turn ∈ after, turn.producer? ≠ some p := fun turn hmem =>
      hothers turn (List.mem_append_right _ hmem)
    rcases run?_erase ((isBalanced_start α count).run hmiddle) hbetween hafter hlast with
      ⟨other, hother, hsame⟩
    refine ⟨other, ?_, hsame⟩
    rw [run?_append, hmiddle, Option.bind_some, hother]

/-- Two producers and the consumer step by step: one item is taken while both are being put, the
other is left when the consumer goes, and the next is refused while a third waits to be. -/
theorem gauged_of_run_closing :
    ∃ last : Traffic String,
      (start String 2).run? [.count 0 "a", .count 1 "b", .put 1, .take, .put 0, .settle, .close,
        .count 1 "c", .count 0 "d", .put 1, .put 0, .undo 1] = some last ∧
      last.queue.items = [(0, "a")] ∧ last.queue.depth = 2 ∧ last.underWay = 1 ∧
      last.taken = [(1, "b")] ∧ last.refused = [(1, "c"), (0, "d")] ∧
      Gauged 2 [.count 0 "a", .count 1 "b", .put 1, .take, .put 0, .settle, .close,
        .count 1 "c", .count 0 "d", .put 1, .put 0, .undo 1] last :=
  ⟨_, rfl, rfl, rfl, rfl, rfl, rfl, gauged_of_run rfl⟩

end TerminalGateway.Traffic
