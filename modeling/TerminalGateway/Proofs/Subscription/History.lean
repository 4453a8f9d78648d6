import TerminalGateway.Subscription
import Mathlib.Data.List.Induction

/-!
# Histories of subscriptions

What a history of calls says about who is subscribed to what, without regard to how the
subscriptions are kept.  A pair is subscribed if the last call about it was to subscribe; what
lasts since some call is what did not hold before that call and has held ever since.

Main definitions:

- `Call`, `Subscriptions.after`: the calls that change subscriptions, and where they lead.
- `Holds`, `Registered`, `Wanted`: a pair, a sink and an asset after a history.
- `Began`: the call with which something began that has lasted since.
- `InOrder`: a list of what holds, in the order in which it began.

Main results:

- Theorem `Began.exists_of_holds`: what holds after a history has begun with one of its calls.
- Theorem `InOrder.sublist`, `InOrder.concat`: what a call takes from such a list and adds to it.
-/

namespace TerminalGateway

namespace Subscriptions

/-- A call that changes subscriptions. -/
inductive Call where
  /-- What the sink declares at the time of the call goes with it. -/
  | subscribe (asset : Asset) (sink : SinkId) (declared : List Capability)
  | unsubscribe (asset : Asset) (sink : SinkId)
deriving DecidableEq

/-- The subscriptions after a call. -/
def call (subs : Subscriptions) : Call → Subscriptions
  | .subscribe asset sink declared => (subs.subscribe asset sink declared).2
  | .unsubscribe asset sink => (subs.unsubscribe asset sink).2

/-- The subscriptions after a history of calls, oldest first. -/
def after (history : List Call) : Subscriptions :=
  history.foldl call {}

theorem after_concat (history : List Call) (next : Call) :
    after (history ++ [next]) = (after history).call next := by
  simp [after]

/-! ## What holds after a history -/

/-- A sink is subscribed to an asset: it has subscribed, and has not unsubscribed since. -/
def Holds (asset : Asset) (sink : SinkId) (history : List Call) : Prop :=
  ∃ declared before later, history = before ++ .subscribe asset sink declared :: later ∧
    .unsubscribe asset sink ∉ later

/-- A sink is subscribed to some asset. -/
def Registered (sink : SinkId) (history : List Call) : Prop :=
  ∃ asset, Holds asset sink history

/-- An asset other than the wildcard has a sink. -/
def Wanted (asset : Asset) (history : List Call) : Prop :=
  asset ≠ .any ∧ ∃ sink, Holds asset sink history

variable {asset other : Asset} {sink : SinkId} {history : List Call}

theorem not_holds_nil (asset : Asset) (sink : SinkId) : ¬ Holds asset sink [] := by
  rintro ⟨declared, before, later, hhistory, -⟩
  simp at hhistory

/-- Only the last call about a pair matters. -/
theorem holds_concat (asset : Asset) (sink : SinkId) (history : List Call) (next : Call) :
    Holds asset sink (history ++ [next]) ↔
      (∃ declared, next = .subscribe asset sink declared) ∨
        (next ≠ .unsubscribe asset sink ∧ Holds asset sink history) := by
  constructor
  · rintro ⟨declared, before, later, hhistory, hlater⟩
    cases later using List.reverseRecOn with
    | nil =>
        rcases List.append_inj' hhistory rfl with ⟨-, hnext⟩
        exact .inl ⟨declared, by simpa using hnext⟩
    | append_singleton later last =>
        rw [← List.cons_append, ← List.append_assoc] at hhistory
        rcases List.append_inj' hhistory rfl with ⟨hbefore, hnext⟩
        obtain rfl : next = last := by simpa using hnext
        simp only [List.mem_append, List.mem_singleton, not_or] at hlater
        exact .inr ⟨fun h => hlater.2 h.symm, declared, before, later, hbefore, hlater.1⟩
  · rintro (⟨declared, rfl⟩ | ⟨hnext, declared, before, later, rfl, hlater⟩)
    · exact ⟨declared, history, [], rfl, List.not_mem_nil⟩
    · refine ⟨declared, before, later ++ [next], by simp, ?_⟩
      simp only [List.mem_append, List.mem_singleton, not_or]
      exact ⟨hlater, fun h => hnext h.symm⟩

/-- A subscription adds its pair. -/
@[simp] theorem holds_concat_subscribe (added : SinkId) (declared : List Capability) :
    Holds other sink (history ++ [.subscribe asset added declared]) ↔
      (other = asset ∧ sink = added) ∨ Holds other sink history := by
  rw [holds_concat]
  simp [eq_comm]

/-- The end of a subscription takes its pair away. -/
@[simp] theorem holds_concat_unsubscribe (removed : SinkId) :
    Holds other sink (history ++ [.unsubscribe asset removed]) ↔
      ¬ (other = asset ∧ sink = removed) ∧ Holds other sink history := by
  rw [holds_concat]
  simp [eq_comm]

/-! ## Since when -/

/-- With the call at this position something began that has lasted since. -/
structure Began (condition : List Call → Prop) (history : List Call) (position : Nat) : Prop where
  lt : position < history.length
  before : ¬ condition (history.take position)
  since : ∀ n, position < n → n ≤ history.length → condition (history.take n)

namespace Began

variable {condition : List Call → Prop} {position : Nat}

theorem holds (h : Began condition history position) : condition history := by
  simpa using h.since history.length h.lt (Nat.le_refl _)

/-- What lasts has begun only once. -/
theorem unique {second : Nat} (h : Began condition history position)
    (hsecond : Began condition history second) : position = second := by
  refine Nat.le_antisymm ?_ ?_
  · exact Nat.le_of_not_lt fun hlt => h.before (hsecond.since _ hlt (Nat.le_of_lt h.lt))
  · exact Nat.le_of_not_lt fun hlt => hsecond.before (h.since _ hlt (Nat.le_of_lt hsecond.lt))

/-- What has begun goes on if it holds after the next call. -/
theorem concat (h : Began condition history position) {next : Call}
    (hnext : condition (history ++ [next])) : Began condition (history ++ [next]) position := by
  refine ⟨?_, ?_, fun n hlt hle => ?_⟩
  · rw [List.length_append]
    exact Nat.lt_add_right _ h.lt
  · rw [List.take_append_of_le_length (Nat.le_of_lt h.lt)]
    exact h.before
  · rcases Nat.lt_or_ge history.length n with hlong | hshort
    · rw [List.take_of_length_le (by rw [List.length_append]; exact hlong)]
      exact hnext
    · rw [List.take_append_of_le_length hshort]
      exact h.since n hlt hshort

/-- What did not hold before the last call and holds after it begins with that call. -/
theorem of_last {next : Call} (hbefore : ¬ condition history)
    (hnext : condition (history ++ [next])) :
    Began condition (history ++ [next]) history.length := by
  refine ⟨by simp, by simpa using hbefore, fun n hlt hle => ?_⟩
  rw [List.take_of_length_le (by rw [List.length_append]; exact hlt)]
  exact hnext

/-- What holds after a history, but not from the outset, has begun with one of its calls. -/
theorem exists_of_holds (hnil : ¬ condition []) (h : condition history) :
    ∃ position, Began condition history position := by
  induction history using List.reverseRecOn with
  | nil => exact absurd h hnil
  | append_singleton history next ih =>
      by_cases hbefore : condition history
      · rcases ih hbefore with ⟨position, hbegan⟩
        exact ⟨position, hbegan.concat h⟩
      · exact ⟨history.length, of_last hbefore h⟩

end Began

/-! ## Lists in order -/

variable {α : Type} {condition : α → List Call → Prop} {xs ys : List α}

/-- A list of all things for which something holds after a history, in the order in which it
began for each. -/
structure InOrder (condition : α → List Call → Prop) (history : List Call) (xs : List α) :
    Prop where
  mem_iff : ∀ x, x ∈ xs ↔ condition x history
  ordered : xs.Pairwise fun x y => ∃ first second,
    Began (condition x) history first ∧ Began (condition y) history second ∧ first < second

namespace InOrder

theorem nodup (h : InOrder condition history xs) : xs.Nodup := by
  refine h.ordered.imp fun {x y} => ?_
  rintro ⟨first, second, hfirst, hsecond, hlt⟩ rfl
  exact absurd (hfirst.unique hsecond) (Nat.ne_of_lt hlt)

theorem nil (h : ∀ x, ¬ condition x history) : InOrder condition history [] :=
  ⟨by simpa using h, .nil⟩

/-- A call may end something; the rest stays in order. -/
theorem sublist (h : InOrder condition history xs) {next : Call} (hsublist : ys.Sublist xs)
    (hmem : ∀ x, x ∈ ys ↔ condition x (history ++ [next])) :
    InOrder condition (history ++ [next]) ys := by
  refine ⟨hmem, (h.ordered.sublist hsublist).imp_of_mem fun {x y} hx hy => ?_⟩
  rintro ⟨first, second, hfirst, hsecond, hlt⟩
  exact ⟨first, second, hfirst.concat ((hmem x).mp hx), hsecond.concat ((hmem y).mp hy), hlt⟩

/-- A call that changes nothing for any thing keeps a list in order. -/
theorem keep (h : InOrder condition history xs) {next : Call}
    (hsame : ∀ x, condition x (history ++ [next]) ↔ condition x history) :
    InOrder condition (history ++ [next]) xs :=
  h.sublist (.refl xs) fun x => (h.mem_iff x).trans (hsame x).symm

/-- What begins with a call comes last. -/
theorem concat (h : InOrder condition history xs) {next : Call} {y : α}
    (hnil : ∀ x, ¬ condition x []) (hbefore : ¬ condition y history)
    (hnext : ∀ x, condition x (history ++ [next]) ↔ condition x history ∨ x = y) :
    InOrder condition (history ++ [next]) (xs ++ [y]) := by
  have hkeep : ∀ x ∈ xs, condition x (history ++ [next]) := fun x hx =>
    (hnext x).mpr (.inl ((h.mem_iff x).mp hx))
  refine ⟨fun x => ?_, List.pairwise_append.mpr ⟨?_, by simp, fun x hx last hlast => ?_⟩⟩
  · rw [hnext, ← h.mem_iff]
    simp
  · refine h.ordered.imp_of_mem fun {x z} hx hz => ?_
    rintro ⟨first, second, hfirst, hsecond, hlt⟩
    exact ⟨first, second, hfirst.concat (hkeep x hx), hsecond.concat (hkeep z hz), hlt⟩
  · obtain rfl : last = y := by simpa using hlast
    rcases Began.exists_of_holds (hnil x) ((h.mem_iff x).mp hx) with ⟨first, hfirst⟩
    exact ⟨first, history.length, hfirst.concat (hkeep x hx),
      .of_last hbefore ((hnext last).mpr (.inr rfl)), hfirst.lt⟩

end InOrder

end Subscriptions

end TerminalGateway
