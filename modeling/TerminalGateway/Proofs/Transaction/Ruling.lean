import TerminalGateway.Transaction.Pending
import Mathlib.Data.List.Nodup

/-!
# Rulings on pending transactions

A reply and a search for overdue transactions rule on pending transactions in one way: each
transaction either is given an outcome and is pending no longer, or stays as it is.  What becomes
of one transaction depends on the ruling and on that transaction alone.

Main definitions:

- `Ruling`, `Ruling.outcome?`: rulings, and the outcome that one gives to a transaction.
- `Pending.IsTidy`: no two pending transactions have one number.
- `Pending.ended`, `Pending.left`: the transactions that a ruling ends, and those that it leaves.
- `Pending.ending?`: the end that a ruling gives to the transaction of a number.

Main results:

- Theorem `Pending.IsTidy.resolve_eq`: a reply is a ruling on tidy transactions.
- Theorem `Pending.expire_eq`: a search for overdue transactions is a ruling.
- Theorem `Pending.IsTidy.find?_left`, `Pending.IsTidy.ended_of_id`: what a ruling does to one
  transaction.
-/

namespace TerminalGateway.Transaction

open TerminalGateway.Message (Reply)

/-- What rules on pending transactions. -/
inductive Ruling where
  | nothing
  | reply (reply : Reply)
  /-- Transactions that have been pending for at least `bound` nanoseconds are overdue. -/
  | expiry (now bound : Nat)

namespace Ruling

/-- The outcome that a ruling gives to a pending transaction, nothing if it leaves it pending: a
terminal reply with its number accepts or rejects it, and an expiry ends it if it is overdue. -/
def outcome? : Ruling → Entry → Option Outcome
  | .nothing, _ => none
  | .reply r, entry =>
      if r.transactionId = some entry.transactionId then
        match r.status with
        | .interim => none
        | .accepted => some (.accepted r.orderNumber)
        | .rejected => some (.rejected (r.text.getD "rejected by terminal"))
      else none
  | .expiry now bound, entry => if bound ≤ now - entry.submittedAt then some .timedOut else none

/-- The number of a transaction for which a ruling came although it is not pending. -/
def unknown? (pending : Pending) : Ruling → Option Nat
  | .reply r =>
      if r.status.isTerminal then r.transactionId.filter fun id => (pending.find? id).isNone
      else none
  | _ => none

end Ruling

namespace Pending

/-- No two pending transactions have one number. -/
def IsTidy (pending : Pending) : Prop :=
  (pending.entries.map Entry.transactionId).Nodup

/-- The transactions that a ruling ends. -/
def ended (pending : Pending) (ruling : Ruling) : List Completed :=
  pending.entries.filterMap fun entry => (ruling.outcome? entry).map entry.complete

/-- The transactions that a ruling leaves pending. -/
def left (pending : Pending) (ruling : Ruling) : Pending :=
  { pending with entries := pending.entries.filter fun entry => (ruling.outcome? entry).isNone }

/-- The end that a ruling gives to the transaction of a number. -/
def ending? (pending : Pending) (ruling : Ruling) (id : Nat) : Option Completed :=
  (pending.find? id).bind fun entry => (ruling.outcome? entry).map entry.complete

/-! ## Looking up -/

/-- A pending transaction has the number under which it is found. -/
theorem of_find? {pending : Pending} {id : Nat} {entry : Entry}
    (h : pending.find? id = some entry) : entry.transactionId = id ∧ entry ∈ pending.entries :=
  ⟨by simpa using List.find?_some h, List.mem_of_find?_eq_some h⟩

/-- There is no pending transaction of a number that none has. -/
theorem find?_eq_none {pending : Pending} {id : Nat} :
    pending.find? id = none ↔ ∀ entry ∈ pending.entries, entry.transactionId ≠ id := by
  simp [find?]

/-- A pending transaction is found under its number. -/
theorem IsTidy.find?_of_mem {pending : Pending} (htidy : pending.IsTidy) {entry : Entry}
    (hmem : entry ∈ pending.entries) : pending.find? entry.transactionId = some entry := by
  cases hfound : pending.find? entry.transactionId with
  | none => exact absurd rfl (find?_eq_none.mp hfound entry hmem)
  | some found =>
      rcases of_find? hfound with ⟨hid, hfoundMem⟩
      exact congrArg some (List.inj_on_of_nodup_map htidy hfoundMem hmem hid)

theorem IsTidy.left {pending : Pending} (htidy : pending.IsTidy) (ruling : Ruling) :
    (pending.left ruling).IsTidy :=
  htidy.sublist (List.filter_sublist.map _)

/-- What is collected from transactions of one number comes from the one that is found. -/
theorem IsTidy.filterMap_eq {α : Type} {pending : Pending} (htidy : pending.IsTidy) (id : Nat)
    (f : Entry → Option α) (hf : ∀ entry, entry.transactionId ≠ id → f entry = none) :
    pending.entries.filterMap f = ((pending.find? id).bind f).toList := by
  rcases pending with ⟨nextId, entries⟩
  induction entries with
  | nil => rfl
  | cons entry rest ih =>
      have hrest : IsTidy ⟨nextId, rest⟩ := (List.nodup_cons.mp htidy).2
      by_cases hid : entry.transactionId = id
      -- As no two have one number, nothing is collected from those that come after.
      · have hothers : rest.filterMap f = [] := by
          refine List.filterMap_eq_nil_iff.mpr fun other hother => hf other fun hsame => ?_
          exact (List.nodup_cons.mp htidy).1
            (List.mem_map.mpr ⟨other, hother, hsame.trans hid.symm⟩)
        have hfound : find? ⟨nextId, entry :: rest⟩ id = some entry := by simp [find?, hid]
        rw [hfound]
        cases hentry : f entry <;> simp [hentry, hothers]
      · have hfound : find? ⟨nextId, entry :: rest⟩ id = find? ⟨nextId, rest⟩ id := by
          simp [find?, hid]
        rw [hfound, ← ih hrest, List.filterMap_cons_none (hf entry hid)]

/-- What a ruling leaves of one transaction. -/
theorem IsTidy.find?_left {pending : Pending} (htidy : pending.IsTidy) (ruling : Ruling)
    (id : Nat) :
    (pending.left ruling).find? id =
      (pending.find? id).filter fun entry => (ruling.outcome? entry).isNone := by
  cases hfound : pending.find? id with
  | none =>
      refine find?_eq_none.mpr fun entry hentry => ?_
      exact find?_eq_none.mp hfound entry (List.mem_of_mem_filter hentry)
  | some entry =>
      rcases of_find? hfound with ⟨rfl, hmem⟩
      by_cases hstays : (ruling.outcome? entry).isNone = true
      · have hleft : entry ∈ (pending.left ruling).entries := List.mem_filter.mpr ⟨hmem, hstays⟩
        rw [Option.filter_some, if_pos hstays]
        exact (htidy.left ruling).find?_of_mem hleft
      · have hgone : (pending.left ruling).find? entry.transactionId = none := by
          refine find?_eq_none.mpr fun other hother hsame => ?_
          rcases List.mem_filter.mp hother with ⟨hotherMem, hotherStays⟩
          have hother : other = entry := List.inj_on_of_nodup_map htidy hotherMem hmem hsame
          exact hstays (hother ▸ hotherStays)
        rw [Option.filter_some, if_neg hstays]
        exact hgone

/-- What a ruling ends of the transactions of one number. -/
theorem IsTidy.ended_of_id {pending : Pending} (htidy : pending.IsTidy) (ruling : Ruling)
    (id : Nat) :
    (pending.ended ruling).filter (fun ended => ended.resolution.transactionId = id) =
      (pending.ending? ruling id).toList := by
  unfold ended ending?
  rw [List.filter_filterMap, htidy.filterMap_eq id]
  · cases hfound : pending.find? id with
    | none => rfl
    | some entry =>
        have hid := (of_find? hfound).1
        cases houtcome : ruling.outcome? entry <;> simp [houtcome, Entry.complete, hid]
  · intro entry hid
    cases houtcome : ruling.outcome? entry <;> simp [Entry.complete, hid]

/-! ## Registering and forgetting -/

/-- A transaction is found unless it is the one that is left out. -/
theorem find?_without (pending : Pending) (id other : Nat) :
    (pending.without id).find? other = if other = id then none else pending.find? other := by
  by_cases hsame : other = id
  · rw [if_pos hsame]
    exact find?_eq_none.mpr fun entry hentry hid =>
      of_decide_eq_true (List.mem_filter.mp hentry).2 (hid.trans hsame)
  · rw [if_neg hsame]
    unfold find? without
    rw [List.find?_filter]
    congr 1
    funext entry
    by_cases hid : entry.transactionId = other <;> simp [hid, hsame]

/-- A transaction that is made pending is found, and all others as before. -/
theorem find?_register (pending : Pending) (entry : Entry) (id : Nat) :
    (pending.register entry).2.find? id =
      if id = entry.transactionId then some entry else pending.find? id := by
  have hregister : (pending.register entry).2.find? id =
      ((pending.without entry.transactionId).find? id).or
        ([entry].find? fun e => e.transactionId = id) := List.find?_append
  rw [hregister, find?_without]
  by_cases hid : id = entry.transactionId
  · simp [hid]
  · simp [hid, Ne.symm hid]

theorem IsTidy.without {pending : Pending} (htidy : pending.IsTidy) (id : Nat) :
    (pending.without id).IsTidy :=
  htidy.sublist (List.filter_sublist.map _)

/-- Tidy transactions stay tidy when one is made pending. -/
theorem IsTidy.register {pending : Pending} (htidy : pending.IsTidy) (entry : Entry) :
    (pending.register entry).2.IsTidy := by
  have hothers : ∀ other ∈ (pending.without entry.transactionId).entries,
      other.transactionId ≠ entry.transactionId :=
    fun other hother => of_decide_eq_true (List.mem_filter.mp hother).2
  have hids : (pending.register entry).2.entries.map Entry.transactionId =
      (pending.without entry.transactionId).entries.map Entry.transactionId ++
        [entry.transactionId] := by simp [Pending.register]
  unfold IsTidy
  rw [hids, List.nodup_append]
  refine ⟨htidy.without _, by simp, ?_⟩
  intro first hfirst second hsecond
  rcases List.mem_map.mp hfirst with ⟨other, hother, rfl⟩
  rw [List.mem_singleton.mp hsecond]
  exact hothers other hother

/-! ## Replies and searches -/

/-- A search for overdue transactions is a ruling. -/
theorem expire_eq (pending : Pending) (now bound : Nat) :
    pending.expire now bound =
      (pending.ended (.expiry now bound), pending.left (.expiry now bound)) := by
  rcases pending with ⟨nextId, entries⟩
  have hended : (entries.filter (isOverdue now bound)).map (fun entry => entry.complete .timedOut) =
      ended ⟨nextId, entries⟩ (.expiry now bound) := by
    unfold ended
    induction entries with
    | nil => rfl
    | cons entry rest ih =>
        by_cases hoverdue : bound ≤ now - entry.submittedAt
        · simpa [isOverdue, Ruling.outcome?, hoverdue] using ih
        · simpa [isOverdue, Ruling.outcome?, hoverdue] using ih
  have hleft : (entries.filter fun entry => !isOverdue now bound entry) =
      (left ⟨nextId, entries⟩ (.expiry now bound)).entries := by
    refine List.filter_congr fun entry _ => ?_
    by_cases hoverdue : bound ≤ now - entry.submittedAt
    · simp [isOverdue, Ruling.outcome?, hoverdue]
    · simp [isOverdue, Ruling.outcome?, hoverdue]
  unfold expire
  rw [hended, hleft]
  rfl

/-- A ruling that gives no pending transaction an outcome leaves all of them. -/
theorem left_eq_self {pending : Pending} {ruling : Ruling}
    (h : ∀ entry ∈ pending.entries, ruling.outcome? entry = none) :
    pending.left ruling = pending := by
  have hentries : (pending.entries.filter fun entry => (ruling.outcome? entry).isNone) =
      pending.entries := List.filter_eq_self.mpr fun entry hentry => by simp [h entry hentry]
  unfold left
  rw [hentries]

/-- A ruling that gives no pending transaction an outcome ends none. -/
theorem ended_eq_nil {pending : Pending} {ruling : Ruling}
    (h : ∀ entry ∈ pending.entries, ruling.outcome? entry = none) :
    pending.ended ruling = [] :=
  List.filterMap_eq_nil_iff.mpr fun entry hentry => by simp [h entry hentry]

/-- A reply that is interim or has no number decides nothing. -/
theorem resolve_of_interim (pending : Pending) {r : Reply}
    (h : r.transactionId = none ∨ r.status.isTerminal = false) :
    pending.resolve r = (.nothing, pending) := by
  unfold resolve
  rcases h with hid | hstatus
  · rw [hid]
  · cases r.transactionId <;> simp [hstatus]

/-- A terminal reply decides the transaction of its number. -/
theorem resolve_of_terminal (pending : Pending) {r : Reply} {id : Nat}
    (hid : r.transactionId = some id) (hstatus : r.status.isTerminal = true) :
    pending.resolve r =
      match pending.find? id with
      | some entry => (.completed (entry.complete (outcomeOf r)), pending.without id)
      | none => (.unrecognized id, pending) := by
  unfold resolve
  rw [hid]
  exact if_pos hstatus

/-- A reply gives outcomes only to the transaction of its number, and only if it is terminal. -/
theorem outcome?_reply (r : Reply) (entry : Entry) :
    (Ruling.reply r).outcome? entry =
      if r.transactionId = some entry.transactionId ∧ r.status.isTerminal = true then
        some (outcomeOf r)
      else none := by
  by_cases hid : r.transactionId = some entry.transactionId
  · cases hstatus : r.status <;>
      simp [Ruling.outcome?, outcomeOf, rejectedText, hid, hstatus, Message.Status.isTerminal]
  · simp [Ruling.outcome?, hid]

end Pending

/-- The transactions that a decision ends. -/
def Decision.ended : Decision → List Completed
  | .completed ended => [ended]
  | _ => []

/-- The number of a transaction for which a decision came although it is not pending. -/
def Decision.unknown? : Decision → Option Nat
  | .unrecognized id => some id
  | _ => none

/-- A ruling gives no outcome that is meant for transactions that are not pending. -/
theorem Ruling.outcome?_ne_unrecognized (ruling : Ruling) (entry : Entry) :
    ruling.outcome? entry ≠ some .unrecognized := by
  cases ruling with
  | nothing => simp [outcome?]
  | reply r =>
      rw [Pending.outcome?_reply]
      split
      · cases hstatus : r.status <;> simp [Pending.outcomeOf, hstatus]
      · simp
  | expiry now bound =>
      by_cases hoverdue : bound ≤ now - entry.submittedAt <;> simp [outcome?, hoverdue]

/-- No transaction ends with an outcome that is meant for those that are not pending. -/
theorem Pending.outcome_ne_of_mem_ended {pending : Pending} {ruling : Ruling}
    {ended : Completed} (h : ended ∈ pending.ended ruling) :
    ended.resolution.outcome ≠ .unrecognized := by
  rcases List.mem_filterMap.mp h with ⟨entry, -, hentry⟩
  rcases Option.map_eq_some_iff.mp hentry with ⟨outcome, hgiven, rfl⟩
  exact fun hsame => ruling.outcome?_ne_unrecognized entry (hgiven.trans (congrArg some hsame))

/-- A reply is a ruling on tidy transactions. -/
theorem Pending.IsTidy.resolve_eq {pending : Pending} (htidy : pending.IsTidy) (r : Reply) :
    (pending.resolve r).1.ended = pending.ended (.reply r) ∧
      (pending.resolve r).1.unknown? = (Ruling.reply r).unknown? pending ∧
      (pending.resolve r).2 = pending.left (.reply r) := by
  by_cases hterminal : ∃ id, r.transactionId = some id ∧ r.status.isTerminal = true
  · rcases hterminal with ⟨id, hid, hstatus⟩
    have houtcome : ∀ entry, (Ruling.reply r).outcome? entry =
        if entry.transactionId = id then some (outcomeOf r) else none := by
      intro entry
      rw [outcome?_reply, hid]
      by_cases hsame : entry.transactionId = id
      · simp [hsame, hstatus]
      · simp [hsame, Ne.symm hsame]
    rw [resolve_of_terminal pending hid hstatus]
    cases hfound : pending.find? id with
    | none =>
        have hnone : ∀ entry ∈ pending.entries, (Ruling.reply r).outcome? entry = none := by
          intro entry hentry
          rw [houtcome, if_neg (find?_eq_none.mp hfound entry hentry)]
        rw [ended_eq_nil hnone, left_eq_self hnone]
        simp [Decision.ended, Decision.unknown?, Ruling.unknown?, hid, hstatus, Option.filter_some,
          hfound]
    | some entry =>
        have hentry := (of_find? hfound).1
        have hended : pending.ended (.reply r) = [entry.complete (outcomeOf r)] := by
          unfold ended
          rw [htidy.filterMap_eq id _ fun other hother => by simp [houtcome, hother]]
          simp [hfound, houtcome, hentry]
        have hleft : pending.left (.reply r) = pending.without id := by
          unfold Pending.left Pending.without
          congr 1
          refine List.filter_congr fun other _ => ?_
          by_cases hsame : other.transactionId = id <;> simp [houtcome, hsame]
        rw [hended, hleft]
        simp [Decision.ended, Decision.unknown?, Ruling.unknown?, hid, hstatus, Option.filter_some,
          hfound]
  · have hinterim : r.transactionId = none ∨ r.status.isTerminal = false := by
      cases hid : r.transactionId with
      | none => exact .inl rfl
      | some id => exact .inr (Bool.eq_false_iff.mpr fun hstatus => hterminal ⟨id, hid, hstatus⟩)
    have hnone : ∀ entry ∈ pending.entries, (Ruling.reply r).outcome? entry = none := by
      intro entry _
      rw [outcome?_reply, if_neg fun h => hterminal ⟨_, h⟩]
    rw [resolve_of_interim pending hinterim, ended_eq_nil hnone, left_eq_self hnone]
    refine ⟨rfl, ?_, rfl⟩
    rcases hinterim with hid | hstatus
    · simp [Decision.unknown?, Ruling.unknown?, hid]
    · simp [Decision.unknown?, Ruling.unknown?, hstatus]

end TerminalGateway.Transaction
