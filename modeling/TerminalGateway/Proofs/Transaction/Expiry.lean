import TerminalGateway.Proofs.System.Closing
import TerminalGateway.Proofs.Transaction.Ledger

/-!
# Overdue transactions

A transaction is overdue when it has been pending for at least some bound.  A search for overdue
transactions first looks for their numbers, in whatever order the table gives them, and then ends
one transaction after the other.  It ends the overdue ones, each once, and leaves all others as
they are, so that searches that follow each other at one time do as much as the strictest of them.

Main definitions:

- `Entry.age`: how long a transaction has been pending.
- `Pending.overdueIds`, `Pending.endEach`: the two phases of a search.
- `Pending.Expires`: what a search does to a table.
- `System.swept`: the system after a search at the bound for transactions.

Main results:

- Theorem `Pending.endEach_eq`: what is left, and what has ended, when transactions of given numbers
  are ended one after the other.
- Theorem `Pending.IsTidy.expires`: what a search does to a tidy table.
- Theorem `System.expires_of_sweep`: what a search does in any state of a gateway that goes on.
-/

namespace TerminalGateway

namespace Transaction

/-- How long a transaction has been pending, in nanoseconds: no time if it was submitted later. -/
def Entry.age (now : Nat) (entry : Entry) : Nat :=
  if now < entry.submittedAt then 0 else now - entry.submittedAt

namespace Pending

theorem isOverdue_iff (now bound : Nat) (entry : Entry) :
    isOverdue now bound entry = true ↔ bound ≤ entry.age now := by
  by_cases hlater : now < entry.submittedAt
  · have hage : now - entry.submittedAt = 0 := by omega
    simp [isOverdue, Entry.age, hlater, hage]
  · simp [isOverdue, Entry.age, hlater]

theorem mem_expire_left {pending : Pending} {now bound : Nat} {entry : Entry} :
    entry ∈ (pending.expire now bound).2.entries ↔
      entry ∈ pending.entries ∧ entry.age now < bound := by
  refine List.mem_filter.trans (and_congr_right fun _ => ?_)
  rw [Bool.not_eq_true', ← Bool.not_eq_true, isOverdue_iff, Nat.not_le]

/-! ## The two phases of a search -/

/-- The numbers of the overdue transactions. -/
def overdueIds (pending : Pending) (now bound : Nat) : List Nat :=
  (pending.entries.filter (isOverdue now bound)).map Entry.transactionId

/-- Ends the transactions of the given numbers one after the other; a number that is not pending is
passed over. -/
def endEach : List Nat → Pending → List Completed × Pending
  | [], pending => ([], pending)
  | id :: ids, pending =>
      let (ended, left) := endEach ids (pending.without id)
      (((pending.find? id).map fun entry => entry.complete .timedOut).toList ++ ended, left)

/-- What is left, and what has ended, when transactions of given numbers are ended one after the
other. -/
theorem endEach_eq {ids : List Nat} (hnodup : ids.Nodup) (pending : Pending) :
    endEach ids pending =
      (ids.filterMap fun id => (pending.find? id).map fun entry => entry.complete .timedOut,
        { pending with
          entries := pending.entries.filter fun entry => decide (entry.transactionId ∉ ids) }) := by
  induction ids generalizing pending with
  | nil => simp [endEach]
  | cons id ids ih =>
      rcases List.nodup_cons.mp hnodup with ⟨hid, hrest⟩
      -- The numbers that come later are found as if none had been ended before them.
      have hfound : ∀ later ∈ ids, (pending.without id).find? later = pending.find? later :=
        fun later hlater => (find?_without pending id later).trans
          (if_neg (ne_of_mem_of_not_mem hlater hid))
      have hended : (ids.filterMap fun later => ((pending.without id).find? later).map
            fun entry => entry.complete .timedOut) =
          ids.filterMap fun later => (pending.find? later).map
            fun entry => entry.complete .timedOut :=
        List.filterMap_congr fun later hlater => by rw [hfound later hlater]
      have hleft : ((pending.without id).entries.filter
            fun entry => decide (entry.transactionId ∉ ids)) =
          pending.entries.filter fun entry => decide (entry.transactionId ∉ id :: ids) := by
        rw [without, List.filter_filter]
        exact List.filter_congr fun entry _ => by simp [Bool.and_comm]
      rw [endEach, ih hrest, hended]
      dsimp only
      rw [hleft]
      cases hentry : pending.find? id <;> simp [hentry, without]

/-- An overdue transaction is one whose number was found. -/
theorem IsTidy.mem_overdueIds {pending : Pending} (htidy : pending.IsTidy) {now bound : Nat}
    {entry : Entry} (hentry : entry ∈ pending.entries) :
    entry.transactionId ∈ pending.overdueIds now bound ↔ isOverdue now bound entry = true := by
  refine ⟨fun hid => ?_, fun hoverdue => ?_⟩
  · rcases List.mem_map.mp hid with ⟨other, hother, hsame⟩
    rcases List.mem_filter.mp hother with ⟨hmem, hoverdue⟩
    rwa [List.inj_on_of_nodup_map htidy hentry hmem hsame.symm]
  · exact List.mem_map_of_mem (List.mem_filter.mpr ⟨hentry, hoverdue⟩)

theorem IsTidy.overdueIds_nodup {pending : Pending} (htidy : pending.IsTidy) (now bound : Nat) :
    (pending.overdueIds now bound).Nodup :=
  htidy.sublist (List.filter_sublist.map _)

/-- In whatever order the overdue transactions are found, the search does the same. -/
theorem IsTidy.endEach_of_perm {pending : Pending} (htidy : pending.IsTidy) {now bound : Nat}
    {ids : List Nat} (hids : ids.Perm (pending.overdueIds now bound)) :
    (endEach ids pending).1.Perm (pending.expire now bound).1 ∧
      (endEach ids pending).2 = (pending.expire now bound).2 := by
  rw [endEach_eq (hids.nodup_iff.mpr (htidy.overdueIds_nodup now bound))]
  refine ⟨(hids.filterMap _).trans (List.Perm.of_eq ?_), ?_⟩
  · unfold overdueIds expire
    rw [List.filterMap_map, ← List.filterMap_eq_map]
    refine List.filterMap_congr fun entry hentry => ?_
    simp [htidy.find?_of_mem (List.mem_of_mem_filter hentry)]
  · unfold expire
    dsimp only
    congr 1
    refine List.filter_congr fun entry hentry => ?_
    rw [decide_not, Bool.not_inj_iff, Bool.eq_iff_iff, decide_eq_true_iff, hids.mem_iff]
    exact htidy.mem_overdueIds hentry

/-! ## What a search does -/

/-- What a search for transactions that have been pending for at least `bound` does to a table. -/
structure Expires (pending : Pending) (now bound : Nat) : Prop where
  /-- The overdue transactions end, each with its intent, and no others. -/
  ended : ∀ completed, completed ∈ (pending.expire now bound).1 ↔
    ∃ entry ∈ pending.entries, bound ≤ entry.age now ∧
      completed = ⟨entry.issuer, entry.transactionId, some entry.intent, .timedOut⟩
  /-- No transaction ends twice. -/
  once : ((pending.expire now bound).1.map fun completed =>
    completed.resolution.transactionId).Nodup
  /-- The others stay as they are, with the time at which they were submitted. -/
  stays : ∀ entry, entry ∈ (pending.expire now bound).2.entries ↔
    entry ∈ pending.entries ∧ entry.age now < bound
  nextId : (pending.expire now bound).2.nextId = pending.nextId
  tidy : (pending.expire now bound).2.IsTidy
  /-- It does not matter in which order the overdue transactions are found. -/
  inAnyOrder : ∀ ids, ids.Perm (pending.overdueIds now bound) →
    (endEach ids pending).1.Perm (pending.expire now bound).1 ∧
      (endEach ids pending).2 = (pending.expire now bound).2
  /-- The same search right afterwards finds nothing. -/
  again : (pending.expire now bound).2.expire now bound = ([], (pending.expire now bound).2)
  /-- Two searches at one time leave what the stricter one leaves. -/
  twice : ∀ other, ((pending.expire now bound).2.expire now other).2 =
    (pending.expire now (min bound other)).2
  /-- Every transaction has been pending for at least no time. -/
  all : bound = 0 → (pending.expire now bound).2.entries = []

theorem expire_twice (pending : Pending) (now first second : Nat) :
    ((pending.expire now first).2.expire now second).2 =
      (pending.expire now (min first second)).2 := by
  unfold expire
  dsimp only
  rw [List.filter_filter]
  congr 1
  refine List.filter_congr fun entry _ => ?_
  have hmin : isOverdue now (min first second) entry = true ↔
      isOverdue now first entry = true ∨ isOverdue now second entry = true := by
    simp only [isOverdue_iff]
    omega
  rw [← Bool.not_or, Bool.not_inj_iff, Bool.eq_iff_iff, hmin, Bool.or_eq_true]
  exact or_comm

theorem expire_again (pending : Pending) (now bound : Nat) :
    (pending.expire now bound).2.expire now bound = ([], (pending.expire now bound).2) := by
  refine Prod.ext ?_ ((pending.expire_twice now bound bound).trans (by rw [Nat.min_self]))
  refine List.map_eq_nil_iff.mpr (List.filter_eq_nil_iff.mpr fun entry hentry => ?_)
  simpa using (List.mem_filter.mp hentry).2

/-- What a search does to a tidy table. -/
theorem IsTidy.expires {pending : Pending} (htidy : pending.IsTidy) (now bound : Nat) :
    pending.Expires now bound where
  ended completed := by
    simp only [expire, List.mem_map, List.mem_filter, isOverdue_iff, Entry.complete, and_assoc,
      eq_comm (a := completed)]
  once := by
    have hids : ((pending.expire now bound).1.map fun completed =>
        completed.resolution.transactionId) = pending.overdueIds now bound :=
      List.map_map
    rw [hids]
    exact htidy.overdueIds_nodup now bound
  stays _ := mem_expire_left
  nextId := rfl
  tidy := htidy.sublist (List.filter_sublist.map _)
  inAnyOrder _ hids := htidy.endEach_of_perm hids
  again := pending.expire_again now bound
  twice := pending.expire_twice now bound
  all hbound := List.eq_nil_iff_forall_not_mem.mpr fun entry hentry =>
    absurd (mem_expire_left.mp hentry).2 (by omega)

end Pending

end Transaction

open TerminalGateway.Transaction (Completed Pending)

namespace Gateway

variable {World : Type}

/-- Events are handed out in order, and nothing else changes. -/
theorem publishAll_eq (g : Gateway World) (events : List Event) :
    g.publishAll events =
      { g with
        journal := g.journal ++ events.flatMap fun event =>
          (g.subscriptions.publish event).called.map fun sink => .called sink event } := by
  induction events generalizing g with
  | nil => simp [publishAll]
  | cons event rest ih =>
      refine (ih (g.publish event)).trans ?_
      simp [publish]

/-- What is told when transactions end: whoever submitted one learns of it before any sink. -/
def verdicts (subscriptions : Subscriptions) (ended : List Completed) : List Effect :=
  (ended.map fun completed => .settled completed.issuer completed.resolution) ++
    ended.flatMap fun completed => announce subscriptions completed.resolution.notice

/-- A search for overdue transactions changes nothing but the table and the journal. -/
theorem expire_eq (g : Gateway World) (time : Reading) (bound : Nat) :
    g.expire time bound =
      { g with
        pending := (g.pending.expire time.now bound).2
        journal := g.journal ++ verdicts g.subscriptions (g.pending.expire time.now bound).1 } := by
  unfold expire
  dsimp only
  rw [publishAll_eq, List.flatMap_map, List.append_assoc]
  rfl

/-- The end of a transaction is told once to whoever submitted it. -/
theorem settled_verdicts (subscriptions : Subscriptions) (ended : List Completed) :
    settled (verdicts subscriptions ended) =
      ended.map fun completed => (completed.issuer, completed.resolution) := by
  rw [verdicts, settled_append, settled_announced, List.append_nil]
  simp [settled]

theorem isMark_of_mem_verdicts {subscriptions : Subscriptions} {ended : List Completed}
    {effect : Effect} (h : effect ∈ verdicts subscriptions ended) : effect.isMark = false := by
  rcases List.mem_append.mp h with hsettled | hannounced
  · rcases List.mem_map.mp hsettled with ⟨completed, -, rfl⟩
    rfl
  · rcases List.mem_flatMap.mp hannounced with ⟨completed, -, hnotice⟩
    rcases List.mem_map.mp hnotice with ⟨sink, -, rfl⟩
    rfl

end Gateway

namespace System

open TerminalGateway.Gateway

variable {World : Type} {link : Link World}

/-- The system after a search for the transactions that have been pending for too long. -/
def swept (s : System World) (time : Reading) : System World :=
  let (ended, left) := s.gateway.pending.expire time.now s.gateway.settings.timeoutNanos
  let told := verdicts s.gateway.subscriptions ended
  { s with
    gateway := { s.gateway with pending := left, journal := told }
    log := s.log ++ told }

/-- A gateway that goes on makes the search, whatever the state of its connection. -/
theorem step_sweep {s : System World} (hrunning : s.gateway.running = true) (time : Reading) :
    s.step? link (.item time .expirySweep) = some (s.swept time) := by
  have hgateway : s.gateway.step link time .expirySweep = (s.swept time).gateway := by
    refine (if_pos hrunning).trans ?_
    exact Gateway.expire_eq s.cleared time _
  have htasks : (s.swept time).gateway.journal.foldl Tasks.note s.tasks = s.tasks := by
    have hnone : (s.swept time).gateway.journal.filter Effect.isMark = [] :=
      List.filter_eq_nil_iff.mpr fun effect heffect => by simp [isMark_of_mem_verdicts heffect]
    rw [Tasks.foldl_note_eq_noteAll, hnone, Tasks.noteAll_nil]
  have hstep : s.step? link (.item time .expirySweep) =
      some (s.leave (s.gateway.step link time .expirySweep)) := rfl
  rw [hstep, hgateway, leave, htasks]
  rfl

/-- A search ends exactly the overdue transactions of any table and leaves the others as they are.
In any state of a gateway that goes on, one that comes due does this at the bound for transactions
and nothing else: whoever submitted an overdue transaction is told once, and none that is left has
been pending for so long. -/
theorem expires_of_sweep (link : Link World) :
    (∀ pending : Pending, pending.IsTidy → ∀ now bound, pending.Expires now bound) ∧
      ∀ {settings : Settings} {world : World} {turns : List Turn} {s : System World},
        (start settings world).run? link turns = some s → s.gateway.running = true →
        ∀ time : Reading,
          s.gateway.pending.IsTidy ∧
            s.step? link (.item time .expirySweep) = some (s.swept time) ∧
            (Gateway.settled (s.swept time).gateway.journal =
              (s.gateway.pending.expire time.now s.gateway.settings.timeoutNanos).1.map
                fun completed => (completed.issuer, completed.resolution)) ∧
            ∀ entry ∈ (s.swept time).gateway.pending.entries,
              entry.age time.now < s.gateway.settings.timeoutNanos := by
  refine ⟨fun pending htidy => htidy.expires, fun hrun hrunning time => ?_⟩
  refine ⟨(ledger_of_run hrun).tidy, step_sweep hrunning time, settled_verdicts _ _, ?_⟩
  exact fun entry hentry => (Pending.mem_expire_left.mp hentry).2

/-- The order that is pending in an open session is overdue at the bound, to the nanosecond. -/
theorem expires_of_sweep_webOrder :
    ∃ s, (start webSettings ()).run? openLink webOrder = some s ∧
      s.gateway.settings.timeoutNanos = 30000000000 ∧
      s.gateway.pending.entries = [⟨1, .killAll (share "SBER"), 0, 5⟩] ∧
      (∃ next, s.step? openLink (.item ⟨29999999999, midnight.wall⟩ .expirySweep) = some next ∧
        ⟨1, .killAll (share "SBER"), 0, 5⟩ ∈ next.gateway.pending.entries) ∧
      ∃ next, s.step? openLink (.item ⟨30000000000, midnight.wall⟩ .expirySweep) = some next ∧
        next.gateway.pending.entries = [] ∧
        Gateway.settled next.gateway.journal =
          [(5, ⟨1, some (.killAll (share "SBER")), .timedOut⟩)] := by
  have hfacts : ((start webSettings ()).run? openLink webOrder).map (fun s =>
      decide (s.gateway.running = true ∧
        s.gateway.settings.timeoutNanos = 30000000000 ∧
        s.gateway.pending.entries = [⟨1, .killAll (share "SBER"), 0, 5⟩])) = some true := by
    decide +kernel
  rcases Option.map_eq_some_iff.mp hfacts with ⟨s, hrun, hs⟩
  rcases of_decide_eq_true hs with ⟨hrunning, htimeout, hpending⟩
  rcases expires_of_sweep openLink with ⟨hexpires, hsweeps⟩
  have hsweep := hsweeps hrun hrunning
  refine ⟨s, hrun, htimeout, hpending, ⟨_, (hsweep _).2.1, ?_⟩, ⟨_, (hsweep _).2.1, ?_, ?_⟩⟩
  · refine ((hexpires _ (hsweep midnight).1 _ _).stays _).mpr ⟨?_, ?_⟩
    · rw [hpending]
      exact List.mem_singleton_self _
    · rw [htimeout]
      decide
  · refine List.eq_nil_iff_forall_not_mem.mpr fun entry hentry => ?_
    rcases ((hexpires _ (hsweep midnight).1 _ _).stays entry).mp hentry with ⟨hmem, hage⟩
    rw [hpending, List.mem_singleton] at hmem
    rw [hmem, htimeout] at hage
    exact absurd hage (by decide)
  · rw [(hsweep _).2.2.1]
    simp [Pending.expire, Pending.isOverdue, Transaction.Entry.complete, hpending, htimeout]

end System

end TerminalGateway
