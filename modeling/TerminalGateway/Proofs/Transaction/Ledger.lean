import TerminalGateway.Proofs.Transaction.Books

/-!
# The ledger of a system

What is told about a transaction, to whoever submitted it and to sinks, and what stays true of
numbers and pending transactions along every run: no number is used twice, and nothing is told
about a transaction before it is pending.

Main definitions:

- `settlements`, `recognised`: what the submitter of a transaction and the sinks were told.
- `System.Ledger`: the invariant of numbers and pending transactions.

Main results:

- Theorem `settlements_pronounce`, `recognised_pronounce`: what a ruling tells about a transaction.
- Theorem `System.Ledger.step`: a turn keeps the ledger.
- Theorem `System.ledger_of_run`: every run from the start keeps the ledger.
-/

namespace TerminalGateway

namespace Gateway

open TerminalGateway.Transaction (Completed Notice Outcome Pending Resolution Ruling)

/-! ## What is told about a transaction -/

/-- What whoever submitted the transaction of a number was told about its end. -/
def settlements (id : Nat) (log : List Effect) : List (Nat × Resolution) :=
  log.filterMap fun
    | .settled issuer resolution =>
        if resolution.transactionId = id then some (issuer, resolution) else none
    | _ => none

/-- What sinks were told about the end of the transaction of a number, apart from replies that
came when it was not pending. -/
def recognised (id : Nat) (log : List Effect) : List (SinkId × Notice) :=
  log.filterMap fun
    | .called sink (.reply notice) =>
        if notice.transactionId = id ∧ notice.outcome ≠ .unrecognized then some (sink, notice)
        else none
    | _ => none

@[simp] theorem settlements_append (id : Nat) (first second : List Effect) :
    settlements id (first ++ second) = settlements id first ++ settlements id second :=
  List.filterMap_append

@[simp] theorem recognised_append (id : Nat) (first second : List Effect) :
    recognised id (first ++ second) = recognised id first ++ recognised id second :=
  List.filterMap_append

theorem settlements_filter_isVerdict (id : Nat) (log : List Effect) :
    settlements id (log.filter Effect.isVerdict) = settlements id log :=
  filterMap_filter_effects (by rintro ⟨⟩ <;> simp [Effect.isVerdict]) log

theorem recognised_filter_isVerdict (id : Nat) (log : List Effect) :
    recognised id (log.filter Effect.isVerdict) = recognised id log := by
  refine filterMap_filter_effects (fun effect heffect => ?_) log
  cases effect with
  | called sink event => cases event <;> simp [Effect.isVerdict] at heffect ⊢
  | _ => rfl

/-- The sinks that are told about the end of a transaction. -/
def notified (subscriptions : Subscriptions) (notice : Notice) : List (SinkId × Notice) :=
  (subscriptions.publish (.reply notice)).called.map (·, notice)

/-- Sinks are told nothing that only concerns submitters. -/
theorem settlements_announce (id : Nat) (subscriptions : Subscriptions) (notice : Notice) :
    settlements id (announce subscriptions notice) = [] := by
  refine List.filterMap_eq_nil_iff.mpr fun effect heffect => ?_
  rcases List.mem_map.mp heffect with ⟨sink, -, rfl⟩
  rfl

/-- Sinks are told of the end of the transaction that a notice is about. -/
theorem recognised_announce (id : Nat) (subscriptions : Subscriptions) (notice : Notice) :
    recognised id (announce subscriptions notice) =
      if notice.transactionId = id ∧ notice.outcome ≠ .unrecognized then
        notified subscriptions notice
      else [] := by
  unfold recognised announce notified
  rw [List.filterMap_map]
  split <;> rename_i hnotice
  · simp [hnotice]
  · simp [hnotice]

/-- The end of a pending transaction is told to whoever submitted it. -/
theorem settlements_pronounce {pending : Pending} (htidy : pending.IsTidy) (id : Nat)
    (subscriptions : Subscriptions) (ruling : Ruling) :
    settlements id (pronounce subscriptions pending ruling) =
      (pending.ending? ruling id).toList.map fun ended => (ended.issuer, ended.resolution) := by
  have hsettled : settlements id ((pending.ended ruling).map fun ended =>
      .settled ended.issuer ended.resolution) =
      ((pending.ended ruling).filter fun ended => ended.resolution.transactionId = id).map
        fun ended => (ended.issuer, ended.resolution) := by
    induction pending.ended ruling with
    | nil => rfl
    | cons ended rest ih =>
        by_cases hid : ended.resolution.transactionId = id
        · simpa [settlements, hid] using ih
        · simpa [settlements, hid] using ih
  have hannounced : ∀ notices : List Notice,
      settlements id (notices.flatMap (announce subscriptions)) = [] := by
    intro notices
    unfold settlements
    rw [List.filterMap_flatMap]
    exact List.flatMap_eq_nil_iff.mpr fun notice _ => settlements_announce id subscriptions notice
  have hended := hannounced ((pending.ended ruling).map fun ended => ended.resolution.notice)
  have hunknown := hannounced ((ruling.unknown? pending).toList.map fun id =>
    ⟨id, .any, .unrecognized⟩)
  rw [List.flatMap_map] at hended hunknown
  unfold pronounce
  rw [settlements_append, settlements_append, hsettled, hended, hunknown, htidy.ended_of_id]
  simp

/-- The end of a pending transaction is told to the sinks that its notice concerns. -/
theorem recognised_pronounce {pending : Pending} (htidy : pending.IsTidy) (id : Nat)
    (subscriptions : Subscriptions) (ruling : Ruling) :
    recognised id (pronounce subscriptions pending ruling) =
      (pending.ending? ruling id).toList.flatMap fun ended =>
        notified subscriptions ended.resolution.notice := by
  have hsettled : recognised id ((pending.ended ruling).map fun ended =>
      .settled ended.issuer ended.resolution) = [] := by
    refine List.filterMap_eq_nil_iff.mpr fun effect heffect => ?_
    rcases List.mem_map.mp heffect with ⟨ended, -, rfl⟩
    rfl
  have hunknown : recognised id ((ruling.unknown? pending).toList.flatMap fun id =>
      announce subscriptions ⟨id, .any, .unrecognized⟩) = [] := by
    unfold recognised
    rw [List.filterMap_flatMap]
    refine List.flatMap_eq_nil_iff.mpr fun other _ => ?_
    have hother := recognised_announce id subscriptions ⟨other, .any, .unrecognized⟩
    rwa [if_neg (by simp)] at hother
  have houtcome : ∀ ended ∈ pending.ended ruling,
      ended.resolution.notice.outcome ≠ .unrecognized :=
    fun _ hended => Pending.outcome_ne_of_mem_ended hended
  have hended : recognised id ((pending.ended ruling).flatMap fun ended =>
      announce subscriptions ended.resolution.notice) =
      ((pending.ended ruling).filter fun ended => ended.resolution.transactionId = id).flatMap
        fun ended => notified subscriptions ended.resolution.notice := by
    generalize pending.ended ruling = endings at houtcome
    induction endings with
    | nil => rfl
    | cons ended rest ih =>
        have hrest := ih fun later hlater => houtcome later (List.mem_cons_of_mem _ hlater)
        have hfirst := houtcome ended List.mem_cons_self
        rw [List.flatMap_cons, recognised_append, recognised_announce, hrest]
        by_cases hid : ended.resolution.transactionId = id
        · have hnotice : ended.resolution.notice.transactionId = id := hid
          simp [hid, hnotice, hfirst]
        · have hnotice : ended.resolution.notice.transactionId ≠ id := hid
          simp [hid, hnotice]
  unfold pronounce
  rw [recognised_append, recognised_append, hsettled, hended, hunknown, htidy.ended_of_id]
  simp

end Gateway

namespace System

open TerminalGateway.Gateway
open TerminalGateway.Transaction (Entry Pending Ruling)

variable {World : Type} {link : Link World}

/-! ## Turns -/

/-- The ruling that a turn brings. -/
def ruling (s : System World) : Turn → Ruling
  | .item time item => s.gateway.ruling time item
  | _ => .nothing

/-- The transaction that a turn makes pending. -/
def registers? (s : System World) : Turn → Option Entry
  | .advance time number => (s.submissions[number]?).bind (Submission.registers? time)
  | _ => none

/-- The transaction that a turn takes back. -/
def withdraws? (s : System World) : Turn → Option Nat
  | .advance _ number => (s.submissions[number]?).bind Submission.withdraws?
  | _ => none

/-- The pending transactions after a turn. -/
def filed (s : System World) : Turn → Pending
  | .item time item => s.gateway.pending.left (s.gateway.ruling time item)
  | .advance time number =>
      (s.submissions[number]?).elim s.gateway.pending fun submission =>
        submission.filed time s.gateway.pending
  | _ => s.gateway.pending

theorem registers?_advance {s : System World} {number : Nat} {submission : Submission}
    (h : s.submissions[number]? = some submission) (time : Reading) :
    s.registers? (.advance time number) = submission.registers? time := by
  rw [registers?, h, Option.bind_some]

theorem withdraws?_advance {s : System World} {number : Nat} {submission : Submission}
    (h : s.submissions[number]? = some submission) (time : Reading) :
    s.withdraws? (.advance time number) = submission.withdraws? := by
  rw [withdraws?, h, Option.bind_some]

theorem filed_advance {s : System World} {number : Nat} {submission : Submission}
    (h : s.submissions[number]? = some submission) (time : Reading) :
    s.filed (.advance time number) = submission.filed time s.gateway.pending := by
  rw [filed, h, Option.elim_some]

/-- A turn files transactions and tells its ruling. -/
theorem books_of_step {s next : System World} {turn : Turn} (htidy : s.gateway.pending.IsTidy)
    (hstep : s.step? link turn = some next) :
    next.gateway.pending = s.filed turn ∧
      next.gateway.journal.filter Effect.isVerdict =
        pronounce s.gateway.subscriptions s.gateway.pending (s.ruling turn) := by
  have hquiet : ∀ {g : Gateway World} {pending : Pending},
      g.books = { s.cleared.books with pending := pending } →
        g.pending = pending ∧ g.journal.filter Effect.isVerdict =
          pronounce s.gateway.subscriptions s.gateway.pending .nothing := by
    intro g pending hbooks
    rw [pronounce_nothing]
    exact ⟨congrArg Books.pending hbooks, congrArg Books.verdicts hbooks⟩
  cases turn with
  | item time item =>
      rcases Option.map_eq_some_iff.mp hstep with ⟨tasks, -, rfl⟩
      exact books_step htidy link time item
  | submit issuer intent =>
      cases hstep
      exact hquiet rfl
  | advance time number =>
      rcases Option.map_eq_some_iff.mp hstep with ⟨submission, hsubmission, rfl⟩
      rw [filed_advance hsubmission]
      exact hquiet (submission.books_step link time s.cleared)
  | raw text =>
      cases hstep
      exact hquiet (books_of_writes (writes_sendRaw link s.cleared text))

/-- Making a transaction pending concerns no other. -/
theorem find?_of_registers {s next : System World} {turn : Turn} {entry : Entry}
    (htidy : s.gateway.pending.IsTidy) (hstep : s.step? link turn = some next)
    (hentry : s.registers? turn = some entry) (id : Nat) :
    next.gateway.pending.find? id =
      if id = entry.transactionId then some entry else s.gateway.pending.find? id := by
  rw [(books_of_step htidy hstep).1]
  cases turn with
  | advance time number =>
      rcases Option.bind_eq_some_iff.mp hentry with ⟨submission, hsubmission, hregisters⟩
      rw [filed_advance hsubmission]
      exact Submission.find?_filed_of_registers hregisters s.gateway.pending id
  | _ => cases hentry

/-- A transaction stays pending until it is taken back or given an outcome. -/
theorem find?_of_step {s next : System World} {turn : Turn} {id : Nat}
    (htidy : s.gateway.pending.IsTidy) (hstep : s.step? link turn = some next)
    (hother : ∀ entry, s.registers? turn = some entry → entry.transactionId ≠ id) :
    next.gateway.pending.find? id =
      if s.withdraws? turn = some id then none
      else (s.gateway.pending.find? id).filter
        fun entry => ((s.ruling turn).outcome? entry).isNone := by
  have hstays : (s.gateway.pending.find? id).filter
      (fun entry => (Ruling.nothing.outcome? entry).isNone) = s.gateway.pending.find? id := by
    cases s.gateway.pending.find? id <;> rfl
  rw [(books_of_step htidy hstep).1]
  cases turn with
  | item time item => exact htidy.find?_left _ id
  | advance time number =>
      rcases Option.map_eq_some_iff.mp hstep with ⟨submission, hsubmission, -⟩
      have hruling : s.ruling (.advance time number) = .nothing := rfl
      rw [registers?_advance hsubmission] at hother
      rw [filed_advance hsubmission, withdraws?_advance hsubmission, hruling, hstays]
      exact Submission.find?_filed hother s.gateway.pending
  | submit issuer intent => exact hstays.symm
  | raw text => exact hstays.symm

/-- What is told in a turn about a transaction is what its ruling tells. -/
theorem told_of_step {s next : System World} {turn : Turn} (htidy : s.gateway.pending.IsTidy)
    (hstep : s.step? link turn = some next) (id : Nat) :
    settlements id next.log = settlements id s.log ++
        (s.gateway.pending.ending? (s.ruling turn) id).toList.map
          (fun ended => (ended.issuer, ended.resolution)) ∧
      recognised id next.log = recognised id s.log ++
        (s.gateway.pending.ending? (s.ruling turn) id).toList.flatMap
          fun ended => notified s.gateway.subscriptions ended.resolution.notice := by
  rcases of_step hstep with ⟨-, -, -, hlog⟩
  have hverdicts := (books_of_step htidy hstep).2
  rw [hlog, settlements_append, recognised_append,
    ← settlements_filter_isVerdict id next.gateway.journal,
    ← recognised_filter_isVerdict id next.gateway.journal, hverdicts,
    settlements_pronounce htidy, recognised_pronounce htidy]
  exact ⟨rfl, rfl⟩

/-! ## Numbers -/

/-- The number under which a submission is about to make its transaction pending. -/
def due? (s : System World) (number : Nat) : Option Nat :=
  (s.submissions[number]?).bind Submission.due?

/-- Nothing was told about a transaction that is not pending. -/
structure Untold (s : System World) (id : Nat) : Prop where
  pending : s.gateway.pending.find? id = none
  settled : settlements id s.log = []
  recognised : recognised id s.log = []

/-- No two pending transactions and no two submissions have one number; nothing was told about a
transaction before it is pending, and none is about the wildcard. -/
structure Ledger (s : System World) : Prop where
  tidy : s.gateway.pending.IsTidy
  assets : ∀ entry ∈ s.gateway.pending.entries, entry.intent.asset ≠ .any
  intents : ∀ (number issuer : Nat) (intent : Intent) (id : Nat) (frames : List String),
    s.submissions[number]? = some (Submission.numbered issuer intent id frames) →
      intent.asset ≠ .any
  due : ∀ number id, s.due? number = some id → id < s.gateway.pending.nextId ∧ s.Untold id
  alone : ∀ number other id, s.due? number = some id → s.due? other = some id → number = other
  later : ∀ id, s.gateway.pending.nextId ≤ id → s.Untold id

/-- Nothing is told about a transaction before it is pending. -/
theorem Untold.step {s next : System World} {turn : Turn} {id : Nat} (huntold : s.Untold id)
    (htidy : s.gateway.pending.IsTidy) (hstep : s.step? link turn = some next)
    (hother : ∀ entry, s.registers? turn = some entry → entry.transactionId ≠ id) :
    next.Untold id := by
  have hending : s.gateway.pending.ending? (s.ruling turn) id = none := by
    simp [Pending.ending?, huntold.pending]
  rcases told_of_step htidy hstep id with ⟨hsettled, hrecognised⟩
  rw [hending] at hsettled hrecognised
  refine ⟨?_, ?_, ?_⟩
  · rw [find?_of_step htidy hstep hother, huntold.pending]
    simp
  · simpa [huntold.settled] using hsettled
  · simpa [huntold.recognised] using hrecognised

/-- What is made pending has a number that was due. -/
theorem due?_of_registers {s : System World} {turn : Turn} {entry : Entry}
    (h : s.registers? turn = some entry) :
    ∃ time number, turn = .advance time number ∧ s.due? number = some entry.transactionId := by
  cases turn with
  | advance time number =>
      rcases Option.bind_eq_some_iff.mp h with ⟨submission, hsubmission, hregisters⟩
      refine ⟨time, number, rfl, ?_⟩
      simpa [due?, hsubmission] using Submission.due?_of_registers hregisters
  | _ => cases h

/-- A submission is one from before, a new one, or one that took its next step. -/
theorem submission_of_step {s next : System World} {turn : Turn}
    (hstep : s.step? link turn = some next) {number : Nat} {submission : Submission}
    (h : next.submissions[number]? = some submission) :
    (s.submissions[number]? = some submission ∧ ∀ time, turn ≠ .advance time number) ∨
      (∃ issuer intent, submission = .waiting issuer intent) ∨
      ∃ time before, turn = .advance time number ∧ s.submissions[number]? = some before ∧
        submission = (before.step link time s.cleared).1 := by
  cases turn with
  | item time item =>
      rcases Option.map_eq_some_iff.mp hstep with ⟨tasks, -, rfl⟩
      exact .inl ⟨h, by simp⟩
  | submit issuer intent =>
      cases hstep
      have happend : (s.submissions ++ [Submission.waiting issuer intent])[number]? =
          some submission := h
      rw [List.getElem?_append] at happend
      split at happend
      · exact .inl ⟨happend, by simp⟩
      · have hnew := List.mem_of_getElem? happend
        exact .inr (.inl ⟨issuer, intent, List.mem_singleton.mp hnew⟩)
  | advance time other =>
      rcases Option.map_eq_some_iff.mp hstep with ⟨before, hbefore, rfl⟩
      have hset : (s.submissions.set other (before.step link time s.cleared).1)[number]? =
          some submission := h
      by_cases hsame : other = number
      · subst hsame
        have hlength : other < s.submissions.length := (List.getElem?_eq_some_iff.mp hbefore).1
        rw [List.getElem?_set_self hlength] at hset
        exact .inr (.inr ⟨time, before, rfl, hbefore, (Option.some.inj hset).symm⟩)
      · rw [List.getElem?_set_ne hsame] at hset
        exact .inl ⟨hset, by simp [hsame]⟩
  | raw text =>
      cases hstep
      exact .inl ⟨h, by simp⟩

/-- A number that is due was due before, or becomes due in a step of its submission. -/
theorem due?_of_step {s next : System World} {turn : Turn} (hstep : s.step? link turn = some next)
    {number id : Nat} (hdue : next.due? number = some id) :
    (s.due? number = some id ∧ ∀ time, turn ≠ .advance time number) ∨
      (∃ time, turn = .advance time number) ∧ id = s.gateway.pending.nextId ∧
        s.registers? turn = none ∧ (s.filed turn).nextId = s.gateway.pending.nextId + 1 := by
  rcases Option.bind_eq_some_iff.mp hdue with ⟨submission, hsubmission, hid⟩
  rcases submission_of_step hstep hsubmission with
    ⟨hbefore, hturn⟩ | ⟨issuer, intent, rfl⟩ | ⟨time, before, rfl, hbefore, rfl⟩
  · exact .inl ⟨by simpa [due?, hbefore] using hid, hturn⟩
  · cases hid
  · rcases Submission.due?_of_step hid with ⟨hnext, hregisters, hfiled⟩
    refine .inr ⟨⟨time, rfl⟩, hnext, ?_, ?_⟩
    · exact (registers?_advance hbefore time).trans hregisters
    · rw [filed_advance hbefore]
      exact hfiled

theorem nextId_le_of_step {s next : System World} {turn : Turn}
    (htidy : s.gateway.pending.IsTidy) (hstep : s.step? link turn = some next) :
    s.gateway.pending.nextId ≤ next.gateway.pending.nextId := by
  rw [(books_of_step htidy hstep).1]
  cases turn with
  | advance time number =>
      rcases Option.map_eq_some_iff.mp hstep with ⟨submission, hsubmission, -⟩
      rw [filed_advance hsubmission]
      exact Submission.nextId_le_filed _ time submission
  | _ => exact Nat.le_refl _

/-- A transaction that is about to be made pending has a number that was given, and nothing was
told about it. -/
theorem Ledger.of_registers {s : System World} (hledger : s.Ledger) {turn : Turn} {entry : Entry}
    (h : s.registers? turn = some entry) :
    entry.transactionId < s.gateway.pending.nextId ∧ s.Untold entry.transactionId := by
  rcases due?_of_registers h with ⟨time, number, -, hdue⟩
  exact hledger.due number _ hdue

/-- A transaction that is about to be made pending is about an instrument. -/
theorem Ledger.asset_of_registers {s : System World} (hledger : s.Ledger) {turn : Turn}
    {entry : Entry} (h : s.registers? turn = some entry) : entry.intent.asset ≠ .any := by
  cases turn with
  | advance time number =>
      rcases Option.bind_eq_some_iff.mp h with ⟨submission, hsubmission, hregisters⟩
      cases submission with
      | numbered issuer intent id frames =>
          cases hregisters
          exact hledger.intents number issuer intent id frames hsubmission
      | _ => cases hregisters
  | _ => cases h

/-- Another submission is not about to make a transaction pending whose number is due. -/
theorem Ledger.ne_of_registers {s : System World} (hledger : s.Ledger) {turn : Turn}
    {number id : Nat} (hdue : s.due? number = some id)
    (hturn : ∀ time, turn ≠ .advance time number) {entry : Entry}
    (h : s.registers? turn = some entry) : entry.transactionId ≠ id := by
  rintro rfl
  rcases due?_of_registers h with ⟨time, other, rfl, hother⟩
  rw [hledger.alone number other _ hdue hother] at hturn
  exact hturn time rfl

theorem tidy_of_step {s next : System World} {turn : Turn} (htidy : s.gateway.pending.IsTidy)
    (hstep : s.step? link turn = some next) : next.gateway.pending.IsTidy := by
  rw [(books_of_step htidy hstep).1]
  cases turn with
  | item time item => exact htidy.left _
  | advance time number =>
      rcases Option.map_eq_some_iff.mp hstep with ⟨submission, hsubmission, -⟩
      rw [filed_advance hsubmission]
      exact Submission.tidy_filed htidy time submission
  | _ => exact htidy

/-- What is pending after a turn is about an instrument. -/
theorem Ledger.asset_of_mem {s next : System World} {turn : Turn} (hledger : s.Ledger)
    (hstep : s.step? link turn = some next) {entry : Entry}
    (hentry : entry ∈ next.gateway.pending.entries) : entry.intent.asset ≠ .any := by
  rw [(books_of_step hledger.tidy hstep).1] at hentry
  cases turn with
  | item time item => exact hledger.assets entry (List.mem_of_mem_filter hentry)
  | advance time number =>
      rcases Option.map_eq_some_iff.mp hstep with ⟨submission, hsubmission, -⟩
      rw [filed_advance hsubmission] at hentry
      rcases Submission.mem_filed hentry with hbefore | hregisters
      · exact hledger.assets entry hbefore
      · exact hledger.asset_of_registers ((registers?_advance hsubmission time).trans hregisters)
  | _ => exact hledger.assets entry hentry

/-- A number that is due after a turn was given, and nothing was told about it. -/
theorem Ledger.untold_of_due {s next : System World} {turn : Turn} (hledger : s.Ledger)
    (hstep : s.step? link turn = some next) {number id : Nat}
    (hdue : next.due? number = some id) :
    id < next.gateway.pending.nextId ∧ next.Untold id := by
  rcases due?_of_step hstep hdue with ⟨hbefore, hturn⟩ | ⟨-, rfl, hregisters, hnext⟩
  · rcases hledger.due number id hbefore with ⟨hlt, huntold⟩
    refine ⟨Nat.lt_of_lt_of_le hlt (nextId_le_of_step hledger.tidy hstep), ?_⟩
    exact huntold.step hledger.tidy hstep fun entry => hledger.ne_of_registers hbefore hturn
  · refine ⟨?_, (hledger.later _ (Nat.le_refl _)).step hledger.tidy hstep (by simp [hregisters])⟩
    rw [(books_of_step hledger.tidy hstep).1, hnext]
    exact Nat.lt_succ_self _

/-- After a turn no two submissions have one number: one that becomes due has not been given. -/
theorem Ledger.eq_of_due {s next : System World} {turn : Turn} (hledger : s.Ledger)
    (hstep : s.step? link turn = some next) {number other id : Nat}
    (hnumber : next.due? number = some id) (hother : next.due? other = some id) :
    number = other := by
  -- A number that was due is below the next one, which is the one that becomes due.
  rcases due?_of_step hstep hnumber with ⟨hbefore, -⟩ | ⟨⟨time, rfl⟩, hnew, -⟩
  · rcases due?_of_step hstep hother with ⟨hotherBefore, -⟩ | ⟨-, rfl, -⟩
    · exact hledger.alone number other id hbefore hotherBefore
    · exact absurd (hledger.due number _ hbefore).1 (Nat.lt_irrefl _)
  · rcases due?_of_step hstep hother with ⟨hotherBefore, -⟩ | ⟨⟨_, hturn⟩, -⟩
    · exact absurd (hnew ▸ (hledger.due other id hotherBefore).1) (Nat.lt_irrefl _)
    · cases hturn
      rfl

/-- A turn keeps the ledger. -/
theorem Ledger.step {s next : System World} {turn : Turn} (hledger : s.Ledger)
    (hstep : s.step? link turn = some next) : next.Ledger where
  tidy := tidy_of_step hledger.tidy hstep
  assets _ hentry := hledger.asset_of_mem hstep hentry
  intents number issuer intent id frames hnumbered := by
    rcases submission_of_step hstep hnumbered with
      ⟨hbefore, -⟩ | ⟨_, _, hwaiting⟩ | ⟨time, before, -, -, hafter⟩
    · exact hledger.intents number issuer intent id frames hbefore
    · cases hwaiting
    · exact (Submission.admitted_of_numbered hafter.symm).2.2
  due _ _ hdue := hledger.untold_of_due hstep hdue
  alone _ _ _ hnumber hother := hledger.eq_of_due hstep hnumber hother
  later id hid := by
    have hlater := Nat.le_trans (nextId_le_of_step hledger.tidy hstep) hid
    refine (hledger.later id hlater).step hledger.tidy hstep fun entry hentry hsame => ?_
    have hgiven := (hledger.of_registers hentry).1
    omega

theorem ledger_start (settings : Settings) (world : World) : (start settings world).Ledger where
  tidy := List.nodup_nil
  assets _ hentry := absurd hentry List.not_mem_nil
  intents _ _ _ _ _ hsubmission := by simp [start] at hsubmission
  due _ _ hdue := by simp [due?, start] at hdue
  alone _ _ _ hdue := by simp [due?, start] at hdue
  later _ _ := ⟨rfl, rfl, rfl⟩

/-- Every run from the start keeps the ledger. -/
theorem ledger_of_run {settings : Settings} {world : World} {turns : List Turn}
    {s : System World} (hrun : (start settings world).run? link turns = some s) : s.Ledger := by
  refine run_induction (motive := fun _ s => s.Ledger) (ledger_start settings world) ?_ hrun
  intro turns turn middle next _ hledger hstep
  exact hledger.step hstep

end System

end TerminalGateway
