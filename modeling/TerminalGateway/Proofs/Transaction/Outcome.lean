import TerminalGateway.Proofs.System.Order
import TerminalGateway.Proofs.Transaction.Ledger

/-!
# One outcome for each transaction

A transaction that was made pending has one fate.  The first ruling that gives it an outcome
decides: a terminal reply with its number, or a search that finds it overdue, whichever is taken
up first.  Whoever submitted it and the sinks then learn of that outcome, and of no other; if it
is taken back before, nobody learns anything.

Main definitions:

- `Transaction.Fate`: what has become of a transaction.
- `System.fateAfter`: the fate of a transaction after a run.
- `System.Account`: the pending transactions and what was told agree with a fate.
- `System.Settles`: how a system settles transactions.

Main results:

- Theorem `System.Account.step`, `System.Account.run`: turns and runs keep accounts.
- Theorem `System.settles_of_run`: every run from the start leads to a system that settles each
  transaction once.
-/

namespace TerminalGateway

/-! ## Replies -/

namespace Gateway

open TerminalGateway.Message (Reply)
open TerminalGateway.Transaction (Notice Pending Ruling)

variable {World : Type}

theorem breakRuling_ne_reply (g : Gateway World) (time : Reading) (r : Reply) :
    g.breakRuling time ≠ .reply r := by
  unfold breakRuling
  split <;> simp

theorem lossRuling_ne_reply (g : Gateway World) (time : Reading) (r : Reply) :
    g.lossRuling time ≠ .reply r := by
  unfold lossRuling
  split
  · simp
  · exact g.breakRuling_ne_reply time r

/-- Only a message with a reply brings one. -/
theorem kind_of_messageRuling {g : Gateway World} {time : Reading} {message : Message} {r : Reply}
    (h : g.messageRuling time message = .reply r) : message.kind = .reply r := by
  unfold messageRuling at h
  split at h <;> rename_i hkind
  · rw [hkind]
    cases h
    rfl
  · cases h
  · cases h

/-- A frame that brings a reply is counted, and its reply is taken up. -/
theorem onFrame_of_reply {g : Gateway World} (link : Link World) {time : Reading}
    {bytes : List UInt8} {r : Reply} (h : g.frameRuling time bytes = .reply r) :
    g.onFrame link time bytes = g.countFrame.onReply r := by
  unfold frameRuling at h
  split at h <;> rename_i hdecode
  · rw [onFrame_of_decode link time hdecode]
    simp only [onMessage, kind_of_messageRuling h]
  · cases h

/-- A reply that is taken up changes a gateway in no other way, apart from what is counted. -/
theorem step_of_reply {g : Gateway World} (link : Link World) {time : Reading} {item : Item}
    {r : Reply} (h : g.ruling time item = .reply r) :
    ∃ counters, g.step link time item =
      { g with journal := [], counters := counters }.onReply r := by
  unfold ruling at h
  by_cases hrunning : g.running = true
  · rw [if_pos hrunning] at h
    cases item with
    | connectFailed generation error =>
        simp only [itemRuling] at h
        split at h
        · exact absurd h (g.breakRuling_ne_reply time r)
        · cases h
    | heartbeatTick generation =>
        simp only [itemRuling] at h
        split at h
        · exact absurd h (g.lossRuling_ne_reply time r)
        · cases h
    | transport generation event =>
        simp only [itemRuling] at h
        split at h <;> rename_i hcurrent
        · cases event with
          | frame bytes =>
              subst hcurrent
              refine ⟨g.countFrame.counters, (step_of_current link hrunning time _).trans ?_⟩
              exact onFrame_of_reply (g := { g with journal := [] }) link h
          | closed reason => exact absurd h (g.lossRuling_ne_reply time r)
          | _ => cases h
        · cases h
    | _ => cases h
  · rw [if_neg hrunning] at h
    cases h

/-- A reply that is interim or has no number has no effect. -/
theorem onReply_of_interim (g : Gateway World) {r : Reply}
    (h : r.transactionId = none ∨ r.status.isTerminal = false) : g.onReply r = g := by
  unfold onReply
  rw [Pending.resolve_of_interim _ h]
  rfl

/-- A terminal reply to a transaction that is not pending goes to every sink. -/
theorem onReply_of_unknown (g : Gateway World) {r : Reply} {id : Nat}
    (hid : r.transactionId = some id) (hstatus : r.status.isTerminal = true)
    (hnone : g.pending.find? id = none) :
    g.onReply r = g.publish (.reply ⟨id, .any, .unrecognized⟩) := by
  unfold onReply
  rw [Pending.resolve_of_terminal _ hid hstatus, hnone]
  rfl

end Gateway

/-! ## Fates -/

namespace Transaction

/-- What has become of a transaction since it was made pending. -/
inductive Fate where
  | pending
  /-- A frame was not written, and the transaction was taken back. -/
  | withdrawn
  /-- The transaction was given an outcome while these were the subscriptions. -/
  | ended (outcome : Outcome) (subscriptions : Subscriptions)

namespace Fate

/-- The transaction, while it is pending. -/
def entry? (entry : Entry) : Fate → Option Entry
  | .pending => some entry
  | _ => none

/-- What whoever submitted the transaction was told. -/
def settlements (entry : Entry) : Fate → List (Nat × Resolution)
  | .ended outcome _ =>
      [(entry.issuer, ⟨entry.transactionId, some entry.intent, outcome⟩)]
  | _ => []

/-- What sinks were told: those on the asset of the transaction and those on the wildcard. -/
def recognised (entry : Entry) : Fate → List (SinkId × Notice)
  | .ended outcome subscriptions =>
      let notice := ⟨entry.transactionId, entry.intent.asset, outcome⟩
      (subscriptions.fanout entry.intent.asset (.reply notice)).called.map (·, notice)
  | _ => []

end Fate

end Transaction

namespace System

open TerminalGateway.Gateway
open TerminalGateway.Message (Reply)
open TerminalGateway.Transaction (Entry Fate Notice Outcome Pending Ruling)

variable {World : Type} {link : Link World}

/-- The fate of a transaction after a turn.  What has ended stays as it is. -/
def fateAfterTurn (s : System World) (turn : Turn) (entry : Entry) : Fate → Fate
  | .pending =>
      if s.withdraws? turn = some entry.transactionId then .withdrawn
      else ((s.ruling turn).outcome? entry).elim .pending fun outcome =>
        .ended outcome s.gateway.subscriptions
  | fate => fate

/-- The fate of a transaction after a run. -/
def fateAfter (link : Link World) (entry : Entry) : System World → Fate → List Turn → Fate
  | _, fate, [] => fate
  | s, fate, turn :: rest =>
      (s.step? link turn).elim fate fun next =>
        fateAfter link entry next (s.fateAfterTurn turn entry fate) rest

/-- The pending transactions and what was told agree with the fate of a transaction. -/
structure Account (s : System World) (entry : Entry) (fate : Fate) : Prop where
  pending : s.gateway.pending.find? entry.transactionId = fate.entry? entry
  settled : settlements entry.transactionId s.log = fate.settlements entry
  recognised : recognised entry.transactionId s.log = fate.recognised entry

/-- A number was given and is not due. -/
structure Spent (s : System World) (id : Nat) : Prop where
  given : id < s.gateway.pending.nextId
  undue : ∀ number, s.due? number ≠ some id

/-- No transaction is made pending under a number that is spent. -/
theorem Spent.ne_of_registers {s : System World} {id : Nat} (hspent : s.Spent id) {turn : Turn}
    {entry : Entry} (h : s.registers? turn = some entry) : entry.transactionId ≠ id := by
  rintro rfl
  rcases due?_of_registers h with ⟨time, number, -, hdue⟩
  exact hspent.undue number hdue

/-- A number that is spent stays so. -/
theorem Spent.step {s next : System World} {turn : Turn} {id : Nat} (hspent : s.Spent id)
    (htidy : s.gateway.pending.IsTidy) (hstep : s.step? link turn = some next) :
    next.Spent id := by
  refine ⟨Nat.lt_of_lt_of_le hspent.given (nextId_le_of_step htidy hstep), ?_⟩
  intro number hdue
  rcases due?_of_step hstep hdue with ⟨hbefore, -⟩ | ⟨-, hid, -⟩
  · exact hspent.undue number hbefore
  · exact absurd hspent.given (hid ▸ Nat.lt_irrefl _)

theorem ruling_of_withdraws {s : System World} {turn : Turn} {id : Nat}
    (h : s.withdraws? turn = some id) : s.ruling turn = .nothing := by
  cases turn with
  | item time item => cases h
  | _ => rfl

/-- Nothing more comes of a transaction that is no longer pending. -/
theorem Account.keep {s next : System World} {turn : Turn} {entry : Entry} {fate : Fate}
    (haccount : s.Account entry fate) (hspent : s.Spent entry.transactionId)
    (hledger : s.Ledger) (hstep : s.step? link turn = some next)
    (hover : fate.entry? entry = none) : next.Account entry fate := by
  have hnone : s.gateway.pending.find? entry.transactionId = none :=
    haccount.pending.trans hover
  have hfind := find?_of_step hledger.tidy hstep fun _ h => hspent.ne_of_registers h
  rcases told_of_step hledger.tidy hstep entry.transactionId with ⟨hsettled, hrecognised⟩
  rw [Pending.ending?, hnone] at hsettled hrecognised
  rw [hnone] at hfind
  refine ⟨?_, ?_, ?_⟩
  · simpa [hover] using hfind
  · simpa [haccount.settled] using hsettled
  · simpa [haccount.recognised] using hrecognised

/-- The sinks that are told of the end of a pending transaction are those on its asset and those
on the wildcard. -/
theorem Ledger.notified_eq {s : System World} (hledger : s.Ledger) {entry : Entry}
    (hpending : s.gateway.pending.find? entry.transactionId = some entry) (outcome : Outcome) :
    notified s.gateway.subscriptions (entry.complete outcome).resolution.notice =
      Fate.recognised entry (.ended outcome s.gateway.subscriptions) := by
  have hne := hledger.assets entry (Pending.of_find? hpending).2
  cases hasset : entry.intent.asset with
  | any => exact absurd hasset hne
  | instrument classCode secCode =>
      simp [notified, Fate.recognised, Entry.complete, Transaction.Resolution.notice,
        Subscriptions.publish, Event.asset?, hasset, Asset.isAny]

/-- A turn keeps accounts. -/
theorem Account.step {s next : System World} {turn : Turn} {entry : Entry} {fate : Fate}
    (haccount : s.Account entry fate) (hspent : s.Spent entry.transactionId)
    (hledger : s.Ledger) (hstep : s.step? link turn = some next) :
    next.Account entry (s.fateAfterTurn turn entry fate) := by
  cases fate with
  | withdrawn => exact haccount.keep hspent hledger hstep rfl
  | ended outcome subscriptions => exact haccount.keep hspent hledger hstep rfl
  | pending =>
      have hpending : s.gateway.pending.find? entry.transactionId = some entry :=
        haccount.pending
      have hfind := find?_of_step hledger.tidy hstep fun _ h => hspent.ne_of_registers h
      rcases told_of_step hledger.tidy hstep entry.transactionId with ⟨hsettled, hrecognised⟩
      rw [hpending] at hfind
      rw [haccount.settled, Pending.ending?, hpending] at hsettled
      rw [haccount.recognised, Pending.ending?, hpending] at hrecognised
      -- A turn that takes the transaction back is no item, so it brings no ruling either.
      by_cases hwithdraws : s.withdraws? turn = some entry.transactionId
      · have hfate : s.fateAfterTurn turn entry .pending = .withdrawn := if_pos hwithdraws
        rw [if_pos hwithdraws] at hfind
        rw [ruling_of_withdraws hwithdraws] at hsettled hrecognised
        rw [hfate]
        exact ⟨hfind, hsettled, hrecognised⟩
      · rw [if_neg hwithdraws, Option.filter_some] at hfind
        cases houtcome : (s.ruling turn).outcome? entry with
        | none =>
            have hfate : s.fateAfterTurn turn entry .pending = .pending := by
              simp [fateAfterTurn, hwithdraws, houtcome]
            rw [hfate]
            refine ⟨?_, ?_, ?_⟩
            · simpa [Fate.entry?, houtcome] using hfind
            · simpa [houtcome] using hsettled
            · simpa [houtcome] using hrecognised
        | some outcome =>
            have hfate : s.fateAfterTurn turn entry .pending =
                .ended outcome s.gateway.subscriptions := by
              simp [fateAfterTurn, hwithdraws, houtcome]
            rw [hfate]
            refine ⟨?_, ?_, ?_⟩
            · simpa [Fate.entry?, houtcome] using hfind
            · simpa [Fate.settlements, Entry.complete, houtcome] using hsettled
            · rw [← hledger.notified_eq hpending outcome]
              simpa [Fate.recognised, houtcome] using hrecognised

/-- A run keeps accounts. -/
theorem Account.run {s last : System World} {entry : Entry} {fate : Fate} {turns : List Turn}
    (haccount : s.Account entry fate) (hspent : s.Spent entry.transactionId)
    (hledger : s.Ledger) (hrun : s.run? link turns = some last) :
    last.Account entry (fateAfter link entry s fate turns) := by
  induction turns generalizing s fate with
  | nil =>
      cases hrun
      exact haccount
  | cons turn rest ih =>
      rcases Option.bind_eq_some_iff.mp hrun with ⟨next, hstep, hrest⟩
      have hfate : fateAfter link entry s fate (turn :: rest) =
          fateAfter link entry next (s.fateAfterTurn turn entry fate) rest := by
        simp only [fateAfter, hstep, Option.elim_some]
      rw [hfate]
      exact ih (haccount.step hspent hledger hstep) (hspent.step hledger.tidy hstep)
        (hledger.step hstep) hrest

theorem ruling_of_registers {s : System World} {turn : Turn} {entry : Entry}
    (h : s.registers? turn = some entry) : s.ruling turn = .nothing := by
  cases turn with
  | item time item => cases h
  | _ => rfl

/-- A transaction that was made pending is pending, and nothing was told about it. -/
theorem account_of_registers {s next : System World} {turn : Turn} {entry : Entry}
    (hledger : s.Ledger) (hstep : s.step? link turn = some next)
    (hentry : s.registers? turn = some entry) : next.Account entry .pending := by
  have huntold := (hledger.of_registers hentry).2
  rcases told_of_step hledger.tidy hstep entry.transactionId with ⟨hsettled, hrecognised⟩
  rw [ruling_of_registers hentry, huntold.settled, Pending.ending?, huntold.pending] at hsettled
  rw [ruling_of_registers hentry, huntold.recognised, Pending.ending?, huntold.pending]
    at hrecognised
  refine ⟨?_, hsettled, hrecognised⟩
  rw [find?_of_registers hledger.tidy hstep hentry, if_pos rfl]
  rfl

/-- The number of a transaction that was made pending is spent. -/
theorem spent_of_registers {s next : System World} {turn : Turn} {entry : Entry}
    (hledger : s.Ledger) (hstep : s.step? link turn = some next)
    (hentry : s.registers? turn = some entry) : next.Spent entry.transactionId := by
  have hgiven := (hledger.of_registers hentry).1
  refine ⟨Nat.lt_of_lt_of_le hgiven (nextId_le_of_step hledger.tidy hstep), ?_⟩
  intro number hdue
  rcases due?_of_step hstep hdue with ⟨hbefore, hturn⟩ | ⟨-, -, hnone, -⟩
  · exact hledger.ne_of_registers hbefore hturn hentry rfl
  · rw [hentry] at hnone
    cases hnone

/-! ## Settling -/

/-- The transaction that a turn is about, if it is about a single one: that of a reply, or the one
that a submission makes pending or takes back. -/
def concerns? (s : System World) (turn : Turn) : Option Nat :=
  match s.ruling turn with
  | .reply r => r.transactionId
  | _ => ((s.registers? turn).map Entry.transactionId).or (s.withdraws? turn)

/-- A turn that gives a transaction no outcome, and does not make it pending or take it back,
leaves it as it is. -/
theorem unchanged_of_step {s next : System World} {turn : Turn} {id : Nat} (hledger : s.Ledger)
    (hstep : s.step? link turn = some next)
    (hregisters : ∀ entry, s.registers? turn = some entry → entry.transactionId ≠ id)
    (hwithdraws : s.withdraws? turn ≠ some id)
    (houtcome : ∀ entry, entry.transactionId = id → (s.ruling turn).outcome? entry = none) :
    next.gateway.pending.find? id = s.gateway.pending.find? id ∧
      settlements id next.log = settlements id s.log ∧
      recognised id next.log = recognised id s.log := by
  have hfind := find?_of_step hledger.tidy hstep hregisters
  rcases told_of_step hledger.tidy hstep id with ⟨hsettled, hrecognised⟩
  rw [if_neg hwithdraws] at hfind
  cases hfound : s.gateway.pending.find? id with
  | none =>
      rw [Pending.ending?, hfound] at hsettled hrecognised
      rw [hfound] at hfind
      exact ⟨hfind, by simpa using hsettled, by simpa using hrecognised⟩
  | some entry =>
      have hnone := houtcome entry (Pending.of_find? hfound).1
      rw [Pending.ending?, hfound] at hsettled hrecognised
      rw [hfound, Option.filter_some] at hfind
      refine ⟨by simpa [hnone] using hfind, ?_, ?_⟩
      · simpa [hnone] using hsettled
      · simpa [hnone] using hrecognised

/-- A turn that is about one transaction leaves all others as they are. -/
theorem unchanged_of_concerns {s next : System World} {turn : Turn} {id other : Nat}
    (hledger : s.Ledger) (hstep : s.step? link turn = some next)
    (hconcerns : s.concerns? turn = some id) (hother : other ≠ id) :
    next.gateway.pending.find? other = s.gateway.pending.find? other ∧
      settlements other next.log = settlements other s.log ∧
      recognised other next.log = recognised other s.log := by
  unfold concerns? at hconcerns
  cases turn with
  | item time item =>
      refine unchanged_of_step hledger hstep (by simp [registers?]) (by simp [withdraws?]) ?_
      intro entry hentry
      split at hconcerns <;> rename_i hruling
      · rw [hruling, Pending.outcome?_reply, hconcerns, if_neg]
        rintro ⟨hsame, -⟩
        exact hother (hentry.symm.trans (Option.some.inj hsame).symm)
      · cases hconcerns
  | advance time number =>
      rcases Option.map_eq_some_iff.mp hstep with ⟨submission, hsubmission, -⟩
      have hsingle : ((submission.registers? time).map Entry.transactionId).or
          submission.withdraws? = some id := by
        rw [← registers?_advance hsubmission time, ← withdraws?_advance hsubmission time]
        exact hconcerns
      refine unchanged_of_step hledger hstep ?_ ?_ fun _ _ => rfl
      · intro entry hentry
        rw [registers?_advance hsubmission] at hentry
        rw [hentry] at hsingle
        exact fun hsame => hother (hsame.symm.trans (Option.some.inj hsingle))
      · intro hwithdraws
        rw [withdraws?_advance hsubmission] at hwithdraws
        cases submission with
        | failing transactionId error =>
            cases hwithdraws
            cases hsingle
            exact hother rfl
        | _ => cases hwithdraws
  | submit issuer intent => cases hconcerns
  | raw text => cases hconcerns

/-- A reply that is interim or has no number changes only what is counted. -/
theorem gateway_of_interim {s next : System World} {turn : Turn} {r : Reply}
    (hstep : s.step? link turn = some next) (hruling : s.ruling turn = .reply r)
    (hinterim : r.transactionId = none ∨ r.status.isTerminal = false) :
    next.gateway = { s.cleared with counters := next.gateway.counters } := by
  cases turn with
  | item time item =>
      rcases Option.map_eq_some_iff.mp hstep with ⟨tasks, -, rfl⟩
      rcases step_of_reply link hruling with ⟨counters, hreply⟩
      have hnext : s.gateway.step link time item = { s.cleared with counters := counters } :=
        hreply.trans (onReply_of_interim _ hinterim)
      have hcounters : (s.gateway.step link time item).counters = counters :=
        congrArg Gateway.counters hnext
      exact hnext.trans (hcounters ▸ rfl)
  | _ => cases hruling

/-- A terminal reply to a transaction that is not pending is told every sink and changes no
pending transaction. -/
theorem gateway_of_unknown {s next : System World} {turn : Turn} {r : Reply} {id : Nat}
    (hstep : s.step? link turn = some next) (hruling : s.ruling turn = .reply r)
    (hid : r.transactionId = some id) (hstatus : r.status.isTerminal = true)
    (hnone : s.gateway.pending.find? id = none) :
    next.gateway.pending = s.gateway.pending ∧
      next.gateway.journal =
        (s.gateway.subscriptions.broadcast (.reply ⟨id, .any, .unrecognized⟩)).called.map
          fun sink => .called sink (.reply ⟨id, .any, .unrecognized⟩) := by
  cases turn with
  | item time item =>
      rcases Option.map_eq_some_iff.mp hstep with ⟨tasks, -, rfl⟩
      rcases step_of_reply link hruling with ⟨counters, hreply⟩
      have hnext : s.gateway.step link time item =
          { s.cleared with counters := counters }.publish (.reply ⟨id, .any, .unrecognized⟩) :=
        hreply.trans (onReply_of_unknown _ hid hstatus hnone)
      have hpending : (s.gateway.step link time item).pending = s.gateway.pending := by
        rw [hnext]
        rfl
      have hjournal : (s.gateway.step link time item).journal =
          [] ++ (s.gateway.subscriptions.publish (.reply ⟨id, .any, .unrecognized⟩)).called.map
            fun sink => .called sink (.reply ⟨id, .any, .unrecognized⟩) := by
        rw [hnext]
        rfl
      exact ⟨hpending, hjournal⟩
  | _ => cases hruling

/-- How a system settles transactions. -/
structure Settles (link : Link World) (s : System World) : Prop where
  /-- A reply that is interim or has no number changes only what is counted, and is told nobody. -/
  interim : ∀ turn next r, s.step? link turn = some next → s.ruling turn = .reply r →
    r.transactionId = none ∨ r.status.isTerminal = false →
      next.gateway = { s.cleared with counters := next.gateway.counters }
  /-- A terminal reply to a transaction that is not pending changes no pending transaction, and is
  told every sink once. -/
  unknown : ∀ turn next r id, s.step? link turn = some next → s.ruling turn = .reply r →
    r.transactionId = some id → r.status.isTerminal = true →
    s.gateway.pending.find? id = none →
      next.gateway.pending = s.gateway.pending ∧
        next.gateway.journal =
          (s.gateway.subscriptions.broadcast (.reply ⟨id, .any, .unrecognized⟩)).called.map
            fun sink => .called sink (.reply ⟨id, .any, .unrecognized⟩)
  /-- What is about one transaction leaves all others as they are. -/
  alone : ∀ turn next id other, s.step? link turn = some next → s.concerns? turn = some id →
    other ≠ id →
      next.gateway.pending.find? other = s.gateway.pending.find? other ∧
        settlements other next.log = settlements other s.log ∧
        recognised other next.log = recognised other s.log
  /-- After a transaction was made pending, whatever comes agrees with its one fate. -/
  account : ∀ turn registered entry after last, s.step? link turn = some registered →
    s.registers? turn = some entry → registered.run? link after = some last →
      last.Account entry (fateAfter link entry registered .pending after)

/-- Every run from the start leads to a system that settles each transaction once. -/
theorem settles_of_run {settings : Settings} {world : World} {turns : List Turn}
    {s : System World} (hrun : (start settings world).run? link turns = some s) :
    s.Settles link := by
  have hledger := ledger_of_run hrun
  refine ⟨?_, ?_, ?_, ?_⟩
  · exact fun _ _ _ hstep hruling => gateway_of_interim hstep hruling
  · exact fun _ _ _ _ hstep hruling => gateway_of_unknown hstep hruling
  · exact fun _ _ _ _ hstep hconcerns => unchanged_of_concerns hledger hstep hconcerns
  · intro turn registered entry after last hstep hentry hafter
    exact (account_of_registers hledger hstep hentry).run
      (spent_of_registers hledger hstep hentry) (hledger.step hstep) hafter

/-! ## An order that is accepted -/

/-- An order for shares at the market price, as a pending transaction. -/
def shareOrder : Entry :=
  ⟨1, .newOrder (.instrument "TQBR" "SBER") .buy .zero .zero, 0, 5⟩

/-- A sink subscribes to the shares, and the order is submitted and given a number. -/
def ordering : List Turn :=
  bridgeLogin ++
    [.item midnight (.subscribe shareOrder.intent.asset 9 [.reply]),
      .submit shareOrder.issuer shareOrder.intent, .advance midnight 0, .advance midnight 0]

/-- The bridge says that the order was accepted. -/
def acceptance : Turn :=
  hear 1 "\x7b\"id\":\"1_reply\",\"result\":\x7b\"status\":3,\"order_num\":\"77\"\x7d\x7d"

/-- An order that is accepted twice is settled once. -/
theorem settles_shareOrder :
    ∃ s registered last, (start bridgeSettings ()).run? openLink ordering = some s ∧
      s.Settles openLink ∧ s.step? openLink (.advance midnight 0) = some registered ∧
      registered.run? openLink [acceptance, acceptance] = some last ∧
      settlements 1 last.log = [(5, ⟨1, some shareOrder.intent, .accepted (some "77")⟩)] := by
  have hwhole : (((start bridgeSettings ()).run? openLink ordering).bind fun s =>
      (s.step? openLink (.advance midnight 0)).bind fun registered =>
        (registered.run? openLink [acceptance, acceptance]).map fun _ =>
          (s.registers? (.advance midnight 0),
            (fateAfter openLink shareOrder registered .pending [acceptance, acceptance]).settlements
              shareOrder)) =
      some (some shareOrder,
        [(5, ⟨1, some shareOrder.intent, .accepted (some "77")⟩)]) := by decide +kernel
  rcases Option.bind_eq_some_iff.mp hwhole with ⟨s, hrun, hregistered⟩
  rcases Option.bind_eq_some_iff.mp hregistered with ⟨registered, hstep, hlast⟩
  rcases Option.map_eq_some_iff.mp hlast with ⟨last, hafter, hpair⟩
  rcases Prod.mk.inj hpair with ⟨hentry, hfate⟩
  have hsettles : s.Settles openLink := settles_of_run hrun
  have haccount := hsettles.account _ registered shareOrder _ last hstep hentry hafter
  exact ⟨s, registered, last, hrun, hsettles, hstep, hafter, haccount.settled.trans hfate⟩

end System

end TerminalGateway
