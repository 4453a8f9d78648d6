import TerminalGateway.Proofs.Race.Outlook
import TerminalGateway.Proofs.Transaction.Ledger

/-!
# The roster of submissions

What is known of every submission while others, and the gateway, take their steps in between.  No
number is given twice; nobody knows of a transaction before it is pending; and once it was made
pending it is pending still, or its submitter was told its outcome, once.  Only the submission
itself takes it back, and then it was not sent.

Main definitions:

- `Gateway.Resolves`: each transaction is left as it is, or ended and its submitter told.
- `System.Accounted`: what may have become of a transaction that was made pending.
- `System.Roster`: the invariant of submissions.

Main results:

- Theorem `Gateway.resolves_perform`, `Gateway.resolves_take`: what a job does to transactions.
- Theorem `System.Roster.resolve`, `System.Roster.beside`: the steps of the gateway and those of
  submissions keep the roster.
- Theorem `Race.roster_of_run`: every run keeps the roster.
-/

namespace TerminalGateway

namespace Gateway

open TerminalGateway.Transaction (Entry Outcome Pending Resolution Ruling)

variable {World : Type}

/-! ## What a job does to transactions -/

/-- Each transaction is left as it is, or it is ended and its submitter told. -/
structure Resolves (g next : Gateway World) : Prop where
  tidy : next.pending.IsTidy
  nextId : next.pending.nextId = g.pending.nextId
  each : ∀ id, (next.pending.find? id = g.pending.find? id ∧
      settlements id next.journal = settlements id g.journal) ∨
    ∃ entry outcome, g.pending.find? id = some entry ∧ next.pending.find? id = none ∧
      settlements id next.journal = settlements id g.journal ++
        [(entry.issuer, ⟨id, some entry.intent, outcome⟩)]

variable {g next : Gateway World}

/-- What changes no pending transaction and brings no verdict leaves each transaction as it is. -/
theorem resolves_of_same (htidy : g.pending.IsTidy) (hpending : next.pending = g.pending)
    (hsettled : ∀ id, settlements id next.journal = settlements id g.journal) :
    Resolves g next := by
  refine ⟨hpending ▸ htidy, congrArg Pending.nextId hpending, fun id => .inl ⟨?_, hsettled id⟩⟩
  rw [hpending]

theorem resolves_of_books (htidy : g.pending.IsTidy) (hbooks : next.books = g.books) :
    Resolves g next := by
  refine resolves_of_same htidy (congrArg Books.pending hbooks) fun id => ?_
  have hverdicts : next.journal.filter Effect.isVerdict = g.journal.filter Effect.isVerdict :=
    congrArg Books.verdicts hbooks
  rw [← settlements_filter_isVerdict, hverdicts, settlements_filter_isVerdict]

/-- A ruling leaves each transaction as it is, or ends it and tells its submitter. -/
theorem resolves_of_rule {ruling : Ruling} (htidy : g.pending.IsTidy)
    (hpending : next.pending = g.pending.left ruling)
    (hverdicts : next.journal.filter Effect.isVerdict =
      g.journal.filter Effect.isVerdict ++ pronounce g.subscriptions g.pending ruling) :
    Resolves g next := by
  refine ⟨hpending ▸ htidy.left ruling, by rw [hpending]; rfl, fun id => ?_⟩
  have hsettled : settlements id next.journal = settlements id g.journal ++
      (g.pending.ending? ruling id).toList.map fun ended => (ended.issuer, ended.resolution) := by
    rw [← settlements_filter_isVerdict id next.journal, hverdicts, settlements_append,
      settlements_filter_isVerdict, settlements_pronounce htidy]
  have hleft : next.pending.find? id =
      (g.pending.find? id).filter fun entry => (ruling.outcome? entry).isNone := by
    rw [hpending, htidy.find?_left]
  cases hfound : g.pending.find? id with
  | none => exact .inl (by simp_all [Pending.ending?])
  | some entry =>
      have hid := (Pending.of_find? hfound).1
      cases houtcome : ruling.outcome? entry with
      | none => exact .inl (by simp_all [Pending.ending?])
      | some outcome =>
          refine .inr ⟨entry, outcome, rfl, by simp_all, ?_⟩
          simp_all [Pending.ending?, Entry.complete]

/-- Sinks are told nothing that only concerns submitters. -/
theorem settlements_publishAll (id : Nat) (g : Gateway World) (events : List Event) :
    settlements id (g.publishAll events).journal = settlements id g.journal := by
  induction events generalizing g with
  | nil => rfl
  | cons event rest ih =>
      have hcalled : settlements id ((g.subscriptions.publish event).called.map
          fun sink => Effect.called sink event) = [] := by
        refine List.filterMap_eq_nil_iff.mpr fun effect heffect => ?_
        rcases List.mem_map.mp heffect with ⟨sink, -, rfl⟩
        rfl
      have hpublish : settlements id (g.publish event).journal = settlements id g.journal := by
        rw [publish, settlements_append, hcalled, List.append_nil]
      exact (ih (g.publish event)).trans hpublish

theorem pending_publishAll (g : Gateway World) (events : List Event) :
    (g.publishAll events).pending = g.pending := by
  induction events generalizing g with
  | nil => rfl
  | cons event rest ih => exact ih (g.publish event)

/-- One transaction is taken from the table and its submitter told. -/
theorem resolves_finish (htidy : g.pending.IsTidy) {id : Nat} {entry : Entry}
    (hfound : g.pending.find? id = some entry) (outcome : Outcome) :
    Resolves g ({ g with pending := g.pending.without id }.record
      (.settled (entry.complete outcome).issuer (entry.complete outcome).resolution)) := by
  have hentry := (Pending.of_find? hfound).1
  refine ⟨htidy.without id, rfl, fun other => ?_⟩
  by_cases hother : other = id
  · subst hother
    refine .inr ⟨entry, outcome, hfound, ?_, ?_⟩
    · exact (g.pending.find?_without other other).trans (if_pos rfl)
    · simp [settlements, record, Entry.complete, hentry]
  · refine .inl ⟨(g.pending.find?_without id other).trans (if_neg hother), ?_⟩
    simp [settlements, record, Entry.complete, hentry, Ne.symm hother]

/-- A job leaves each transaction as it is, or ends it and tells its submitter. -/
theorem resolves_perform (htidy : g.pending.IsTidy) (link : Link World)
    (shards : List (Nat → Bool)) (time : Reading) (job : Job) :
    Resolves g (g.perform link shards time job).1 := by
  have hsame : ∀ {next : Gateway World}, next.books = g.books → Resolves g next :=
    resolves_of_books htidy
  cases job with
  | say texts =>
      cases texts with
      | nil => exact hsame rfl
      | cons text rest =>
          have hsend := books_send link g text
          rcases hsent : g.send link text with ⟨result, next⟩
          rw [hsent] at hsend
          cases result <;> simp only [perform, hsent] <;> exact hsame hsend
  | takeWriter => cases hwriter : g.writer <;> simp only [perform, hwriter] <;> exact hsame rfl
  | closeLine writer => exact hsame (books_closeLine link g writer)
  | retire trigger => exact hsame (books_trigger _ trigger)
  | answerOrRetry error =>
      cases hcaller : g.caller with
      | some caller =>
          simp only [perform, hcaller]
          exact hsame (books_answer g _)
      | none =>
          rcases hretry : g.life.scheduleRetry with ⟨delay, life⟩
          simp only [perform, hcaller, hretry]
          cases delay with
          | none => exact hsame rfl
          | some delay =>
              refine hsame ?_
              unfold retry
              rw [hretry]
              dsimp only
              split
              · exact books_openSession _
              · exact books_record_of_not_isVerdict _ rfl
  | expire bound => exact hsame rfl
  | look now bound parts found => cases parts <;> exact hsame rfl
  | finish ids ended =>
      cases ids with
      | nil => exact resolves_of_same htidy (pending_publishAll g _) fun id =>
          settlements_publishAll id g _
      | cons id ids =>
          cases hfound : g.pending.find? id with
          | none =>
              simp only [perform, hfound]
              exact hsame rfl
          | some entry =>
              simp only [perform, hfound]
              exact resolves_finish htidy hfound .timedOut
  | enter =>
      refine hsame ((books_answer _ _).trans ?_)
      exact (books_record_of_not_isVerdict _ rfl).trans (books_trigger g .replayDone)
  | release caller => exact hsame (books_record_of_not_isVerdict g rfl)
  | refuse error => exact hsame (books_answer g _)
  | stop => exact hsame (books_answer g _)

theorem books_takeEnd (g : Gateway World) : g.takeEnd.1.books = g.books := by
  unfold takeEnd
  split <;> simp

theorem books_takeLoss (g : Gateway World) : g.takeLoss.1.books = g.books := by
  unfold takeLoss
  split <;> simp

theorem books_takeVerdict (g : Gateway World) (verdict : Verdict) :
    (g.takeVerdict verdict).1.books = g.books := by
  cases verdict with
  | proceed => rfl
  | enter => exact books_trigger _ .sessionOpened
  | refuse error => exact (books_stopTasks _).trans (books_trigger g .authFailed)

/-- The first job of a report leaves each transaction as it is, or ends it. -/
theorem resolves_takeReport (htidy : g.pending.IsTidy) (link : Link World) (time : Reading)
    (event : Transport.Event) : Resolves g (g.takeReport link time event).1 := by
  have hwhole : Resolves g (g.onTransport link time event) := by
    have hbooks := books_onTransport htidy link time event
    exact resolves_of_rule htidy (congrArg Books.pending hbooks) (congrArg Books.verdicts hbooks)
  cases event with
  | opened => exact resolves_of_books htidy rfl
  | frame bytes =>
      simp only [takeReport]
      cases g.outline.core.verdict? bytes with
      | some verdict =>
          exact resolves_of_books htidy (books_takeVerdict g.countFrame verdict)
      | none => exact hwhole
  | closed reason => exact resolves_of_books htidy g.books_takeLoss
  | error text => exact hwhole
  | pong => exact hwhole

/-- The first job of an item leaves each transaction as it is, or ends it. -/
theorem resolves_takeItem (htidy : g.pending.IsTidy) (link : Link World) (time : Reading)
    (item : Item) : Resolves g (g.takeItem link time item).1 := by
  have hwhole : Resolves g (g.handle link time item) := by
    have hbooks := books_handle htidy link time item
    exact resolves_of_rule htidy hbooks.1 hbooks.2
  have hsame : ∀ {next : Gateway World}, next.books = g.books → Resolves g next :=
    resolves_of_books htidy
  cases item with
  | close caller => exact hsame g.books_takeEnd
  | shutdown => exact hsame g.books_takeEnd
  | subscribe asset sink declared => exact resolves_of_same htidy rfl fun _ => rfl
  | sessionReady generation writer =>
      simp only [takeItem]
      split
      · exact hsame rfl
      · exact hsame (books_closeLine link g writer)
  | connectFailed generation error =>
      simp only [takeItem]
      split
      · exact hsame (books_trigger _ .connectFailed)
      · exact hsame rfl
  | transport generation event =>
      simp only [takeItem]
      split
      · exact resolves_takeReport htidy link time event
      · exact hsame rfl
  | heartbeatTick generation =>
      simp only [takeItem]
      split
      · split
        · exact hsame g.books_takeLoss
        · exact hsame (books_probe link g)
      · exact hsame rfl
  | expirySweep => exact hsame rfl
  | connect caller => exact hwhole
  | unsubscribe asset sink => exact hwhole
  | reconnect generation => exact hwhole

/-- The first job of an item leaves each transaction as it is, or ends it. -/
theorem resolves_take (htidy : g.pending.IsTidy) (link : Link World) (time : Reading)
    (item : Item) : Resolves { g with journal := [] } (g.take link time item).1 := by
  unfold take
  split
  · exact resolves_takeItem (g := { g with journal := [] }) htidy link time item
  · exact resolves_of_books htidy rfl

end Gateway

namespace Submission

open TerminalGateway.Transaction (Pending)

/-! ## Submissions -/

/-- The number that the transaction of a submission was given. -/
def number? : Submission → Option Nat
  | .numbered _ _ id _ => some id
  | .writing id _ => some id
  | .failing id _ => some id
  | .sent id => some id
  | _ => none

/-- A step of a submission concerns no transaction but its own. -/
theorem find?_filed_of_ne {submission : Submission} {id : Nat} (h : submission.number? ≠ some id)
    (time : Gateway.Reading) (pending : Pending) :
    (submission.filed time pending).find? id = pending.find? id := by
  have hregisters : ∀ entry, submission.registers? time = some entry →
      entry.transactionId ≠ id := by
    rintro entry hentry rfl
    cases submission <;> cases hentry
    exact h rfl
  have hwithdraws : submission.withdraws? ≠ some id := by
    intro hsame
    cases submission <;> cases hsame
    exact h rfl
  rw [find?_filed hregisters, if_neg hwithdraws]

end Submission

namespace System

open TerminalGateway.Gateway
open TerminalGateway.Transaction (Outcome)

variable {World : Type} {link : Link World}

/-- Nobody knows of a transaction. -/
structure Unknown (s : System World) (id : Nat) : Prop where
  pending : s.gateway.pending.find? id = none
  settled : settlements id s.log = []

/-- What may have become of a transaction that was made pending. -/
inductive Accounted (s : System World) (id issuer : Nat) (intent : Intent) : Prop
  /-- It is pending, and its submitter was told nothing. -/
  | pending (submittedAt : Nat)
      (hpending : s.gateway.pending.find? id = some ⟨id, intent, submittedAt, issuer⟩)
      (hsettled : settlements id s.log = [])
  /-- It is not pending any longer, and its submitter was told its outcome once. -/
  | settled (outcome : Outcome) (hpending : s.gateway.pending.find? id = none)
      (hsettled : settlements id s.log = [(issuer, ⟨id, some intent, outcome⟩)])

/-- What is true of a submission that was begun by an issuer with an intent. -/
def Stands (s : System World) (issuer : Nat) (intent : Intent) : Submission → Prop
  | .waiting owner wanted => owner = issuer ∧ wanted = intent
  | .admitted owner wanted => owner = issuer ∧ wanted = intent
  | .numbered owner wanted id frames =>
      owner = issuer ∧ wanted = intent ∧ frames ≠ [] ∧ s.Unknown id
  | .writing id _ => s.Accounted id issuer intent
  | .failing id _ => s.Accounted id issuer intent
  | .sent id => s.Accounted id issuer intent
  | .refused _ => True

/-- The number that a submission, known by its place, gave to its transaction. -/
def number? (s : System World) (place : Nat) : Option Nat :=
  (s.submissions[place]?).bind Submission.number?

/-- What is known of every submission, by what was asked for. -/
structure Roster (requests : List (Nat × Intent)) (s : System World) : Prop where
  tidy : s.gateway.pending.IsTidy
  length : s.submissions.length = requests.length
  stands : ∀ (place : Nat) (submission : Submission), s.submissions[place]? = some submission →
    ∃ issuer intent, requests[place]? = some (issuer, intent) ∧ s.Stands issuer intent submission
  /-- Numbers that were given are below the next one. -/
  given : ∀ place id, s.number? place = some id → id < s.gateway.pending.nextId
  /-- No number was given twice. -/
  alone : ∀ place other id, s.number? place = some id → s.number? other = some id → place = other
  later : ∀ id, s.gateway.pending.nextId ≤ id → s.Unknown id

/-! ## Steps of the gateway -/

section

variable {s next : System World} {requests : List (Nat × Intent)} {id issuer : Nat}
  {intent : Intent}

/-- Each transaction is left as it is, or it is ended and its submitter told. -/
theorem each_of_resolves (hresolves : Resolves s.cleared next.gateway)
    (hlog : next.log = s.log ++ next.gateway.journal) (id : Nat) :
    (next.gateway.pending.find? id = s.gateway.pending.find? id ∧
      settlements id next.log = settlements id s.log) ∨
    ∃ entry outcome, s.gateway.pending.find? id = some entry ∧
      next.gateway.pending.find? id = none ∧
      settlements id next.log = settlements id s.log ++
        [(entry.issuer, ⟨id, some entry.intent, outcome⟩)] := by
  rw [hlog, settlements_append]
  rcases hresolves.each id with ⟨hfind, hsettled⟩ | ⟨entry, outcome, hfind, hnone, hsettled⟩
  · refine .inl ⟨hfind, ?_⟩
    rw [hsettled]
    exact List.append_nil _
  · refine .inr ⟨entry, outcome, hfind, hnone, ?_⟩
    rw [hsettled]
    rfl

theorem Unknown.resolve (hunknown : s.Unknown id) (hresolves : Resolves s.cleared next.gateway)
    (hlog : next.log = s.log ++ next.gateway.journal) : next.Unknown id := by
  rcases each_of_resolves hresolves hlog id with ⟨hfind, hsettled⟩ | ⟨entry, outcome, hfind, -⟩
  · exact ⟨hfind.trans hunknown.pending, hsettled.trans hunknown.settled⟩
  · rw [hunknown.pending] at hfind
    cases hfind

/-- A pending transaction stays pending or is ended, and one that was ended stays so. -/
theorem Accounted.resolve (haccounted : s.Accounted id issuer intent)
    (hresolves : Resolves s.cleared next.gateway)
    (hlog : next.log = s.log ++ next.gateway.journal) : next.Accounted id issuer intent := by
  rcases each_of_resolves hresolves hlog id with
    ⟨hfind, hsettled⟩ | ⟨entry, outcome, hfind, hnone, hsettled⟩
  · cases haccounted with
    | pending submittedAt hpending hnothing =>
        exact .pending submittedAt (hfind.trans hpending) (hsettled.trans hnothing)
    | settled outcome hpending hone =>
        exact .settled outcome (hfind.trans hpending) (hsettled.trans hone)
  · cases haccounted with
    | pending submittedAt hpending hnothing =>
        rw [hpending] at hfind
        cases hfind
        refine .settled outcome hnone ?_
        rw [hsettled, hnothing]
        rfl
    | settled outcome hpending hone =>
        rw [hpending] at hfind
        cases hfind

/-- The steps of the gateway keep the roster. -/
theorem Roster.resolve (hroster : Roster requests s) (hresolves : Resolves s.cleared next.gateway)
    (hsubmissions : next.submissions = s.submissions)
    (hlog : next.log = s.log ++ next.gateway.journal) : Roster requests next := by
  have hnumber : ∀ place, next.number? place = s.number? place := by
    intro place
    rw [number?, number?, hsubmissions]
  have hnextId : next.gateway.pending.nextId = s.gateway.pending.nextId := hresolves.nextId
  refine ⟨hresolves.tidy, hsubmissions ▸ hroster.length, ?_, ?_, ?_, ?_⟩
  · intro place submission hsubmission
    rw [hsubmissions] at hsubmission
    rcases hroster.stands place submission hsubmission with ⟨issuer, intent, hrequest, hstands⟩
    refine ⟨issuer, intent, hrequest, ?_⟩
    cases submission with
    | numbered owner wanted id frames =>
        rcases hstands with ⟨howner, hwanted, hframes, hunknown⟩
        exact ⟨howner, hwanted, hframes, hunknown.resolve hresolves hlog⟩
    | writing id frames => exact Accounted.resolve hstands hresolves hlog
    | failing id error => exact Accounted.resolve hstands hresolves hlog
    | sent id => exact Accounted.resolve hstands hresolves hlog
    | _ => exact hstands
  · intro place id hid
    rw [hnextId]
    exact hroster.given place id (hnumber place ▸ hid)
  · intro place other id hplace hother
    exact hroster.alone place other id (hnumber place ▸ hplace) (hnumber other ▸ hother)
  · intro id hid
    exact (hroster.later id (hnextId ▸ hid)).resolve hresolves hlog

end

/-! ## Steps of submissions -/

/-- What a turn begins to submit, with its issuer. -/
def Turn.submits? : Turn → Option (Nat × Intent)
  | .submit issuer intent => some (issuer, intent)
  | _ => none

section

variable {s next : System World} {requests : List (Nat × Intent)} {turn : Turn}

/-- Only the gateway ends transactions. -/
theorem settlements_of_beside (htidy : s.gateway.pending.IsTidy)
    (hstep : s.step? link turn = some next) (hbeside : ∀ time item, turn ≠ .item time item)
    (id : Nat) : settlements id next.log = settlements id s.log := by
  have hruling : s.ruling turn = .nothing := by
    cases turn with
    | item time item => exact absurd rfl (hbeside time item)
    | _ => rfl
  have hending : s.gateway.pending.ending? .nothing id = none := by
    unfold Transaction.Pending.ending?
    cases s.gateway.pending.find? id <;> rfl
  have htold := (told_of_step htidy hstep id).1
  rw [hruling, hending] at htold
  exact htold.trans (List.append_nil _)

/-- What is true of a submission stays true while its own transaction is left as it is. -/
theorem Stands.of_same {issuer : Nat} {intent : Intent} {submission : Submission}
    (hstands : s.Stands issuer intent submission)
    (hfind : ∀ id, submission.number? = some id →
      next.gateway.pending.find? id = s.gateway.pending.find? id)
    (hsettled : ∀ id, settlements id next.log = settlements id s.log) :
    next.Stands issuer intent submission := by
  have haccounted : ∀ id, submission.number? = some id → s.Accounted id issuer intent →
      next.Accounted id issuer intent := by
    intro id hid haccounted
    cases haccounted with
    | pending submittedAt hpending hnothing =>
        exact .pending submittedAt ((hfind id hid).trans hpending) ((hsettled id).trans hnothing)
    | settled outcome hpending hone =>
        exact .settled outcome ((hfind id hid).trans hpending) ((hsettled id).trans hone)
  cases submission with
  | numbered owner wanted id frames =>
      rcases hstands with ⟨howner, hwanted, hframes, hpending, hnothing⟩
      exact ⟨howner, hwanted, hframes, (hfind id rfl).trans hpending, (hsettled id).trans hnothing⟩
  | writing id frames => exact haccounted id rfl hstands
  | failing id error => exact haccounted id rfl hstands
  | sent id => exact haccounted id rfl hstands
  | _ => exact hstands

/-- A submission that takes a step makes its transaction pending, or leaves it as it is, or takes
it back and is over. -/
theorem Stands.step {issuer : Nat} {intent : Intent} {submission : Submission} {time : Reading}
    (hstands : s.Stands issuer intent submission)
    (hfresh : s.Unknown s.gateway.pending.nextId)
    (hpending : next.gateway.pending = submission.filed time s.gateway.pending)
    (hsettled : ∀ id, settlements id next.log = settlements id s.log) :
    next.Stands issuer intent (submission.step link time s.cleared).1 := by
  cases submission with
  | waiting owner wanted =>
      simp only [Submission.step]
      split
      · exact hstands
      · trivial
  | admitted owner wanted =>
      simp only [Submission.step]
      split <;> rename_i hframes
      · refine ⟨hstands.1, hstands.2, ?_, ?_, (hsettled _).trans hfresh.settled⟩
        · rcases Submission.frames_of_transaction hframes with ⟨order, rfl⟩ | ⟨_, _, -, rfl⟩
          · simp
          · simp
        · rw [hpending]
          exact hfresh.pending
      · trivial
  | numbered owner wanted id frames =>
      rcases hstands with ⟨rfl, rfl, -, hunknown⟩
      refine .pending time.now ?_ ((hsettled id).trans hunknown.settled)
      have hregisters : (Submission.numbered owner wanted id frames).registers? time =
          some ⟨id, wanted, time.now, owner⟩ := rfl
      rw [hpending, Submission.find?_filed_of_registers hregisters]
      exact if_pos rfl
  | writing id frames =>
      have hsame : next.Stands issuer intent (.writing id frames) :=
        hstands.of_same (fun _ _ => by rw [hpending]; rfl) hsettled
      cases frames with
      | nil => exact hsame
      | cons frame frames =>
          rcases hsent : s.cleared.send link frame with ⟨result, g⟩
          cases result <;> simp only [Submission.step, hsent] <;> exact hsame
  | failing id error => trivial
  | refused error => trivial
  | sent id => exact hstands.of_same (fun _ _ => by rw [hpending]; rfl) hsettled

end

end System

namespace Submission

open TerminalGateway.Gateway

variable {World : Type}

/-- A submission keeps its number; one that was admitted is given the next one. -/
theorem number?_of_step {link : Link World} {time : Reading} {g : Gateway World}
    {submission : Submission} {id : Nat} (h : (submission.step link time g).1.number? = some id) :
    submission.number? = some id ∨
      (submission.number? = none ∧ id = g.pending.nextId ∧
        (submission.filed time g.pending).nextId = g.pending.nextId + 1) := by
  cases submission with
  | waiting issuer intent =>
      simp only [step] at h
      split at h <;> cases h
  | admitted issuer intent =>
      simp only [step] at h
      split at h
      · cases h
        exact .inr ⟨rfl, rfl, rfl⟩
      · cases h
  | numbered issuer intent transactionId frames => exact .inl h
  | writing transactionId frames =>
      refine .inl ?_
      cases frames with
      | nil => exact h
      | cons frame frames =>
          rcases hsent : g.send link frame with ⟨result, next⟩
          cases result <;> simp only [step, hsent] at h <;> exact h
  | failing transactionId error => cases h
  | refused error => cases h
  | sent transactionId => exact .inl h

end Submission

namespace System

open TerminalGateway.Gateway

variable {World : Type} {link : Link World} {s next : System World}
  {requests : List (Nat × Intent)} {turn : Turn}

/-- A number was given before, or is the next one and is given now. -/
theorem number?_of_step (htidy : s.gateway.pending.IsTidy)
    (hstep : s.step? link turn = some next) {place id : Nat} (h : next.number? place = some id) :
    s.number? place = some id ∨
      ((∃ time, turn = .advance time place) ∧ id = s.gateway.pending.nextId ∧
        next.gateway.pending.nextId = s.gateway.pending.nextId + 1) := by
  rcases Option.bind_eq_some_iff.mp h with ⟨submission, hsubmission, hid⟩
  rcases submission_of_step hstep hsubmission with
    ⟨hbefore, -⟩ | ⟨issuer, intent, rfl⟩ | ⟨time, before, rfl, hbefore, rfl⟩
  · exact .inl (by rw [number?, hbefore]; exact hid)
  · cases hid
  · rcases Submission.number?_of_step hid with hsame | ⟨-, hnext, hfiled⟩
    · exact .inl (by rw [number?, hbefore]; exact hsame)
    · refine .inr ⟨⟨time, rfl⟩, hnext, ?_⟩
      rw [(books_of_step htidy hstep).1, filed_advance hbefore]
      exact hfiled

/-- A step of a submission concerns no transaction but its own. -/
theorem find?_of_beside (htidy : s.gateway.pending.IsTidy)
    (hstep : s.step? link turn = some next) (hbeside : ∀ time item, turn ≠ .item time item)
    {id : Nat} (hother : ∀ time place, turn = .advance time place → s.number? place ≠ some id) :
    next.gateway.pending.find? id = s.gateway.pending.find? id := by
  rw [(books_of_step htidy hstep).1]
  cases turn with
  | item time item => exact absurd rfl (hbeside time item)
  | advance time place =>
      rcases Option.map_eq_some_iff.mp hstep with ⟨submission, hsubmission, -⟩
      have hne := hother time place rfl
      rw [number?, hsubmission] at hne
      rw [filed_advance hsubmission]
      exact Submission.find?_filed_of_ne hne time _
  | submit issuer intent => rfl
  | raw text => rfl

/-- What is true of the submissions stays true when one of them takes a step or a new one
begins. -/
theorem Roster.stands_of_beside (hroster : Roster requests s)
    (hstep : s.step? link turn = some next) (hbeside : ∀ time item, turn ≠ .item time item)
    {place : Nat} {submission : Submission}
    (hsubmission : next.submissions[place]? = some submission) :
    ∃ issuer intent, (requests ++ turn.submits?.toList)[place]? = some (issuer, intent) ∧
      next.Stands issuer intent submission := by
  have htidy := hroster.tidy
  have hsettled := settlements_of_beside htidy hstep hbeside
  -- What was there before and takes no step has a transaction of its own, which is left alone.
  have hsame : s.submissions[place]? = some submission →
      (∀ time, turn ≠ .advance time place) →
      ∃ issuer intent, (requests ++ turn.submits?.toList)[place]? = some (issuer, intent) ∧
        next.Stands issuer intent submission := by
    intro hbefore hturn
    rcases hroster.stands place submission hbefore with ⟨issuer, intent, hrequest, hstands⟩
    refine ⟨issuer, intent, ?_, hstands.of_same (fun id hid => ?_) hsettled⟩
    · rw [List.getElem?_append_left (List.getElem?_eq_some_iff.mp hrequest).1, hrequest]
    · refine find?_of_beside htidy hstep hbeside fun time other hadvance hnumber => ?_
      have hplace : s.number? place = some id := by rw [number?, hbefore]; exact hid
      exact hturn time (hroster.alone place other id hplace hnumber ▸ hadvance)
  cases turn with
  | item time item => exact absurd rfl (hbeside time item)
  | submit issuer intent =>
      have hnext : next.submissions = s.submissions ++ [.waiting issuer intent] := by
        cases hstep
        rfl
      rw [hnext, List.getElem?_append] at hsubmission
      split at hsubmission <;> rename_i hplace
      · exact hsame hsubmission (by simp)
      · rw [List.getElem?_singleton] at hsubmission
        split at hsubmission <;> cases hsubmission
        refine ⟨issuer, intent, ?_, rfl, rfl⟩
        have hlast : place = requests.length := by
          have hlength := hroster.length
          omega
        rw [hlast, List.getElem?_append_right (Nat.le_refl _), Nat.sub_self]
        rfl
  | advance time other =>
      rcases Option.map_eq_some_iff.mp hstep with ⟨before, hbefore, rfl⟩
      by_cases hother : other = place
      · subst hother
        have hset : (s.submissions.set other (before.step link time s.cleared).1)[other]? =
            some submission := hsubmission
        rw [List.getElem?_set_self (List.getElem?_eq_some_iff.mp hbefore).1] at hset
        cases hset
        rcases hroster.stands other before hbefore with ⟨issuer, intent, hrequest, hstands⟩
        refine ⟨issuer, intent, ?_, ?_⟩
        · rw [List.getElem?_append_left (List.getElem?_eq_some_iff.mp hrequest).1, hrequest]
        · refine hstands.step (hroster.later _ (Nat.le_refl _)) ?_ hsettled
          rw [(books_of_step htidy hstep).1, filed_advance hbefore]
      · have hset : (s.submissions.set other (before.step link time s.cleared).1)[place]? =
            some submission := hsubmission
        rw [List.getElem?_set_ne hother] at hset
        exact hsame hset (by simp [hother])
  | raw text =>
      refine hsame ?_ (by simp)
      cases hstep
      exact hsubmission

/-- The steps of submissions keep the roster. -/
theorem Roster.beside (hroster : Roster requests s) (hstep : s.step? link turn = some next)
    (hbeside : ∀ time item, turn ≠ .item time item) :
    Roster (requests ++ turn.submits?.toList) next := by
  have htidy := hroster.tidy
  have hmono := nextId_le_of_step htidy hstep
  refine ⟨tidy_of_step htidy hstep, ?_, ?_, ?_, ?_, ?_⟩
  · rw [List.length_append, ← hroster.length]
    cases turn with
    | item time item => exact absurd rfl (hbeside time item)
    | submit issuer intent =>
        cases hstep
        exact List.length_append
    | advance time place =>
        rcases Option.map_eq_some_iff.mp hstep with ⟨submission, -, rfl⟩
        exact List.length_set
    | raw text =>
        cases hstep
        rfl
  · exact fun place submission => hroster.stands_of_beside hstep hbeside
  · intro place id hid
    rcases number?_of_step htidy hstep hid with hbefore | ⟨-, rfl, hnext⟩
    · exact Nat.lt_of_lt_of_le (hroster.given place id hbefore) hmono
    · rw [hnext]
      exact Nat.lt_succ_self _
  · intro place other id hplace hother
    -- A number that was given is below the next one, which is the one that is given now.
    rcases number?_of_step htidy hstep hplace with hbefore | ⟨⟨time, rfl⟩, rfl, -⟩
    · rcases number?_of_step htidy hstep hother with hotherBefore | ⟨-, rfl, -⟩
      · exact hroster.alone place other id hbefore hotherBefore
      · exact absurd (hroster.given place _ hbefore) (Nat.lt_irrefl _)
    · rcases number?_of_step htidy hstep hother with hotherBefore | ⟨⟨_, hturn⟩, -, -⟩
      · exact absurd (hroster.given other _ hotherBefore) (Nat.lt_irrefl _)
      · cases hturn
        rfl
  · intro id hid
    have hunknown := hroster.later id (Nat.le_trans hmono hid)
    refine ⟨?_, (settlements_of_beside htidy hstep hbeside id).trans hunknown.settled⟩
    rw [find?_of_beside htidy hstep hbeside, hunknown.pending]
    intro time place _ hnumber
    have hgiven := hroster.given place id hnumber
    omega

theorem roster_start (settings : Settings) (world : World) : Roster [] (start settings world) where
  tidy := List.nodup_nil
  length := rfl
  stands _ _ hsubmission := by simp [start] at hsubmission
  given _ _ hnumber := by simp [number?, start] at hnumber
  alone _ _ _ hnumber := by simp [number?, start] at hnumber
  later _ _ := ⟨rfl, rfl⟩

end System

namespace Race

open TerminalGateway.Gateway
open TerminalGateway.System (Roster)

variable {World : Type} {link : Link World} {shards : List (Nat → Bool)}

/-! ## Runs -/

/-- What a turn begins to submit, with its issuer. -/
def Turn.submits? (turn : Turn) : Option (Nat × Intent) :=
  turn.beside?.bind System.Turn.submits?

/-- What was asked to be submitted in a run, in order. -/
def submitted (turns : List Turn) : List (Nat × Intent) :=
  turns.filterMap Turn.submits?

/-- A turn keeps the roster. -/
theorem roster_of_step {r next : Race World} {turn : Turn} {requests : List (Nat × Intent)}
    (hroster : Roster requests r.system) (hstep : Step link shards r turn next) :
    Roster (requests ++ turn.submits?.toList) next.system := by
  have htidy := hroster.tidy
  cases hstep with
  | @take time item tasks hagenda htasks =>
      have hresolves : Resolves r.system.cleared (r.system.gateway.take link time item).1 :=
        resolves_take htidy link time item
      have hnext : Roster requests ({ r.system with tasks := tasks }.leave
          (r.system.gateway.take link time item).1) := hroster.resolve hresolves rfl rfl
      simpa [Turn.submits?, Turn.beside?] using hnext
  | @work time job rest hagenda =>
      have hresolves : Resolves r.system.cleared
          (r.system.cleared.perform link shards time job).1 :=
        resolves_perform (g := r.system.cleared) htidy link shards time job
      have hnext : Roster requests
          (r.system.leave (r.system.cleared.perform link shards time job).1) :=
        hroster.resolve hresolves rfl rfl
      simpa [Turn.submits?, Turn.beside?] using hnext
  | @beside turn aside s haside hstep =>
      rw [Turn.submits?, haside]
      exact hroster.beside hstep (not_item_of_beside? haside)

/-- Every run keeps the roster, and leaves a race sound. -/
theorem roster_of_run {settings : Settings} {world : World} {turns : List Turn}
    {last : Race World} (hrun : (start settings world).run? link shards turns = some last) :
    Roster (submitted turns) last.system ∧ last.IsSound := by
  have hstart : Roster (submitted []) (start settings world).system ∧
      (start settings world).IsSound :=
    ⟨System.roster_start settings world, System.isSound_start settings world⟩
  refine run_induction (motive := fun turns r => Roster (submitted turns) r.system ∧ r.IsSound)
    hstart ?_ hrun
  rintro turns turn middle next ⟨hroster, hsound⟩ hstep
  refine ⟨?_, hsound.step hroster.tidy hstep⟩
  have hsubmitted : submitted (turns ++ [turn]) = submitted turns ++ turn.submits?.toList := by
    unfold submitted
    rw [List.filterMap_append]
    cases hturn : turn.submits? <;> simp [hturn]
  rw [hsubmitted]
  exact roster_of_step hroster hstep

end Race

end TerminalGateway
