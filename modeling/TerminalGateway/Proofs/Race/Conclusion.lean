import TerminalGateway.Proofs.Race.Roster
import TerminalGateway.Proofs.Transaction.Outcome

/-!
# Orders that race with the end of a session

A transaction whose texts were all written is pending, or its submitter was told its outcome, and
when the gateway is done with an item that ends all transactions, it has been told.  This rests on
an order of steps: a transaction is pending before it is written, and the writer is taken before
the search begins.  After the search began no text can be written, as there is no writer, and what
was written before is found.

Main definitions:

- `Gateway.EndsAll`: the items that end all transactions.
- `Gateway.Announces`: jobs that take the writer and then end all transactions.
- `System.Open`: a pending transaction whose texts were all written.
- `System.Secure`: no open transaction will be left when the gateway has done its jobs.
- `Race.Faithful`: a run in which no outcome is lost.

Main results:

- Theorem `System.announces_take`: an item that ends all transactions announces it.
- Theorem `System.Secure.beside`, `System.Secure.perform`: the steps of submissions, and the jobs of
  the gateway, leave open transactions secure.
- Theorem `Race.faithful_of_run`: no run loses an outcome.
-/

namespace TerminalGateway

namespace Gateway

open TerminalGateway.Transaction (Pending)

variable {World : Type}

/-! ## Items that end all transactions -/

/-- The items that end all transactions: a request for an end, a refusal, and the end of a session
after which the gateway gives up. -/
inductive EndsAll (g : Gateway World) : Item → Prop
  | close (caller : Nat) : EndsAll g (.close caller)
  | shutdown : EndsAll g .shutdown
  /-- The terminal refuses the login or the trade session. -/
  | refused {bytes : List UInt8} {error : AuthError}
      (hverdict : g.outline.core.verdict? bytes = some (.refuse error)) :
      EndsAll g (.transport g.life.generation (.frame bytes))
  /-- The connection is not made. -/
  | unconnected {error : ConnectError} (hgives : g.givesUp = true) :
      EndsAll g (.connectFailed g.life.generation error)
  /-- The connection is lost. -/
  | lost {reason : Transport.CloseReason} (hgives : g.givesUp = true) :
      EndsAll g (.transport g.life.generation (.closed reason))
  /-- Too many probes are unanswered. -/
  | silent (hstate : g.state = .connected)
      (hoverdue : g.heartbeat.isOverdue g.settings.probing.limit = true)
      (hgives : g.givesUp = true) : EndsAll g (.heartbeatTick g.life.generation)

/-! ## Jobs that are still to end all transactions -/

/-- A job that is done while a session is taken down. -/
def Job.isClosing : Job → Bool
  | .say _ => true
  | .takeWriter => true
  | .closeLine _ => true
  | .retire _ => true
  | _ => false

/-- A job that is done after all transactions were ended. -/
def Job.isLast : Job → Bool
  | .release _ => true
  | .refuse _ => true
  | .stop => true
  | _ => false

/-- The jobs will end all transactions, and there will be no writer by then. -/
inductive Announces : Core → List Job → Prop
  | job {c : Core} {job : Job} {rest : List Job} (hclosing : job.isClosing = true)
      (h : Announces (job.outlook ⟨c, []⟩).core rest) : Announces c (job :: rest)
  | giveUp {c : Core} {error : ConnectError} {rest : List Job} (hcaller : c.caller = none)
      (hdelay : c.life.policy.delay? c.life.attempts = none) (hwriter : c.writer = none)
      (hrest : ∀ job ∈ rest, job.isLast = true) : Announces c (.answerOrRetry error :: rest)
  | expire {c : Core} {rest : List Job} (hwriter : c.writer = none)
      (hrest : ∀ job ∈ rest, job.isLast = true) : Announces c (.expire 0 :: rest)

/-- What a job does to a core does not depend on marks. -/
theorem core_outlook (job : Job) (o : Outline) :
    (job.outlook o).core = (job.outlook ⟨o.core, []⟩).core := by
  have hafter : o = Outline.after ⟨o.core, []⟩ o.marks := by simp [Outline.after]
  calc (job.outlook o).core = (job.outlook (Outline.after ⟨o.core, []⟩ o.marks)).core := by
        rw [← hafter]
    _ = (job.outlook ⟨o.core, []⟩).core := by
        rw [job.outlook_after]
        rfl

theorem announces_append {jobs rest : List Job} {o : Outline}
    (hclosing : ∀ job ∈ jobs, job.isClosing = true)
    (h : Announces (foresee jobs o).core rest) : Announces o.core (jobs ++ rest) := by
  induction jobs generalizing o with
  | nil => exact h
  | cons job jobs ih =>
      refine .job (hclosing job List.mem_cons_self) ?_
      rw [← core_outlook]
      exact ih (fun other hother => hclosing other (List.mem_cons_of_mem _ hother)) h

/-- What comes next for a job of taking a session down is such a job. -/
theorem isClosing_of_perform {job : Job} (hclosing : job.isClosing = true) (link : Link World)
    (shards : List (Nat → Bool)) (time : Reading) (g : Gateway World) :
    ∀ next ∈ (g.perform link shards time job).2, next.isClosing = true := by
  cases job with
  | say texts =>
      cases texts with
      | nil => simp [perform]
      | cons text rest =>
          rcases hsent : g.send link text with ⟨result, next⟩
          cases result <;> simp [perform, hsent, Job.isClosing]
  | takeWriter => cases hwriter : g.writer <;> simp [perform, hwriter, Job.isClosing]
  | closeLine writer => simp [perform]
  | retire trigger => simp [perform]
  | _ => simp [Job.isClosing] at hclosing

/-- A job that is done after all transactions were ended leads to no other job and leaves the writer
as it is. -/
theorem perform_of_isLast {job : Job} (hlast : job.isLast = true) (link : Link World)
    (shards : List (Nat → Bool)) (time : Reading) (g : Gateway World) :
    (g.perform link shards time job).2 = [] ∧
      (g.perform link shards time job).1.writer = g.writer := by
  have hanswer : ∀ result, (g.answer result).writer = g.writer := fun result =>
    congrArg (fun o => o.core.writer) (outline_answer g result)
  cases job with
  | release caller => exact ⟨rfl, rfl⟩
  | refuse error => exact ⟨rfl, hanswer _⟩
  | stop => exact ⟨rfl, hanswer _⟩
  | _ => cases hlast

/-- Jobs that take a session down and then end all transactions. -/
theorem announces_closing (g : Gateway World) (c : Core) {rest : List Job}
    (hrest : ∀ job ∈ rest, job.isLast = true) :
    Announces c (g.closing ++ .expire 0 :: rest) :=
  .job rfl (.job rfl (.job rfl (.expire rfl hrest)))

theorem apply_kept (life : Connection.Lifecycle) (trigger : Connection.Trigger) :
    (life.apply trigger).2.policy = life.policy ∧
      (life.apply trigger).2.attempts = life.attempts := by
  unfold Connection.Lifecycle.apply
  split <;> exact ⟨rfl, rfl⟩

theorem of_givesUp {g : Gateway World} (h : g.givesUp = true) :
    g.caller = none ∧ g.life.policy.delay? g.life.attempts = none := by
  simpa [givesUp] using h

/-- After a request for an end all transactions are still to be ended. -/
theorem announces_takeEnd {g : Gateway World} {last : Job} (hlast : last.isLast = true)
    (hidle : g.state = .disconnected → g.writer = none) :
    Announces g.takeEnd.1.outline.core (g.takeEnd.2 ++ [last]) := by
  have hrest : ∀ job ∈ [last], job.isLast = true := by simpa using hlast
  unfold takeEnd
  split <;> rename_i hstate
  · exact .expire (hidle hstate) hrest
  · exact g.announces_closing _ hrest

/-- After a loss for which the gateway gives up all transactions are still to be ended. -/
theorem announces_takeLoss {g : Gateway World} (hgives : g.givesUp = true)
    (hstate : g.state = .connecting ∨ g.state = .connected) :
    Announces g.takeLoss.1.outline.core g.takeLoss.2 := by
  rcases of_givesUp hgives with ⟨hcaller, hdelay⟩
  have hopen : ¬ (g.state = .disconnected ∨ g.state = .disconnecting) := by
    rcases hstate with h | h <;> simp [h]
  unfold takeLoss
  rw [if_neg hopen]
  have hkept := apply_kept g.life.nextGeneration .unexpectedClose
  rw [outline_stopTasks]
  refine .job rfl (.job rfl (.giveUp hcaller ?_ rfl (by simp)))
  have hlife : ((Job.retire .unexpectedClose).outlook
      ⟨((Job.takeWriter).outlook ⟨{ g.outline.core with ticker := none, session := none }, []⟩).core,
        []⟩).core.life = (g.life.nextGeneration.apply .unexpectedClose).2 := rfl
  rw [hlife, hkept.1, hkept.2]
  exact hdelay

end Gateway

namespace Submission

/-- The transaction of a submission all of whose texts were written. -/
def posted? : Submission → Option Nat
  | .writing id [] => some id
  | .sent id => some id
  | _ => none

end Submission

namespace System

open TerminalGateway.Gateway

variable {World : Type} {link : Link World} {s next : System World}

/-- When an item is taken up that ends all transactions, they are still to be ended. -/
theorem announces_take (hsound : s.IsSound) (hrunning : s.gateway.running = true)
    {time : Reading} {item : Item} {tasks : Tasks} (htasks : s.tasks.yield? item = some tasks)
    (hends : EndsAll s.gateway item) :
    Announces (s.gateway.take link time item).1.outline.core
      (s.gateway.take link time item).2 := by
  have hcurrent : s.cleared.life.isCurrent s.gateway.life.generation = true :=
    (Connection.Lifecycle.isCurrent_iff _ _).mpr rfl
  have hidle : s.gateway.state = .disconnected → s.gateway.writer = none :=
    fun hstate => (hsound.standing.of_disconnected hstate).2.1
  have htake : s.gateway.take link time item = s.cleared.takeItem link time item :=
    if_pos hrunning
  rw [htake]
  cases hends with
  | close caller => exact announces_takeEnd (g := s.cleared) rfl hidle
  | shutdown => exact announces_takeEnd (g := s.cleared) rfl hidle
  | @refused bytes error hverdict =>
      have hrefused : s.cleared.takeItem link time
          (.transport s.gateway.life.generation (.frame bytes)) =
            s.cleared.countFrame.takeVerdict (.refuse error) := by
        have hcleared : s.cleared.outline.core.verdict? bytes = some (.refuse error) := hverdict
        simp only [takeItem, hcurrent, if_true, takeReport, hcleared]
      rw [hrefused]
      exact s.cleared.countFrame.announces_closing _ (by simp [Job.isLast])
  | @unconnected error hgives =>
      rcases of_givesUp hgives with ⟨hcaller, hdelay⟩
      have hwriter : s.gateway.writer = none :=
        ((Tasks.of_pass? htasks).1 ▸ hsound.standing).of_connecting.2.2.1
      have hfailed : s.cleared.takeItem link time
          (.connectFailed s.gateway.life.generation error) =
            ({ s.cleared with session := none, stage := .idle }.trigger .connectFailed,
              [.answerOrRetry error]) := by
        simp only [takeItem, hcurrent, if_true]
      rw [hfailed]
      dsimp only
      rw [outline_trigger]
      have hkept := apply_kept s.gateway.life .connectFailed
      refine .giveUp hcaller ?_ hwriter (by simp)
      have hlife : s.gateway.life.policy.delay? s.gateway.life.attempts = none := hdelay
      rw [← hkept.1, ← hkept.2] at hlife
      exact hlife
  | @lost reason hgives =>
      -- Only a task that reads reports a loss, and there is one only while a session is on.
      have hstate : s.core.life.state = .connecting ∨ s.core.life.state = .connected :=
        ((Tasks.of_pass? htasks).1 ▸ hsound.standing).of_reading
      have hlost : s.cleared.takeItem link time
          (.transport s.gateway.life.generation (.closed reason)) = s.cleared.takeLoss := by
        simp only [takeItem, hcurrent, if_true, takeReport]
      rw [hlost]
      exact announces_takeLoss (g := s.cleared) hgives hstate
  | silent hstate hoverdue hgives =>
      have hsilent : s.cleared.takeItem link time
          (.heartbeatTick s.gateway.life.generation) = s.cleared.takeLoss := by
        have hconnected : s.cleared.state = .connected := hstate
        have hlimit : s.cleared.heartbeat.isOverdue s.cleared.settings.probing.limit = true :=
          hoverdue
        simp only [takeItem, hcurrent, hconnected, hlimit, and_self, if_true]
      rw [hsilent]
      exact announces_takeLoss (g := s.cleared) hgives (.inr hstate)

/-! ## Open transactions -/

/-- A transaction is pending, and all of its texts were written. -/
def Open (s : System World) (id : Nat) : Prop :=
  (s.gateway.pending.find? id).isSome ∧
    ∃ (place : Nat) (submission : Submission), s.submissions[place]? = some submission ∧
      submission.posted? = some id

/-- The gateway makes no transaction pending. -/
theorem open_of_resolves (hresolves : Resolves s.cleared next.gateway)
    (hsubmissions : next.submissions = s.submissions) {id : Nat} (hopen : next.Open id) :
    s.Open id := by
  rcases hopen with ⟨hpending, place, submission, hsubmission, hposted⟩
  refine ⟨?_, place, submission, hsubmissions ▸ hsubmission, hposted⟩
  rcases hresolves.each id with ⟨hfind, -⟩ | ⟨entry, outcome, hfind, -⟩
  · rw [hfind] at hpending
    exact hpending
  · have hbefore : s.gateway.pending.find? id = some entry := hfind
    rw [hbefore]
    rfl

/-- The transaction of a submission whose last text is written by a step. -/
theorem posted?_of_step {time : Reading} {g : Gateway World} {submission : Submission} {id : Nat}
    {issuer : Nat} {intent : Intent} (hstands : s.Stands issuer intent submission)
    (h : (submission.step link time g).1.posted? = some id) :
    (submission.posted? = some id ∨ g.writer ≠ none) ∧
      submission.filed time s.gateway.pending = s.gateway.pending := by
  cases submission with
  | waiting owner wanted =>
      simp only [Submission.step] at h
      split at h <;> cases h
  | admitted owner wanted =>
      simp only [Submission.step] at h
      split at h <;> cases h
  | numbered owner wanted transactionId frames =>
      cases frames with
      | nil => exact absurd rfl hstands.2.2.1
      | cons frame frames => cases h
  | writing transactionId frames =>
      cases frames with
      | nil => exact ⟨.inl h, rfl⟩
      | cons frame frames =>
          cases hwriter : g.writer with
          | none =>
              have hsent : g.send link frame = (.error .notConnected, g) := by
                simp only [send, hwriter]
              simp only [Submission.step, hsent] at h
              cases h
          | some writer => exact ⟨.inr (by simp), rfl⟩
  | failing transactionId error => cases h
  | refused error => cases h
  | sent transactionId => exact ⟨.inl h, rfl⟩

theorem number?_of_posted? {submission : Submission} {id : Nat}
    (h : submission.posted? = some id) : submission.number? = some id := by
  cases submission with
  | writing transactionId frames => cases frames <;> cases h; rfl
  | sent transactionId => exact h
  | _ => cases h

/-- A transaction whose last text is written now is written with the writer of the session. -/
theorem open_of_beside {requests : List (Nat × Intent)} {turn : Turn}
    (hroster : Roster requests s) (hstep : s.step? link turn = some next)
    (hbeside : ∀ time item, turn ≠ .item time item) {id : Nat} (hopen : next.Open id) :
    s.Open id ∨ s.gateway.writer ≠ none := by
  have htidy := hroster.tidy
  rcases hopen with ⟨hpending, place, submission, hsubmission, hposted⟩
  rcases submission_of_step hstep hsubmission with
    ⟨hbefore, hturn⟩ | ⟨issuer, intent, rfl⟩ | ⟨time, before, rfl, hbefore, rfl⟩
  · refine .inl ⟨?_, place, submission, hbefore, hposted⟩
    rwa [find?_of_beside htidy hstep hbeside] at hpending
    intro time other hadvance hnumber
    have hplace : s.number? place = some id := by
      rw [number?, hbefore]
      exact number?_of_posted? hposted
    exact hturn time (hroster.alone place other id hplace hnumber ▸ hadvance)
  · cases hposted
  · rcases hroster.stands place before hbefore with ⟨issuer, intent, -, hstands⟩
    rcases posted?_of_step hstands hposted with ⟨hsame | hwriter, hfiled⟩
    · refine .inl ⟨?_, place, before, hbefore, hsame⟩
      have hunchanged : next.gateway.pending = s.gateway.pending := by
        rw [(books_of_step htidy hstep).1, filed_advance hbefore, hfiled]
      rwa [hunchanged] at hpending
    · exact .inr hwriter

/-! ## Secure transactions -/

/-- No open transaction will be left when the gateway has done its jobs. -/
inductive Secure (s : System World) : List Job → Prop
  /-- The search is still to begin. -/
  | announced {agenda : List Job} (h : Announces s.core agenda) : Secure s agenda
  /-- There is no writer any longer, and each open transaction was found or still can be. -/
  | looking {now : Nat} {shards : List (Nat → Bool)} {found : List Nat} {rest : List Job}
      (hwriter : s.gateway.writer = none)
      (hfound : ∀ id, s.Open id → id ∈ found ∨ ∃ shard ∈ shards, shard id = true)
      (hrest : ∀ job ∈ rest, job.isLast = true) : Secure s (.look now 0 shards found :: rest)
  /-- Each open transaction is still to be ended. -/
  | finishing {ids : List Nat} {ended : List Transaction.Completed} {rest : List Job}
      (hwriter : s.gateway.writer = none) (hids : ∀ id, s.Open id → id ∈ ids)
      (hrest : ∀ job ∈ rest, job.isLast = true) : Secure s (.finish ids ended :: rest)
  /-- No transaction is open. -/
  | done {rest : List Job} (hwriter : s.gateway.writer = none) (hnone : ∀ id, ¬ s.Open id)
      (hrest : ∀ job ∈ rest, job.isLast = true) : Secure s rest

/-- When no job is left no transaction is open. -/
theorem Secure.not_open (hsecure : s.Secure []) (id : Nat) : ¬ s.Open id := by
  cases hsecure with
  | announced h => cases h
  | done hwriter hnone hrest => exact hnone id

/-- Steps of submissions leave open transactions secure: without a writer none is opened. -/
theorem Secure.beside {requests : List (Nat × Intent)} {turn : Turn} {agenda : List Job}
    (hsecure : s.Secure agenda) (hroster : Roster requests s)
    (hstep : s.step? link turn = some next) (hbeside : ∀ time item, turn ≠ .item time item) :
    next.Secure agenda := by
  have hcore : next.core = s.core := core_of_beside hstep hbeside
  have hopen : s.gateway.writer = none → ∀ id, next.Open id → s.Open id :=
    fun hwriter id h => (open_of_beside hroster hstep hbeside h).resolve_right (· hwriter)
  have hkept : s.gateway.writer = none → next.gateway.writer = none := by
    intro hwriter
    have hsame : next.gateway.writer = s.gateway.writer := congrArg Core.writer hcore
    exact hsame.trans hwriter
  cases hsecure with
  | announced h => exact .announced (hcore ▸ h)
  | looking hwriter hfound hrest =>
      exact .looking (hkept hwriter) (fun id h => hfound id (hopen hwriter id h)) hrest
  | finishing hwriter hids hrest =>
      exact .finishing (hkept hwriter) (fun id h => hids id (hopen hwriter id h)) hrest
  | done hwriter hnone hrest =>
      exact .done (hkept hwriter) (fun id h => hnone id (hopen hwriter id h)) hrest

/-- An open transaction in a part of the table is found there. -/
theorem Open.mem_overdue {id : Nat} (hopen : s.Open id) (now : Nat) {shard : Nat → Bool}
    (hshard : shard id = true) : id ∈ s.gateway.overdue now 0 shard := by
  rcases Option.isSome_iff_exists.mp hopen.1 with ⟨entry, hentry⟩
  rcases Transaction.Pending.of_find? hentry with ⟨rfl, hmem⟩
  refine List.mem_map_of_mem (List.mem_filter.mpr ⟨hmem, ?_⟩)
  simp [Transaction.Pending.isOverdue, hshard]

/-- A transaction that was ended is not open. -/
theorem not_open_of_finish {ids : List Nat} {ended : List Transaction.Completed} {id : Nat}
    (shards : List (Nat → Bool)) (time : Reading) :
    ¬ (s.leave (s.cleared.perform link shards time (.finish (id :: ids) ended)).1).Open id := by
  rintro ⟨hpending, -⟩
  have hgone : (s.cleared.perform link shards time
      (.finish (id :: ids) ended)).1.pending.find? id = none := by
    cases hfound : s.cleared.pending.find? id with
    | none =>
        simp only [Gateway.perform, hfound]
    | some entry =>
        simp only [Gateway.perform, hfound]
        exact (s.cleared.pending.find?_without id id).trans (if_pos rfl)
  have hnone : (s.leave (s.cleared.perform link shards time
      (.finish (id :: ids) ended)).1).gateway.pending.find? id = none := hgone
  rw [hnone] at hpending
  cases hpending

/-- A job that leads to the end of all transactions leaves open transactions secure. -/
theorem secure_of_announces {shards : List (Nat → Bool)} {job : Job} {rest : List Job}
    (hshards : ∀ id, ∃ shard ∈ shards, shard id = true) (h : Announces s.core (job :: rest))
    (time : Reading) :
    (s.leave (s.cleared.perform link shards time job).1).Secure
      ((s.cleared.perform link shards time job).2 ++ rest) := by
  cases h with
  | job hclosing h =>
      refine .announced (announces_append
        (o := (s.cleared.perform link shards time job).1.outline)
        (isClosing_of_perform hclosing link shards time _) ?_)
      have hforeseen : foresee (s.cleared.perform link shards time job).2
          (s.cleared.perform link shards time job).1.outline = job.outlook ⟨s.core, []⟩ :=
        foresee_perform link shards time s.cleared job
      rw [hforeseen]
      exact h
  | giveUp hcaller hdelay hwriter hrest =>
      have hretry : s.cleared.life.scheduleRetry = (none, s.cleared.life) := by
        have hnone : s.cleared.life.policy.delay? s.cleared.life.attempts = none := hdelay
        simp only [Connection.Lifecycle.scheduleRetry, hnone]
      have hnobody : s.cleared.caller = none := hcaller
      refine .announced ?_
      simp only [Gateway.perform, hnobody, hretry]
      exact .expire hwriter hrest
  | expire hwriter hrest => exact .looking hwriter (fun id _ => .inr (hshards id)) hrest

/-- A job leaves open transactions secure. -/
theorem Secure.perform {shards : List (Nat → Bool)} {job : Job} {rest : List Job}
    (hshards : ∀ id, ∃ shard ∈ shards, shard id = true) (htidy : s.gateway.pending.IsTidy)
    (hsecure : s.Secure (job :: rest)) (time : Reading) :
    (s.leave (s.cleared.perform link shards time job).1).Secure
      ((s.cleared.perform link shards time job).2 ++ rest) := by
  have hresolves : Resolves s.cleared
      (s.leave (s.cleared.perform link shards time job).1).gateway :=
    resolves_perform (g := s.cleared) htidy link shards time job
  have hopen : ∀ id, (s.leave (s.cleared.perform link shards time job).1).Open id → s.Open id :=
    fun id => open_of_resolves hresolves rfl
  -- The phases follow one another: the search goes through all parts, what it found is ended one by
  -- one, and what comes after opens nothing.
  cases hsecure with
  | announced h => exact secure_of_announces hshards h time
  | @looking now parts found rest hwriter hfound hrest =>
      cases parts with
      | nil =>
          refine .finishing hwriter (fun id h => ?_) hrest
          exact (hfound id (hopen id h)).resolve_right (by simp)
      | cons part parts =>
          refine .looking hwriter (fun id h => ?_) hrest
          rcases hfound id (hopen id h) with hbefore | ⟨shard, hshard, hid⟩
          · exact .inl (List.mem_append_left _ hbefore)
          · rcases List.mem_cons.mp hshard with rfl | hlater
            · exact .inl (List.mem_append_right _ ((hopen id h).mem_overdue now hid))
            · exact .inr ⟨shard, hlater, hid⟩
  | @finishing ids ended rest hwriter hids hrest =>
      cases ids with
      | nil =>
          have hkept := congrArg (fun o => o.core.writer)
            (foresee_perform link shards time s.cleared (.finish [] ended))
          exact .done (hkept.trans hwriter) (fun id h => by simpa using hids id (hopen id h)) hrest
      | cons id ids =>
          have hlater : ∀ other,
              (s.leave (s.cleared.perform link shards time (.finish (id :: ids) ended)).1).Open
                other → other ∈ ids := by
            intro other h
            rcases List.mem_cons.mp (hids other (hopen other h)) with rfl | hmem
            · exact absurd h (not_open_of_finish shards time)
            · exact hmem
          cases hfound : s.cleared.pending.find? id with
          | none =>
              simp only [Gateway.perform, hfound] at hlater ⊢
              exact .finishing hwriter hlater hrest
          | some entry =>
              simp only [Gateway.perform, hfound] at hlater ⊢
              exact .finishing hwriter hlater hrest
  | done hwriter hnone hrest =>
      rcases perform_of_isLast (hrest job List.mem_cons_self) link shards time s.cleared with
        ⟨hover, hkept⟩
      rw [hover]
      exact .done (hkept.trans hwriter) (fun id h => hnone id (hopen id h)) fun other hother =>
        hrest other (List.mem_cons_of_mem _ hother)

end System

namespace Race

open TerminalGateway.Gateway
open TerminalGateway.System (Accounted Roster bridgeSettings midnight openLink shareOrder)
open TerminalGateway.Transaction (Outcome)

variable {World : Type} {link : Link World} {shards : List (Nat → Bool)}

/-! ## Runs -/

/-- A turn that takes up no item leaves open transactions secure. -/
theorem secure_of_step {r next : Race World} {turn : Turn} {requests : List (Nat × Intent)}
    (hshards : ∀ id, ∃ shard ∈ shards, shard id = true) (hroster : Roster requests r.system)
    (hsecure : r.system.Secure r.agenda) (hstep : Step link shards r turn next)
    (hturn : turn.isTake = false) : next.system.Secure next.agenda := by
  cases hstep with
  | take hagenda htasks => cases hturn
  | @work time job rest hagenda =>
      rw [hagenda] at hsecure
      exact hsecure.perform hshards hroster.tidy time
  | beside haside hstep => exact hsecure.beside hroster hstep (not_item_of_beside? haside)

/-- Turns that take up no item leave open transactions secure. -/
theorem secure_of_run {r last : Race World} {turns : List Turn} {requests : List (Nat × Intent)}
    (hshards : ∀ id, ∃ shard ∈ shards, shard id = true) (hroster : Roster requests r.system)
    (hsecure : r.system.Secure r.agenda) (hturns : ∀ turn ∈ turns, turn.isTake = false)
    (hrun : r.run? link shards turns = some last) : last.system.Secure last.agenda := by
  have hkept : (∀ turn ∈ turns, turn.isTake = false) →
      (∃ requests, Roster requests last.system) ∧ last.system.Secure last.agenda := by
    refine run_induction (motive := fun turns last => (∀ turn ∈ turns, turn.isTake = false) →
      (∃ requests, Roster requests last.system) ∧ last.system.Secure last.agenda)
      (fun _ => ⟨⟨requests, hroster⟩, hsecure⟩) ?_ hrun
    intro turns turn middle next ih hstep hturns
    rcases ih fun other hother => hturns other (List.mem_append_left _ hother) with
      ⟨⟨requests, hroster⟩, hsecure⟩
    exact ⟨⟨_, roster_of_step hroster hstep⟩,
      secure_of_step hshards hroster hsecure hstep (hturns turn (by simp))⟩
  exact (hkept hturns).2

/-- When an item is taken up that ends all transactions, the open ones are secure. -/
theorem secure_of_take {r next : Race World} {time : Reading} {item : Item}
    (hsound : r.IsSound) (hrunning : r.system.gateway.running = true)
    (hends : EndsAll r.system.gateway item)
    (hstep : Step link shards r (.take time item) next) : next.system.Secure next.agenda := by
  cases hstep with
  | take hagenda htasks =>
      exact .announced (System.announces_take (hsound.system hagenda) hrunning htasks hends)
  | beside haside hstep => cases haside

/-- A run in which no outcome is lost. -/
structure Faithful (link : Link World) (shards : List (Nat → Bool)) (first : Race World)
    (turns : List Turn) (last : Race World) : Prop where
  /-- A transaction that was sent is pending still, or its submitter was told its outcome once. -/
  sent : ∀ place id : Nat, last.system.submissions[place]? = some (.sent id) →
    ∃ issuer intent, (submitted turns)[place]? = some (issuer, intent) ∧
      last.system.Accounted id issuer intent
  /-- No other submission has the number of a transaction that was sent. -/
  alone : ∀ place other id : Nat, last.system.submissions[place]? = some (.sent id) →
    last.system.number? other = some id → other = place
  /-- When the gateway is done with an item that ends all transactions, the submitter of each
  transaction that was sent has been told its outcome. -/
  concluded : ∀ {before during : List Turn} {time : Reading} {item : Item} {middle : Race World},
    turns = before ++ .take time item :: during →
    first.run? link shards before = some middle → middle.system.gateway.running = true →
    EndsAll middle.system.gateway item → (∀ turn ∈ during, turn.isTake = false) →
    last.agenda = [] → ∀ place id : Nat, last.system.submissions[place]? = some (.sent id) →
      ∃ issuer intent outcome, (submitted turns)[place]? = some (issuer, intent) ∧
        last.system.gateway.pending.find? id = none ∧
        settlements id last.system.log = [(issuer, ⟨id, some intent, outcome⟩)]

/-- No run loses an outcome, whatever steps of submissions fall between the jobs of a gateway, if
the table's parts make up the whole table. -/
theorem faithful_of_run {settings : Settings} {world : World} {turns : List Turn}
    {last : Race World} (hshards : ∀ id, ∃ shard ∈ shards, shard id = true)
    (hrun : (start settings world).run? link shards turns = some last) :
    Faithful link shards (start settings world) turns last := by
  have hroster := (roster_of_run hrun).1
  have hnumber : ∀ {place id : Nat}, last.system.submissions[place]? = some (.sent id) →
      last.system.number? place = some id := by
    intro place id hsent
    rw [System.number?, hsent]
    rfl
  have hsent : ∀ place id : Nat, last.system.submissions[place]? = some (.sent id) →
      ∃ issuer intent, (submitted turns)[place]? = some (issuer, intent) ∧
        last.system.Accounted id issuer intent :=
    fun place id h => hroster.stands place (.sent id) h
  refine ⟨hsent, fun place other id h hother => hroster.alone other place id hother (hnumber h), ?_⟩
  intro before during time item middle hturns hbefore hrunning hends hduring hover place id h
  rcases hsent place id h with ⟨issuer, intent, hrequest, haccounted⟩
  -- Taking up the item secures what is open, and nothing undoes this until all jobs are done.
  rw [hturns, run?_append, hbefore, Option.bind_some] at hrun
  rcases Option.bind_eq_some_iff.mp hrun with ⟨taken, htaken, hrest⟩
  have hstep := step_of_step? htaken
  rcases roster_of_run hbefore with ⟨hmiddle, hsound⟩
  have hsecure : last.system.Secure last.agenda :=
    secure_of_run hshards (roster_of_step hmiddle hstep)
      (secure_of_take hsound hrunning hends hstep) hduring hrest
  rw [hover] at hsecure
  cases haccounted with
  | settled outcome hpending hsettled =>
      exact ⟨issuer, intent, outcome, hrequest, hpending, hsettled⟩
  | pending submittedAt hpending hsettled =>
      exact absurd ⟨by rw [hpending]; rfl, place, .sent id, h, rfl⟩ (hsecure.not_open id)

/-! ## Orders beside a request for an end -/

/-- A table whose parts are the even and the odd numbers. -/
def halves : List (Nat → Bool) :=
  [fun id => id % 2 = 0, fun id => id % 2 = 1]

/-- A login with the bridge, and two orders that get their numbers. -/
def twoOrders : List Turn :=
  [.take midnight (.connect 0), .take midnight (.sessionReady 1 7),
    .take midnight (.transport 1 .opened), .work midnight, .work midnight,
    .take midnight (.transport 1 (.frame
      (Text.Utf8.encode "\x7b\"id\":\"msg_auth\",\"result\":[true]\x7d".toList))),
    .work midnight,
    .submit 5 shareOrder.intent, .submit 6 shareOrder.intent,
    .advance midnight 0, .advance midnight 1, .advance midnight 0, .advance midnight 1]

/-- While the session is closed, the first order is sent before the writer is taken, and the second
one comes too late. -/
def closeBetween : List Turn :=
  [.advance midnight 0, .advance midnight 0, .advance midnight 0, .advance midnight 0,
    .work midnight, .work midnight,
    .advance midnight 1, .advance midnight 1, .advance midnight 1] ++
    List.replicate 9 (.work midnight)

/-- Of two orders beside a request for an end one is sent and ended, and the other one refused. -/
theorem faithful_closeBetween :
    ∃ last, (start bridgeSettings ()).run? openLink halves
        (twoOrders ++ .take midnight (.close 9) :: closeBetween) = some last ∧
      Faithful openLink halves (start bridgeSettings ())
        (twoOrders ++ .take midnight (.close 9) :: closeBetween) last ∧
      last.agenda = [] ∧ last.system.submissions = [.sent 1, .refused .notConnected] ∧
      ∃ outcome, settlements 1 last.system.log =
        [(5, ⟨1, some shareOrder.intent, outcome⟩)] := by
  have hshards : ∀ id, ∃ shard ∈ halves, shard id = true := by
    intro id
    rcases Nat.mod_two_eq_zero_or_one id with heven | hodd
    · exact ⟨_, List.mem_cons_self, decide_eq_true heven⟩
    · exact ⟨_, List.mem_cons_of_mem _ List.mem_cons_self, decide_eq_true hodd⟩
  have hopened : ((start bridgeSettings ()).run? openLink halves twoOrders).map
      (fun middle => middle.system.gateway.running) = some true := by decide +kernel
  have hwhole : ((start bridgeSettings ()).run? openLink halves
      (twoOrders ++ .take midnight (.close 9) :: closeBetween)).map
        (fun last => (last.agenda.length, last.system.submissions)) =
      some (0, [.sent 1, .refused .notConnected]) := by decide +kernel
  rcases Option.map_eq_some_iff.mp hopened with ⟨middle, hmiddle, hrunning⟩
  rcases Option.map_eq_some_iff.mp hwhole with ⟨last, hrun, hlast⟩
  rcases Prod.mk.inj hlast with ⟨hlength, hsubmissions⟩
  have hover : last.agenda = [] := List.length_eq_zero_iff.mp hlength
  have hfaithful := faithful_of_run hshards hrun
  rcases hfaithful.concluded rfl hmiddle hrunning (.close 9) (by decide) hover 0 1
    (by rw [hsubmissions]; rfl) with ⟨issuer, intent, outcome, hrequest, -, hsettled⟩
  have hfirst : some (5, shareOrder.intent) = some (issuer, intent) := hrequest
  cases hfirst
  exact ⟨last, hrun, hfaithful, hover, hsubmissions, outcome, hsettled⟩

end Race

end TerminalGateway
