import TerminalGateway.Proofs.Race.Conclusion

/-!
# The phases of a connection between two jobs

Between two jobs of a gateway, submissions see a connection that is halfway through an item.  This
module says once what taking up an item can make of the core and which jobs it leaves, and which
jobs a core is ready for.  What is true of the connection at every point of a race follows from the
two.

Main definitions:

- `Gateway.Taken`: what taking up an item can make of a core, and the jobs that it leaves.
- `Gateway.Suits`, `Gateway.Fits`: jobs that a core is ready for, one after the other.
- `Gateway.Steady`: a core that is open to callers only in an open session, with a writer of that
  session.
- `Race.Phased`: a race whose core is steady and ready for the jobs that are left.

Main results:

- Theorem `System.taken_take`: every item is taken up in one of the ways listed.
- Theorem `Race.phased_of_run`: every run leaves a race in its phase.
-/

namespace TerminalGateway

namespace Gateway

open TerminalGateway.Connection (next?)

variable {World : Type}

/-! ## Jobs and cores -/

/-- A job that leaves the core as it is. -/
def Job.isIdle : Job → Bool
  | .say _ => true
  | .closeLine _ => true
  | .expire _ => true
  | .look _ _ _ _ => true
  | .finish _ _ => true
  | .release _ => true
  | _ => false

theorem outlook_of_isIdle {job : Job} (hidle : job.isIdle = true) (o : Outline) :
    job.outlook o = o := by
  cases job with
  | say texts => rfl
  | closeLine writer => rfl
  | expire bound => rfl
  | look now bound shards found => rfl
  | finish ids ended => rfl
  | release caller => rfl
  | _ => cases hidle

theorem foresee_of_isIdle {jobs : List Job} (hidle : ∀ job ∈ jobs, job.isIdle = true)
    (o : Outline) : foresee jobs o = o := by
  induction jobs with
  | nil => rfl
  | cons job rest ih =>
      rw [foresee_cons, outlook_of_isIdle (hidle job List.mem_cons_self)]
      exact ih fun other hother => hidle other (List.mem_cons_of_mem _ hother)

/-- The jobs that come next for a job leave the core as it is. -/
theorem isIdle_of_perform (link : Link World) (shards : List (Nat → Bool)) (time : Reading)
    (g : Gateway World) (job : Job) :
    ∀ next ∈ (g.perform link shards time job).2, next.isIdle = true := by
  cases job with
  | say texts =>
      cases texts with
      | nil => simp [perform]
      | cons text rest =>
          rcases hsent : g.send link text with ⟨result, next⟩
          cases result <;> simp [perform, hsent, Job.isIdle]
  | takeWriter => cases hwriter : g.writer <;> simp [perform, hwriter, Job.isIdle]
  | answerOrRetry error =>
      cases hcaller : g.caller with
      | some caller => simp [perform, hcaller]
      | none =>
          rcases hretry : g.life.scheduleRetry with ⟨delay, life⟩
          cases delay <;> simp [perform, hcaller, hretry, Job.isIdle]
  | look now bound parts found => cases parts <;> simp [perform, Job.isIdle]
  | finish ids ended =>
      cases ids with
      | nil => simp [perform]
      | cons id ids => cases hfound : g.pending.find? id <;> simp [perform, hfound, Job.isIdle]
  | _ => simp [perform, Job.isIdle]

/-- A job does to the core what was foreseen. -/
theorem core_perform (link : Link World) (shards : List (Nat → Bool)) (time : Reading)
    (g : Gateway World) (job : Job) :
    (g.perform link shards time job).1.outline.core =
      (job.outlook ⟨g.outline.core, []⟩).core := by
  have hforeseen := foresee_perform link shards time g job
  rw [foresee_of_isIdle (isIdle_of_perform link shards time g job)] at hforeseen
  exact (congrArg Outline.core hforeseen).trans (core_outlook job g.outline)

/-! ## Jobs that a core is ready for -/

/-- What must hold of a core when a job is done: a session is retired after its writer was taken,
the next attempt is decided on without a connection, and callers are let in by an open session. -/
def Suits (c : Core) : Job → Prop
  | .retire trigger => c.writer = none ∧ next? c.life.state trigger = some .disconnected
  | .answerOrRetry _ => c.writer = none ∧ c.life.state = .disconnected
  | .enter => c.stage = .established
  | _ => True

/-- A core is ready for jobs that are done one after the other. -/
inductive Fits : Core → List Job → Prop
  | nil (c : Core) : Fits c []
  | cons {c : Core} {job : Job} {rest : List Job} (hsuits : Suits c job)
      (hrest : Fits (job.outlook ⟨c, []⟩).core rest) : Fits c (job :: rest)

theorem suits_of_isIdle {job : Job} (hidle : job.isIdle = true) (c : Core) : Suits c job := by
  cases job with
  | retire trigger => cases hidle
  | answerOrRetry error => cases hidle
  | enter => cases hidle
  | _ => trivial

/-- A core is ready for jobs that leave it as it is, whatever comes behind them. -/
theorem Fits.idle_append {c : Core} {jobs rest : List Job}
    (hidle : ∀ job ∈ jobs, job.isIdle = true) (h : Fits c rest) : Fits c (jobs ++ rest) := by
  induction jobs with
  | nil => exact h
  | cons job jobs ih =>
      have hjob := hidle job List.mem_cons_self
      refine .cons (suits_of_isIdle hjob c) ?_
      rw [outlook_of_isIdle hjob]
      exact ih fun other hother => hidle other (List.mem_cons_of_mem _ hother)

theorem fits_of_isIdle {c : Core} {jobs : List Job} (hidle : ∀ job ∈ jobs, job.isIdle = true) :
    Fits c jobs := by
  rw [← List.append_nil jobs]
  exact Fits.idle_append hidle (.nil c)

/-- A job that is done after all transactions were ended may be done at any time. -/
theorem fits_of_isLast {job : Job} (hlast : job.isLast = true) (c : Core) : Fits c [job] := by
  refine .cons ?_ (.nil _)
  cases job with
  | release caller => trivial
  | refuse error => trivial
  | stop => trivial
  | _ => cases hlast

/-! ## Taking up items -/

/-- What taking up an item makes of a core, and the jobs that are left. -/
inductive Taken (c : Core) : Item → Core → List Job → Prop where
  | stay {item jobs} (hidle : ∀ job ∈ jobs, job.isIdle = true) : Taken c item c jobs
  /-- The end of a session is asked for while there is none. -/
  | idle {item last} (hstate : c.life.state = .disconnected) (hwriter : c.writer = none)
      (hlast : last.isLast = true) :
      Taken c item { c with life := c.life.nextGeneration } [.expire 0, last]
  /-- A session is to be taken down. -/
  | close {item goodbye last} (caller : Option Nat)
      (hstate : c.life.state = .connecting ∨ c.life.state = .connected)
      (hlast : last.isLast = true) :
      Taken c item
        { c with
          life := { c.life with state := .disconnecting }
          caller := caller
          session := none
          ticker := none }
        [.say goodbye, .takeWriter, .retire .closed, .expire 0, last]
  /-- A session is begun. -/
  | begin {item} (caller : Option Nat) (hstate : c.life.state = .disconnected)
      (hwriter : c.writer = none) : Taken c item { c with caller := caller }.opening []
  /-- The connection was made. -/
  | ready {writer jobs} (hidle : ∀ job ∈ jobs, job.isIdle = true) :
      Taken c (.sessionReady c.life.generation writer) { c with writer := some writer } jobs
  /-- The connection was not made. -/
  | fail {item error} (hstate : c.life.state = .connecting) (hwriter : c.writer = none) :
      Taken c item c.failed [.answerOrRetry error]
  /-- The login goes on. -/
  | greet {item jobs} (stage : Stage) (hstate : c.life.state = .connecting)
      (hidle : ∀ job ∈ jobs, job.isIdle = true) : Taken c item { c with stage := stage } jobs
  /-- The session is open, and market data is asked for. -/
  | enter {item jobs} (hstate : c.life.state = .connecting)
      (hidle : ∀ job ∈ jobs, job.isIdle = true) :
      Taken c item
        { c with
          life := { c.life with state := .busy, attempts := 0 }
          stage := .established }
        (jobs ++ [.enter])
  /-- The connection is lost. -/
  | lose {item error} (hstate : c.life.state = .connecting ∨ c.life.state = .connected) :
      Taken c item { c with session := none, ticker := none }
        [.takeWriter, .retire .unexpectedClose, .answerOrRetry error]

/-- A core is ready for the jobs of the item that it has taken up. -/
theorem Taken.fits {c next : Core} {item : Item} {jobs : List Job} (h : Taken c item next jobs) :
    Fits next jobs := by
  cases h with
  | stay hidle => exact fits_of_isIdle hidle
  | idle hstate hwriter hlast => exact .cons trivial (fits_of_isLast hlast _)
  | close caller hstate hlast =>
      exact .cons trivial (.cons trivial
        (.cons ⟨rfl, rfl⟩ (.cons trivial (fits_of_isLast hlast _))))
  | begin caller hstate hwriter => exact .nil _
  | ready hidle => exact fits_of_isIdle hidle
  | fail hstate hwriter => exact .cons ⟨hwriter, rfl⟩ (.nil _)
  | greet stage hstate hidle => exact fits_of_isIdle hidle
  | enter hstate hidle => exact .idle_append hidle (.cons rfl (.nil _))
  | lose hstate =>
      have hlost : next? c.life.state .unexpectedClose = some .disconnected := by
        rcases hstate with h | h <;> rw [h] <;> rfl
      refine .cons trivial (.cons ⟨rfl, hlost⟩ (.cons ⟨rfl, ?_⟩ (.nil _)))
      simp [Job.outlook, Outline.trigger, Connection.Lifecycle.apply,
        Connection.Lifecycle.nextGeneration, hlost]

/-! ## Steady cores -/

/-- A core that is busy or connected only in an open session, and whose writer was handed over for
its session. -/
structure Steady (handed : Nat → Nat → Prop) (c : Core) : Prop where
  stage : c.life.state = .connected ∨ c.life.state = .busy → c.stage = .established
  writer : ∀ writer, c.writer = some writer → handed c.life.generation writer

variable {handed : Nat → Nat → Prop} {c next : Core}

/-- A core without a connection and without a writer. -/
theorem steady_of_disconnected (hstate : c.life.state = .disconnected) (hwriter : c.writer = none) :
    Steady handed c where
  stage h := by simp [hstate] at h
  writer writer h := by simp [hwriter] at h

theorem Steady.mono {others : Nat → Nat → Prop} (h : Steady handed c)
    (hmore : ∀ generation writer, handed generation writer → others generation writer) :
    Steady others c :=
  ⟨h.stage, fun writer hwriter => hmore _ _ (h.writer writer hwriter)⟩

/-- A session that is begun has no writer yet. -/
theorem steady_opening (caller : Option Nat) (hwriter : c.writer = none) :
    Steady handed { c with caller := caller }.opening where
  stage h := by simp [Core.opening] at h
  writer writer h := by simp [Core.opening, hwriter] at h

theorem openSession_core_of_disconnected {o : Outline}
    (hstate : o.core.life.state = .disconnected) : o.openSession.core = o.core.opening := by
  simp [Outline.openSession, Outline.trigger, Connection.Lifecycle.apply, Connection.next?,
    Connection.Lifecycle.nextGeneration, hstate, Core.opening]

/-- What becomes of a core without a connection: nothing but the count of attempts and the caller
changes, or a session is begun. -/
theorem answerOrRetry_cases (hstate : c.life.state = .disconnected) (error : ConnectError) :
    (∃ attempts caller, (Outline.answerOrRetry ⟨c, []⟩ error).core =
        { c with life := { c.life with attempts := attempts }, caller := caller }) ∨
      ∃ attempts, (Outline.answerOrRetry ⟨c, []⟩ error).core =
        { c with life := { c.life with attempts := attempts } }.opening := by
  unfold Outline.answerOrRetry
  split
  · exact .inl ⟨c.life.attempts, none, rfl⟩
  · exact .inl ⟨c.life.attempts, c.caller, rfl⟩
  · dsimp only
    split
    · exact .inr ⟨_, openSession_core_of_disconnected hstate⟩
    · exact .inl ⟨_, c.caller, rfl⟩

/-- A job that a core is ready for leaves it steady. -/
theorem Steady.outlook (h : Steady handed c) {job : Job} (hsuits : Suits c job) :
    Steady handed (job.outlook ⟨c, []⟩).core := by
  cases job with
  | takeWriter => exact ⟨h.stage, fun writer hwriter => by simp [Job.outlook] at hwriter⟩
  | retire trigger =>
      rcases hsuits with ⟨hwriter, hnext⟩
      refine steady_of_disconnected ?_ hwriter
      simp [Job.outlook, Outline.trigger, Connection.Lifecycle.apply,
        Connection.Lifecycle.nextGeneration, hnext]
  | answerOrRetry error =>
      rcases hsuits with ⟨hwriter, hstate⟩
      have hcore : ((Job.answerOrRetry error).outlook ⟨c, []⟩).core =
          (Outline.answerOrRetry ⟨c, []⟩ error).core := rfl
      rw [hcore]
      rcases answerOrRetry_cases hstate error with ⟨attempts, caller, hsame⟩ | ⟨attempts, hopened⟩
      · rw [hsame]
        exact steady_of_disconnected hstate hwriter
      · rw [hopened]
        exact steady_opening (c := { c with life := { c.life with attempts := attempts } })
          c.caller hwriter
  | enter =>
      refine ⟨fun _ => hsuits, fun writer hwriter => ?_⟩
      have hgeneration : ((Job.enter).outlook ⟨c, []⟩).core.life.generation =
          c.life.generation := by
        simp only [Job.outlook, Outline.trigger, Outline.answer]
        unfold Connection.Lifecycle.apply
        split <;> rfl
      rw [hgeneration]
      exact h.writer writer hwriter
  | _ => exact ⟨h.stage, h.writer⟩

/-- Taking up an item leaves a core steady. -/
theorem Steady.taken (h : Steady handed c) {item : Item} {jobs : List Job}
    (htaken : Taken c item next jobs)
    (hready : ∀ generation writer, item = .sessionReady generation writer →
      handed generation writer) : Steady handed next := by
  cases htaken with
  | stay hidle => exact h
  | idle hstate hwriter hlast => exact steady_of_disconnected hstate hwriter
  | close caller hstate hlast => exact ⟨by simp, h.writer⟩
  | begin caller hstate hwriter => exact steady_opening caller hwriter
  | ready hidle =>
      refine ⟨h.stage, fun writer hwriter => ?_⟩
      cases hwriter
      exact hready _ _ rfl
  | fail hstate hwriter => exact steady_of_disconnected rfl hwriter
  | greet stage hstate hidle => exact ⟨by simp [hstate], h.writer⟩
  | enter hstate hidle => exact ⟨fun _ => rfl, h.writer⟩
  | lose hstate => exact ⟨h.stage, h.writer⟩

end Gateway

namespace System

open TerminalGateway.Gateway

variable {World : Type} {s : System World}

/-! ## How items are taken up -/

theorem taken_of_outline {item : Item} {g : Gateway World} {jobs : List Job} {c : Core}
    (houtline : g.outline = ⟨c, []⟩) (hidle : ∀ job ∈ jobs, job.isIdle = true) :
    Taken c item g.outline.core jobs := by
  rw [houtline]
  exact .stay hidle

/-- A request for an end is taken up. -/
theorem taken_takeEnd {item : Item} {g : Gateway World} {last : Job} (hlast : last.isLast = true)
    (hstate : g.outline.core.life.state = .disconnected ∧ g.outline.core.writer = none ∨
      g.outline.core.life.state = .connecting ∨ g.outline.core.life.state = .connected) :
    Taken g.outline.core item g.takeEnd.1.outline.core (g.takeEnd.2 ++ [last]) := by
  have hsame : g.outline.core.life.state = g.state := rfl
  unfold takeEnd
  split <;> rename_i hdisconnected
  · have hwriter : g.outline.core.writer = none := by
      rcases hstate with ⟨-, hwriter⟩ | hopen
      · exact hwriter
      · rw [hsame, hdisconnected] at hopen
        simp at hopen
    exact .idle (hsame.trans hdisconnected) hwriter hlast
  · have hopen : g.outline.core.life.state = .connecting ∨
        g.outline.core.life.state = .connected := by
      rcases hstate with ⟨hstate, -⟩ | hopen
      · exact absurd (hsame.symm.trans hstate) hdisconnected
      · exact hopen
    have hcore : (((g.trigger .close).answer (.error .closed)).stopTasks).outline.core =
        { g.outline.core with
          life := { g.outline.core.life with state := .disconnecting }
          caller := none
          session := none
          ticker := none } := by
      simp only [outline_stopTasks, outline_answer, outline_trigger]
      rcases hopen with h | h <;>
        simp [Connection.Lifecycle.apply, Connection.next?, h]
    dsimp only
    rw [hcore]
    exact .close none hopen hlast

/-- A lost connection is taken up. -/
theorem taken_takeLoss {item : Item} {g : Gateway World}
    (hstate : g.outline.core.life.state = .connecting ∨ g.outline.core.life.state = .connected) :
    Taken g.outline.core item g.takeLoss.1.outline.core g.takeLoss.2 := by
  have hopen : ¬ (g.state = .disconnected ∨ g.state = .disconnecting) := by
    have hsame : g.outline.core.life.state = g.state := rfl
    rw [hsame] at hstate
    rcases hstate with h | h <;> simp [h]
  unfold takeLoss
  rw [if_neg hopen, outline_stopTasks]
  exact .lose hstate

/-- A verdict is taken up while the connection is being made. -/
theorem taken_takeVerdict {item : Item} {g : Gateway World}
    (hstate : g.outline.core.life.state = .connecting) (verdict : Verdict) :
    Taken g.outline.core item (g.takeVerdict verdict).1.outline.core (g.takeVerdict verdict).2 := by
  cases verdict with
  | proceed => exact .greet .sessionOpen hstate (List.forall_mem_nil _)
  | enter =>
      have hcore : (g.takeVerdict .enter).1.outline.core =
          { g.outline.core with
            life := { g.outline.core.life with state := .busy, attempts := 0 }
            stage := .established } := by
        have hopened : ({ g with stage := .established }.trigger .sessionOpened).outline.core =
            { g.outline.core with
              life := { g.outline.core.life with state := .busy }
              stage := .established } := by
          have hstage : { g with stage := .established }.outline =
              { g.outline with core := { g.outline.core with stage := .established } } := rfl
          rw [outline_trigger, hstage]
          simp [Connection.Lifecycle.apply, Connection.next?, hstate]
        have hreset : (g.takeVerdict .enter).1.outline.core =
            { ({ g with stage := .established }.trigger .sessionOpened).outline.core with
              life := ({ g with stage := .established }.trigger
                .sessionOpened).outline.core.life.resetRetries } := rfl
        rw [hreset, hopened]
        rfl
      rw [hcore]
      refine .enter hstate fun job hjob => ?_
      rcases List.mem_map.mp hjob with ⟨asset, -, rfl⟩
      rfl
  | refuse error =>
      have hcore : ((g.trigger .authFailed).stopTasks).outline.core =
          { g.outline.core with
            life := { g.outline.core.life with state := .disconnecting }
            caller := g.outline.core.caller
            session := none
            ticker := none } := by
        simp only [outline_stopTasks, outline_trigger]
        simp [Connection.Lifecycle.apply, Connection.next?, hstate]
      unfold takeVerdict
      dsimp only
      rw [hcore]
      exact .close _ (.inl hstate) rfl

/-- What the connection of the current session reports is taken up. -/
theorem taken_takeReport (link : Link World) (time : Reading) {g : Gateway World} {c : Core}
    {item : Item} (houtline : g.outline = ⟨c, []⟩) (event : Transport.Event)
    (hstage : c.stage = .auth ∨ c.stage = .sessionOpen → c.life.state = .connecting)
    (hopened : event = .opened → c.life.state = .connecting)
    (hclosed : ∀ reason, event = .closed reason →
      c.life.state = .connecting ∨ c.life.state = .connected) :
    Taken c item (g.takeReport link time event).1.outline.core
      (g.takeReport link time event).2 := by
  have hcore : g.outline.core = c := congrArg Outline.core houtline
  cases event with
  | opened =>
      have hgreeted : Taken c item { c with stage := .auth }
          (g.takeReport link time .opened).2 :=
        .greet .auth (hopened rfl) (List.forall_mem_singleton.mpr rfl)
      rw [← hcore] at hgreeted ⊢
      exact hgreeted
  | frame bytes =>
      simp only [takeReport]
      cases hverdict : g.outline.core.verdict? bytes with
      | none =>
          refine taken_of_outline ?_ (List.forall_mem_nil _)
          rw [outline_onFrame, hverdict]
          exact houtline
      | some verdict =>
          rw [hcore] at hverdict
          have hconnecting := hstage (stage_of_verdict? hverdict)
          have hcounted : g.countFrame.outline.core = c := hcore
          rw [← hcounted] at hconnecting ⊢
          exact taken_takeVerdict hconnecting verdict
  | error text => exact taken_of_outline houtline (List.forall_mem_nil _)
  | closed reason =>
      have hopen := hclosed reason rfl
      rw [← hcore] at hopen ⊢
      exact taken_takeLoss hopen
  | pong => exact taken_of_outline ((outline_onPong g time).trans houtline) (List.forall_mem_nil _)

/-- An item that may be taken up is taken up in one of the ways listed. -/
theorem taken_take (link : Link World) (time : Reading) (hsound : s.IsSound) {item : Item}
    {tasks : Tasks} (htasks : s.tasks.yield? item = some tasks) :
    Taken s.core item (s.gateway.take link time item).1.outline.core
      (s.gateway.take link time item).2 := by
  have hstanding := hsound.standing
  have hoff : ∀ hstate : s.core.life.state = .disconnected, s.core.writer = none :=
    fun hstate => (hstanding.of_disconnected hstate).2.1
  have hend : s.core.life.state = .disconnected ∧ s.core.writer = none ∨
      s.core.life.state = .connecting ∨ s.core.life.state = .connected := by
    by_cases hstate : s.core.life.state = .disconnected
    · exact .inl ⟨hstate, hoff hstate⟩
    · exact .inr (hstanding.of_ne_disconnected hstate).1
  unfold Gateway.take
  split
  swap
  · exact .stay (List.forall_mem_nil _)
  have hcleared : s.cleared.outline = ⟨s.core, []⟩ := s.outline_cleared
  change Taken s.core item (s.cleared.takeItem link time item).1.outline.core
    (s.cleared.takeItem link time item).2
  cases item with
  | connect caller =>
      simp only [takeItem, handle, onConnect]
      split <;> rename_i hstate
      · have hwaiting : { s.cleared with caller := some caller }.outline =
            ⟨{ s.core with caller := some caller }, []⟩ := rfl
        rw [outline_openSession (g := { s.cleared with caller := some caller }) hstate, hwaiting]
        exact .begin (some caller) hstate (hoff hstate)
      · rw [outline_record_of_isMark _ rfl]
        exact .stay (List.forall_mem_nil _)
  | close caller => exact taken_takeEnd (g := s.cleared) rfl hend
  | shutdown => exact taken_takeEnd (g := s.cleared) rfl hend
  | subscribe asset sink declared =>
      simp only [takeItem]
      refine .stay ?_
      split_ifs
      · exact List.forall_mem_singleton.mpr rfl
      · exact List.forall_mem_nil _
  | unsubscribe asset sink => exact .stay (List.forall_mem_nil _)
  | sessionReady generation writer =>
      simp only [takeItem]
      split <;> rename_i hcurrent
      · obtain rfl := (Connection.Lifecycle.isCurrent_iff _ _).mp hcurrent
        refine .ready fun job hjob => ?_
        rcases List.mem_map.mp hjob with ⟨previous, -, rfl⟩
        rfl
      · rw [outline_closeLine]
        exact .stay (List.forall_mem_nil _)
  | connectFailed generation error =>
      simp only [takeItem]
      split <;> rename_i hcurrent
      · obtain rfl := (Connection.Lifecycle.isCurrent_iff _ _).mp hcurrent
        rcases ((Tasks.of_pass? htasks).1 ▸ hstanding).of_connecting with
          ⟨hstate, -, hwriter, -⟩
        have hfailed : ({ s.cleared with session := none, stage := .idle }.trigger
            .connectFailed).outline.core = s.core.failed := by
          have hidle : { s.cleared with session := none, stage := .idle }.outline =
              ⟨{ s.core with session := none, stage := .idle }, []⟩ := rfl
          rw [outline_trigger, hidle]
          simp [Connection.Lifecycle.apply, Connection.next?, hstate, Core.failed]
        rw [hfailed]
        exact .fail hstate hwriter
      · exact .stay (List.forall_mem_nil _)
  | transport generation event =>
      simp only [takeItem]
      split <;> rename_i hcurrent
      · obtain rfl := (Connection.Lifecycle.isCurrent_iff _ _).mp hcurrent
        refine taken_takeReport link time hcleared event
          (fun hstage => (hstanding.of_stage hstage).1) ?_ ?_
        · rintro rfl
          exact ((Tasks.of_pass? htasks).1 ▸ hstanding).of_ready.1
        · rintro reason rfl
          exact ((Tasks.of_pass? htasks).1 ▸ hstanding).of_reading
      · exact .stay (List.forall_mem_nil _)
  | heartbeatTick generation =>
      simp only [takeItem]
      split <;> rename_i hprobed
      · split
        · exact taken_takeLoss (g := s.cleared) (.inr hprobed.2)
        · rw [outline_probe]
          exact .stay (List.forall_mem_nil _)
      · exact .stay (List.forall_mem_nil _)
  | expirySweep => exact .stay (List.forall_mem_singleton.mpr rfl)
  | reconnect generation =>
      simp only [takeItem, handle, onReconnect]
      split <;> rename_i hdue
      · rw [outline_openSession (g := s.cleared) hdue.2]
        exact .begin s.core.caller hdue.2 (hoff hdue.2)
      · exact .stay (List.forall_mem_nil _)

end System

namespace Race

open TerminalGateway.Gateway

variable {World : Type} {link : Link World} {shards : List (Nat → Bool)}

/-! ## Runs -/

/-- A writer was handed over for a session in the course of a run. -/
def Handed (turns : List Turn) (generation writer : Nat) : Prop :=
  ∃ time, .take time (.sessionReady generation writer) ∈ turns

/-- A race whose core is steady, and ready for the jobs that are left. -/
structure Phased (turns : List Turn) (r : Race World) : Prop where
  fits : Fits r.system.core r.agenda
  steady : Steady (Handed turns) r.system.core

/-- A turn leaves a race in its phase. -/
theorem Phased.step {turns : List Turn} {r next : Race World} {turn : Turn}
    (h : Phased turns r) (hsound : r.IsSound) (hstep : Step link shards r turn next) :
    Phased (turns ++ [turn]) next := by
  have hsteady : Steady (Handed (turns ++ [turn])) r.system.core :=
    h.steady.mono fun generation writer ⟨time, hmem⟩ => ⟨time, List.mem_append_left _ hmem⟩
  cases hstep with
  | @take time item tasks hagenda htasks =>
      have htaken := System.taken_take link time (hsound.system hagenda) htasks
      refine ⟨htaken.fits, hsteady.taken htaken ?_⟩
      rintro generation writer rfl
      exact ⟨time, by simp⟩
  | @work time job rest hagenda =>
      have hcore : (r.system.leave (r.system.cleared.perform link shards time job).1).core =
          (job.outlook ⟨r.system.core, []⟩).core :=
        core_perform link shards time r.system.cleared job
      have hfits := h.fits
      rw [hagenda] at hfits
      cases hfits with
      | cons hsuits hrest =>
          refine ⟨?_, ?_⟩
          · dsimp only
            rw [hcore]
            exact .idle_append (isIdle_of_perform link shards time r.system.cleared job) hrest
          · dsimp only
            rw [hcore]
            exact hsteady.outlook hsuits
  | beside haside hstep =>
      have hcore := System.core_of_beside hstep (not_item_of_beside? haside)
      refine ⟨?_, ?_⟩
      · dsimp only
        rw [hcore]
        exact h.fits
      · dsimp only
        rw [hcore]
        exact hsteady

/-- Every run leaves a race in its phase. -/
theorem phased_of_run {settings : Settings} {world : World} {turns : List Turn}
    {last : Race World} (hrun : (start settings world).run? link shards turns = some last) :
    Phased turns last := by
  have hstart : (∃ requests, System.Roster requests (start settings world).system) ∧
      (start settings world).IsSound ∧ Phased [] (start settings world) :=
    ⟨⟨[], System.roster_start settings world⟩, System.isSound_start settings world,
      .nil _, steady_of_disconnected rfl rfl⟩
  have hall : (∃ requests, System.Roster requests last.system) ∧ last.IsSound ∧
      Phased turns last := by
    refine run_induction (motive := fun turns r =>
      (∃ requests, System.Roster requests r.system) ∧ r.IsSound ∧ Phased turns r) hstart ?_ hrun
    rintro turns turn middle next ⟨⟨requests, hroster⟩, hsound, hphased⟩ hstep
    exact ⟨⟨_, roster_of_step hroster hstep⟩, hsound.step hroster.tidy hstep,
      hphased.step hsound hstep⟩
  exact hall.2.2

end Race

end TerminalGateway
