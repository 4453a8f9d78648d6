import TerminalGateway.Proofs.System.Attempts
import TerminalGateway.Proofs.System.Closing

/-!
# Retries

A gateway whose session ends unasked, while nobody waits for it, connects again as often as its
policy allows.  What it has tried since the last open session is counted through requests of
callers, failures and losses alike, so a policy with a bound is never overdrawn.  When it refuses,
the turn leaves nothing behind: no connection, no delay and no pending transaction.  A policy
without a bound never refuses, and the gateway goes on until a session is open or somebody ends the
pursuit.

Main definitions:

- `System.reconnects`, `System.scheduled`: the automatic attempts of a turn, and of a run.
- `System.Refuses`, `System.LeavesNothing`: the policy refuses, and what a turn leaves then.
- `System.Pursues`, `System.Releases`: a gateway that goes on connecting, and what ends that.
- `System.Retries`: how a gateway keeps to its policy.

Main results:

- Theorem `System.scheduled_le`: no more attempts are made than the policy allows.
- Theorem `System.Refuses.leavesNothing`: a refusal leaves nothing behind.
- Theorem `System.Pursues.run`: a pursuit goes on until it is ended by somebody.
- Theorem `System.retries_of_run`: a gateway keeps to its policy.
-/

namespace TerminalGateway

/-- A policy refuses an attempt just if that many have been made. -/
theorem Connection.RetryPolicy.delay?_eq_none_iff (policy : Connection.RetryPolicy)
    (attempt : Nat) :
    policy.delay? attempt = none ↔ ∃ bound, policy.maxRetries = some bound ∧ bound ≤ attempt := by
  unfold delay?
  cases hbound : policy.maxRetries with
  | none => simp; split <;> simp
  | some bound =>
      by_cases hspent : bound ≤ attempt
      · simp [hspent]
      · simp [hspent]
        split <;> simp

namespace System

open TerminalGateway.Gateway

variable {World : Type} {link : Link World}

/-! ## Attempts that nobody asked for -/

/-- A session ended without being asked to. -/
def isBreak : Effect → Bool
  | .triggered .connectFailed _ => true
  | .triggered .unexpectedClose _ => true
  | _ => false

/-- An attempt to connect is made, or will be after a delay. -/
def isPursuit : Effect → Bool
  | .startSession _ => true
  | .retryAfter _ _ => true
  | _ => false

/-- The automatic attempts that are decided on in one turn.  There is one if a session ended in it
without being asked to and is followed by another. -/
def reconnects (effects : List Effect) : Nat :=
  if effects.any isBreak ∧ effects.any isPursuit then 1 else 0

/-- The automatic attempts that are decided on along a run. -/
def scheduled (link : Link World) : System World → List Turn → Nat
  | _, [] => 0
  | s, turn :: rest =>
      match s.step? link turn with
      | some next => reconnects next.gateway.journal + scheduled link next rest
      | none => 0

theorem breaks_iff {next : System World} :
    Breaks next ↔ next.gateway.journal.any isBreak = true := by
  rw [List.any_eq_true]
  constructor
  · rintro ⟨state, hmem | hmem⟩
    · exact ⟨_, hmem, rfl⟩
    · exact ⟨_, hmem, rfl⟩
  · rintro ⟨effect, hmem, hbreak⟩
    unfold isBreak at hbreak
    split at hbreak
    · exact ⟨_, .inl hmem⟩
    · exact ⟨_, .inr hmem⟩
    · cases hbreak

/-- Automatic attempts are told by the marks of a turn. -/
theorem reconnects_marks (g : Gateway World) :
    reconnects g.outline.marks = reconnects g.journal := by
  have hany : ∀ sort : Effect → Bool, (∀ effect, sort effect = true → effect.isMark = true) →
      g.outline.marks.any sort = g.journal.any sort := by
    intro sort hsort
    have hboth : ∀ effect, (effect.isMark && sort effect) = sort effect := by
      intro effect
      cases h : sort effect <;> simp [hsort effect, h]
    simp [outline, List.any_filter, hboth]
  have hbreak := hany isBreak (by rintro ⟨⟩ <;> simp [isBreak, Effect.isMark])
  have hpursuit := hany isPursuit (by rintro ⟨⟩ <;> simp [isPursuit, Effect.isMark])
  simp only [reconnects, hbreak, hpursuit]

@[simp] theorem isBreak_connectFailed (state : Option Connection.State) :
    isBreak (.triggered .connectFailed state) = true :=
  rfl

@[simp] theorem isBreak_unexpectedClose (state : Option Connection.State) :
    isBreak (.triggered .unexpectedClose state) = true :=
  rfl

@[simp] theorem any_isBreak_answerMarks (c : Core) (result : Except GatewayError Unit) :
    (c.answerMarks result).any isBreak = false := by
  cases hcaller : c.caller <;> simp [Core.answerMarks, hcaller, isBreak]

/-- Marks without a broken session tell of no automatic attempt. -/
theorem reconnects_eq_zero {marks : List Effect} (h : marks.any isBreak = false) :
    reconnects marks = 0 := by
  simp [reconnects, h]

/-- What becomes of a session that ended without being asked to is counted. -/
theorem attempts_of_aftermath {error : ConnectError} {c core : Core} {marks : List Effect}
    (h : Aftermath error c marks core) {trigger : Connection.Trigger}
    {state : Option Connection.State} (htrigger : isBreak (.triggered trigger state) = true) :
    core.life.policy = c.life.policy ∧
      core.life.attempts = c.life.attempts + reconnects (.triggered trigger state :: marks) ∧
      (reconnects (.triggered trigger state :: marks) = 0 ∨
        c.life.policy.delay? c.life.attempts ≠ none) := by
  cases h with
  | told caller hcaller => simp [reconnects, htrigger, isPursuit]
  | again hcaller hdelay =>
      simp [reconnects, htrigger, isPursuit, hdelay, Core.openingMarks, Core.opening, Core.counted]
  | later delay hcaller hdelay =>
      simp [reconnects, htrigger, isPursuit, hdelay, Core.counted]
  | never hcaller hdelay => simp [reconnects, htrigger, isPursuit]

/-- A turn keeps the policy.  It opens a session and forgets the attempts that were made, or counts
those that it decides on, each of which the policy allows. -/
theorem Move.attempts {c : Core} {turn : Turn} {o : Outline} (hmove : Move c turn o) :
    o.core.life.policy = c.life.policy ∧
      (((∃ state, .triggered .sessionOpened state ∈ o.marks) ∧ o.core.life.attempts = 0) ∨
        (o.core.life.attempts = c.life.attempts + reconnects o.marks ∧
          (reconnects o.marks = 0 ∨ c.life.policy.delay? c.life.attempts ≠ none))) := by
  have hnone : ∀ {marks : List Effect} {core : Core}, core.life.attempts = c.life.attempts →
      marks.any isBreak = false → core.life.attempts = c.life.attempts + reconnects marks ∧
        (reconnects marks = 0 ∨ c.life.policy.delay? c.life.attempts ≠ none) := by
    intro marks core hsame hunbroken
    rw [reconnects_eq_zero hunbroken]
    exact ⟨hsame, .inl rfl⟩
  cases hmove with
  | enter hrunning hstate hverdict => exact ⟨rfl, .inl ⟨⟨some .busy, by simp⟩, rfl⟩⟩
  | fail hrunning hstate hafter =>
      rcases attempts_of_aftermath hafter (isBreak_connectFailed _) with ⟨hpolicy, hcount⟩
      exact ⟨hpolicy, .inr hcount⟩
  | lose hrunning hitem hstate hafter =>
      rcases attempts_of_aftermath hafter (isBreak_unexpectedClose _) with ⟨hpolicy, hcount⟩
      exact ⟨hpolicy, .inr hcount⟩
  | refuse hrunning hstate hverdict =>
      exact ⟨rfl, .inr (hnone rfl (by simp [isBreak]))⟩
  | close hrunning hends hstate =>
      exact ⟨rfl, .inr (hnone rfl (by simp [isBreak]))⟩
  | _ => exact ⟨rfl, .inr ⟨rfl, .inl rfl⟩⟩

/-! ## A policy with a bound -/

/-- A turn keeps the policy, and counts its attempts unless it opens a session. -/
theorem attempts_of_step {s next : System World} {turn : Turn} (hsound : s.IsSound)
    (hstep : s.step? link turn = some next) :
    next.gateway.life.policy = s.gateway.life.policy ∧
      (((∃ state, .triggered .sessionOpened state ∈ next.gateway.journal) ∧
          next.gateway.life.attempts = 0) ∨
        (next.gateway.life.attempts =
            s.gateway.life.attempts + reconnects next.gateway.journal ∧
          (reconnects next.gateway.journal = 0 ∨
            s.gateway.life.policy.delay? s.gateway.life.attempts ≠ none))) := by
  rcases (move_of_step hsound hstep).attempts with ⟨hpolicy, ⟨⟨state, hmem⟩, hzero⟩ | hcount⟩
  · exact ⟨hpolicy, .inl ⟨⟨state, List.mem_of_mem_filter hmem⟩, hzero⟩⟩
  · rw [reconnects_marks] at hcount
    exact ⟨hpolicy, .inr hcount⟩

/-- Every run keeps the policy of the settings. -/
theorem policy_of_run {settings : Settings} {world : World} {turns : List Turn}
    {s : System World} (hrun : (start settings world).run? link turns = some s) :
    s.gateway.life.policy = settings.retry := by
  refine run_induction (motive := fun _ s => s.gateway.life.policy = settings.retry) rfl ?_ hrun
  intro turns turn middle next hmiddle hpolicy hstep
  have hsound := (isSound_start settings world).run hmiddle
  exact (attempts_of_step hsound hstep).1.trans hpolicy

theorem reconnects_le_one (effects : List Effect) : reconnects effects ≤ 1 := by
  unfold reconnects
  split <;> simp

/-- No more attempts are counted than the policy allows. -/
theorem attempts_le_of_step {s next : System World} {turn : Turn} {bound : Nat}
    (hsound : s.IsSound) (hbound : s.gateway.life.policy.maxRetries = some bound)
    (hle : s.gateway.life.attempts ≤ bound) (hstep : s.step? link turn = some next) :
    next.gateway.life.attempts ≤ bound := by
  rcases (attempts_of_step hsound hstep).2 with ⟨-, hzero⟩ | ⟨hcount, hallowed⟩
  · omega
  · have hone := reconnects_le_one next.gateway.journal
    rcases hallowed with hnone | hdelay
    · omega
    · have hleft : ¬ bound ≤ s.gateway.life.attempts := by
        intro hspent
        exact hdelay ((Connection.RetryPolicy.delay?_eq_none_iff _ _).mpr ⟨bound, hbound, hspent⟩)
      omega

/-- No more attempts are counted than the policy allows. -/
theorem attempts_le_of_run {settings : Settings} {world : World} {turns : List Turn} {bound : Nat}
    {s : System World} (hrun : (start settings world).run? link turns = some s)
    (hbound : settings.retry.maxRetries = some bound) : s.gateway.life.attempts ≤ bound := by
  refine run_induction (motive := fun _ s => s.gateway.life.attempts ≤ bound)
    (Nat.zero_le bound) ?_ hrun
  intro turns turn middle next hmiddle hle hstep
  refine attempts_le_of_step ((isSound_start settings world).run hmiddle) ?_ hle hstep
  rw [policy_of_run hmiddle]
  exact hbound

/-- As long as no session is opened, every attempt that is decided on is counted. -/
theorem attempts_eq_of_run {s last : System World} {turns : List Turn} {later : List Effect}
    (hsound : s.IsSound) (hrun : s.run? link turns = some last)
    (hlog : last.log = s.log ++ later)
    (hopen : ∀ state, .triggered .sessionOpened state ∉ later) :
    last.gateway.life.attempts = s.gateway.life.attempts + scheduled link s turns := by
  induction turns generalizing s later with
  | nil =>
      cases hrun
      rfl
  | cons turn rest ih =>
      rcases Option.bind_eq_some_iff.mp hrun with ⟨next, hstep, hrest⟩
      rcases of_step hstep with ⟨-, -, -, hnext⟩
      rcases log_of_run hrest with ⟨after, hafter⟩
      have hlater : later = next.gateway.journal ++ after := by
        rw [hnext, List.append_assoc] at hafter
        exact List.append_cancel_left (hlog.symm.trans hafter)
      subst hlater
      have hcount : next.gateway.life.attempts =
          s.gateway.life.attempts + reconnects next.gateway.journal := by
        rcases (attempts_of_step hsound hstep).2 with ⟨⟨state, hmem⟩, -⟩ | ⟨hcount, -⟩
        · exact absurd (List.mem_append_left _ hmem) (hopen state)
        · exact hcount
      have hlast := ih (hsound.step hstep) hrest hafter fun state hmem =>
        hopen state (List.mem_append_right _ hmem)
      rw [hlast, hcount]
      simp only [scheduled, hstep]
      omega

/-- As long as no session is opened, no more attempts are decided on than the policy allows. -/
theorem scheduled_le {settings : Settings} {world : World} {turns rest : List Turn} {bound : Nat}
    {s last : System World} {later : List Effect}
    (hrun : (start settings world).run? link turns = some s)
    (hbound : settings.retry.maxRetries = some bound) (hrest : s.run? link rest = some last)
    (hlog : last.log = s.log ++ later)
    (hopen : ∀ state, .triggered .sessionOpened state ∉ later) :
    scheduled link s rest ≤ bound := by
  have hcount := attempts_eq_of_run ((isSound_start settings world).run hrun) hrest hlog hopen
  have hwhole : (start settings world).run? link (turns ++ rest) = some last := by
    rw [run?_append, hrun]
    exact hrest
  have hle := attempts_le_of_run hwhole hbound
  omega

/-! ## A refusal -/

/-- The policy refuses another attempt after a session that nobody waited for. -/
structure Refuses (s next : System World) : Prop where
  breaks : Breaks next
  caller : s.gateway.caller = none
  delay : s.gateway.life.policy.delay? s.gateway.life.attempts = none

/-- What a turn leaves that takes everything down. -/
structure LeavesNothing (s next : System World) : Prop where
  /-- There is no connection. -/
  state : next.gateway.state = .disconnected
  /-- No delay is under way for the current session. -/
  timers : next.tasks.timers next.gateway.life.generation = 0
  pending : next.gateway.pending.entries = []
  /-- Whoever submitted a transaction that was pending is told that its time is over, and then the
  sinks are. -/
  verdicts : next.gateway.journal.filter Effect.isVerdict =
    s.gateway.pending.entries.map (fun entry =>
        .settled entry.issuer ⟨entry.transactionId, some entry.intent, .timedOut⟩) ++
      s.gateway.pending.entries.flatMap fun entry =>
        announce s.gateway.subscriptions ⟨entry.transactionId, entry.intent.asset, .timedOut⟩

/-- A session ends without being asked to because its connection was not made, was lost, or leaves
too many probes unanswered. -/
theorem Move.item_of_breaks {c : Core} {turn : Turn} {o : Outline} (hmove : Move c turn o)
    {state : Option Connection.State}
    (hmem : .triggered .connectFailed state ∈ o.marks ∨
      .triggered .unexpectedClose state ∈ o.marks) :
    c.running = true ∧ (c.life.state = .connecting ∨ c.life.state = .connected) ∧
      ((∃ time error, turn = .item time (.connectFailed c.life.generation error)) ∨
        (∃ time reason, turn = .item time (.transport c.life.generation (.closed reason))) ∨
        ∃ time, turn = .item time (.heartbeatTick c.life.generation)) := by
  cases hmove with
  | fail hrunning hstate hafter => exact ⟨hrunning, .inl hstate, .inl ⟨_, _, rfl⟩⟩
  | lose hrunning hitem hstate hafter =>
      rcases hitem with ⟨reason, rfl⟩ | rfl
      · exact ⟨hrunning, hstate, .inr (.inl ⟨_, reason, rfl⟩)⟩
      · exact ⟨hrunning, hstate, .inr (.inr ⟨_, rfl⟩)⟩
  | _ => simp [Core.openingMarks, triggered_notMem_answerMarks] at hmem

/-- A reminder that finds the session alive leaves no mark. -/
theorem outline_of_tick (g : Gateway World) (link : Link World) (time : Reading)
    (hquiet : ¬ (g.state = .connected ∧ g.heartbeat.isOverdue g.settings.probing.limit = true)) :
    (g.onTick link time g.life.generation).outline = g.outline := by
  unfold onTick
  split <;> rename_i hprobed
  · split <;> rename_i hoverdue
    · exact absurd ⟨hprobed.2, hoverdue⟩ hquiet
    · exact outline_probe link g
  · rfl

/-- When a session ends without being asked to and the policy refuses, all transactions end. -/
theorem Refuses.ruling {s next : System World} {turn : Turn} (hrefuses : Refuses s next)
    (hsound : s.IsSound) (hstep : s.step? link turn = some next) :
    ∃ now, s.ruling turn = .expiry now 0 := by
  rcases hrefuses.breaks with ⟨state, hmem⟩
  have hmarks := hmem.imp triggered_mem_marks triggered_mem_marks
  rcases (move_of_step hsound hstep).item_of_breaks hmarks with ⟨hrunning, hopen, hturn⟩
  have hgives : s.gateway.givesUp = true := by
    simp [givesUp, hrefuses.caller, hrefuses.delay]
  have hgoes : s.gateway.running = true := hrunning
  have hbreak : ∀ time, s.gateway.breakRuling time = .expiry time.now 0 := by
    simp [breakRuling, hgives]
  have hloss : ∀ time, s.gateway.lossRuling time = .expiry time.now 0 := by
    intro time
    have hstate : ¬ (s.gateway.state = .disconnected ∨ s.gateway.state = .disconnecting) := by
      have hcore : s.core.life.state = s.gateway.state := rfl
      rw [hcore] at hopen
      rcases hopen with h | h <;> simp [h]
    rw [lossRuling, if_neg hstate, hbreak]
  rcases hturn with ⟨time, error, rfl⟩ | ⟨time, reason, rfl⟩ | ⟨time, rfl⟩
  · exact ⟨time.now, by
      simp [System.ruling, Gateway.ruling, hgoes, itemRuling, core, outline, hbreak]⟩
  · exact ⟨time.now, by
      simp [System.ruling, Gateway.ruling, hgoes, itemRuling, core, outline, reportRuling, hloss]⟩
  · by_cases hoverdue : s.gateway.state = .connected ∧
        s.gateway.heartbeat.isOverdue s.gateway.settings.probing.limit = true
    · exact ⟨time.now, by
        simp [System.ruling, Gateway.ruling, hgoes, itemRuling, core, outline, hoverdue, hloss]⟩
    · have hnone : next.gateway.outline.marks = [] := by
        rw [gateway_of_item hstep, Gateway.step, if_pos hgoes]
        exact congrArg Outline.marks (outline_of_tick s.cleared link time hoverdue)
      simp [hnone] at hmarks

/-- A refusal leaves nothing behind. -/
theorem Refuses.leavesNothing {s next : System World} {turn : Turn} (hrefuses : Refuses s next)
    (hsound : s.IsSound) (htidy : s.gateway.pending.IsTidy)
    (hstep : s.step? link turn = some next) : LeavesNothing s next := by
  have hconcludes : Concludes s turn next :=
    .gaveUp hrefuses.breaks hrefuses.caller hrefuses.delay
  rcases hconcludes.atRest hsound hstep with ⟨⟨hstate, htimers⟩, -⟩
  rcases hrefuses.ruling hsound hstep with ⟨now, hruling⟩
  rcases books_of_step htidy hstep with ⟨hpending, hverdicts⟩
  refine ⟨hstate, htimers, ?_, ?_⟩
  · cases turn with
    | item time item =>
        have hleft : next.gateway.pending = s.gateway.pending.left (.expiry now 0) := by
          rw [hpending, ← hruling]
          rfl
        rw [hleft, entries_left_expiry_zero]
    | _ => cases hruling
  · rw [hverdicts, hruling]
    simp [pronounce, ended_expiry_zero, Transaction.Ruling.unknown?, List.flatMap_map,
      Transaction.Entry.complete, Transaction.Resolution.notice, Function.comp_def]

/-! ## A policy without a bound -/

/-- The gateway goes on connecting: a session is being opened, or is open, or a delay is under way
after which one will be begun. -/
def Pursues (s : System World) : Prop :=
  s.gateway.state ≠ .disconnected ∨ s.tasks.timers s.gateway.life.generation = 1

/-- A turn in which somebody ends the pursuit of a session. -/
inductive Releases (s : System World) : Turn → System World → Prop where
  /-- A caller wanted the session closed. -/
  | closed {time caller next} : Releases s (.item time (.close caller)) next
  /-- The gateway is stopped for good. -/
  | stopped {time next} : Releases s (.item time .shutdown) next
  /-- The terminal refused the login or the trade session. -/
  | refused {turn next} (state : Option Connection.State)
      (hrefused : .triggered .authFailed state ∈ next.gateway.journal) : Releases s turn next
  /-- A caller waited for the session that ended, and is told. -/
  | told {turn next} (hbreaks : Breaks next) (hcaller : s.gateway.caller ≠ none) :
      Releases s turn next

/-- After a session that nobody waited for, with leave of the policy, another is begun or a delay
is. -/
theorem pursues_of_aftermath {error : ConnectError} {c core : Core} {marks : List Effect}
    {tasks : Tasks} (hafter : Aftermath error c marks core)
    (hdelays : tasks.timers c.life.generation = 0) (hcaller : c.caller = none)
    (hdelay : c.life.policy.delay? c.life.attempts ≠ none) :
    core.life.state ≠ .disconnected ∨
      (tasks.noteAll marks).timers core.life.generation = 1 := by
  cases hafter with
  | told caller hwaits => simp [hcaller] at hwaits
  | again _ hnow => exact .inl (by simp [Core.opening])
  | later delay _ hlater =>
      exact .inr (by simp [Tasks.noteAll, Tasks.note, Core.counted, hdelays])
  | never _ hnever => exact absurd hnever hdelay

/-- What is pursued is pursued after a turn, unless the gateway was asked for an end, was refused,
or lost a session that is not to be followed by another. -/
theorem Move.pursues {c : Core} {turn : Turn} {o : Outline} {tasks after : Tasks}
    (hmove : Move c turn o) (hsound : Sound c tasks) (htake : tasks.take? turn = some after)
    (hpursues : c.life.state ≠ .disconnected ∨ tasks.timers c.life.generation = 1)
    (hends : ∀ time item running, turn = .item time item → item.ends? ≠ some running)
    (hrefused : ∀ state, .triggered .authFailed state ∉ o.marks)
    (hbreaks : ∀ state, .triggered .connectFailed state ∉ o.marks ∧
      .triggered .unexpectedClose state ∉ o.marks) :
    o.core.life.state ≠ .disconnected ∨
      (after.noteAll o.marks).timers o.core.life.generation = 1 := by
  have hstanding := hsound.standing
  cases hmove with
  | stay hquiet =>
      rcases Tasks.current_of_quiet hstanding hquiet htake with ⟨-, htimers⟩
      exact hpursues.imp_right htimers.trans
  | present hrunning hopen => exact .inl hopen
  | connect hrunning hrest => exact .inl (by simp [Core.opening])
  | reconnect hrunning hrest => exact .inl (by simp [Core.opening])
  | ready hrunning =>
      exact .inl (by simp [((Tasks.of_pass? htake).1 ▸ hstanding).of_connecting.1])
  | opened hrunning =>
      exact .inl (by simp [((Tasks.of_pass? htake).1 ▸ hstanding).of_ready.1])
  | proceed hrunning hverdict =>
      exact .inl (by simp [(hstanding.of_stage (stage_of_verdict? hverdict)).1])
  | enter hrunning hstate hverdict => exact .inl (by simp [Core.established])
  | refuse hrunning hstate hverdict => exact absurd (by simp) (hrefused (some .disconnecting))
  | idle hrunning hitem hstate => exact absurd hitem (hends _ _ _ rfl)
  | close hrunning hitem hstate => exact absurd hitem (hends _ _ _ rfl)
  | fail hrunning hstate hafter => exact absurd (by simp) (hbreaks (some .disconnected)).1
  | lose hrunning hitem hstate hafter => exact absurd (by simp) (hbreaks (some .disconnected)).2

/-- With leave of the policy, a session that nobody waited for is pursued. -/
theorem pursues_of_breaks {s next : System World} {turn : Turn} (hsound : s.IsSound)
    (hstep : s.step? link turn = some next) (hbreaks : Breaks next)
    (hcaller : s.gateway.caller = none)
    (hdelay : s.gateway.life.policy.delay? s.gateway.life.attempts ≠ none) : next.Pursues := by
  rcases tasks_of_step hstep with ⟨tasks, htake, htasks, -⟩
  rcases hbreaks with ⟨state, hmem⟩
  rcases (move_of_step hsound hstep).of_breaks hsound htake
    (hmem.imp triggered_mem_marks triggered_mem_marks) with
    ⟨error, broken, marks, hafter, -, htimers, hsame, hpolicy, hcount, -, hdelays⟩
  unfold Pursues
  rw [htasks, htimers]
  refine pursues_of_aftermath hafter hdelays (hsame.trans hcaller) ?_
  rw [hpolicy, hcount]
  exact hdelay

/-- With leave of the policy, what is pursued is pursued until somebody ends it. -/
theorem Pursues.step {s next : System World} {turn : Turn} (hpursues : s.Pursues)
    (hsound : s.IsSound) (hstep : s.step? link turn = some next)
    (hdelay : s.gateway.life.policy.delay? s.gateway.life.attempts ≠ none)
    (hreleases : ¬ Releases s turn next) : next.Pursues := by
  by_cases hbreaks : Breaks next
  · refine pursues_of_breaks hsound hstep hbreaks ?_ hdelay
    by_contra hcaller
    exact hreleases (.told hbreaks hcaller)
  · rcases tasks_of_step hstep with ⟨tasks, htake, htasks, -⟩
    unfold Pursues
    rw [htasks]
    refine (move_of_step hsound hstep).pursues hsound htake hpursues ?_ ?_ ?_
    · rintro time item running rfl hends
      cases item with
      | close caller => exact hreleases .closed
      | shutdown => exact hreleases .stopped
      | _ => cases hends
    · exact fun state hmem => hreleases (.refused state (List.mem_of_mem_filter hmem))
    · exact fun state => ⟨fun hmem => hbreaks ⟨state, .inl (List.mem_of_mem_filter hmem)⟩,
        fun hmem => hbreaks ⟨state, .inr (List.mem_of_mem_filter hmem)⟩⟩

/-- A delay that is pursued is due, and a session is begun when it is over. -/
theorem Pursues.begins {s : System World} (hpursues : s.Pursues) (hsound : s.IsSound)
    (hstate : s.gateway.state = .disconnected) (time : Reading) :
    ∃ next, s.step? link (.item time (.reconnect s.gateway.life.generation)) = some next ∧
      next.gateway.state = .connecting := by
  have hdue : s.tasks.timers s.gateway.life.generation = 1 := hpursues.resolve_left (· hstate)
  have hrunning : s.gateway.running = true := by
    by_contra hstopped
    have hnone : s.tasks.timers s.gateway.life.generation = 0 :=
      (hsound.standing.of_stopped (Bool.eq_false_iff.mpr hstopped)).2.2
    omega
  obtain ⟨next, hstep⟩ : ∃ next,
      s.step? link (.item time (.reconnect s.gateway.life.generation)) = some next := by
    simp [step?, Tasks.yield?, hdue]
  have hbegun : next.gateway = s.cleared.openSession := by
    rw [gateway_of_item hstep, Gateway.step, if_pos hrunning]
    exact if_pos ⟨(Connection.Lifecycle.isCurrent_iff _ _).mpr rfl, hstate⟩
  refine ⟨next, hstep, ?_⟩
  rw [hbegun]
  exact congrArg (fun o => o.core.life.state) (outline_openSession (g := s.cleared) hstate)

/-! ## Runs -/

/-- How a gateway keeps to its policy. -/
structure Retries (link : Link World) (policy : Connection.RetryPolicy) (s : System World) :
    Prop where
  /-- As long as no session is opened, no more attempts are decided on than the policy allows. -/
  bounded : ∀ bound, policy.maxRetries = some bound → ∀ rest last later,
    s.run? link rest = some last → last.log = s.log ++ later →
    (∀ state, .triggered .sessionOpened state ∉ later) → scheduled link s rest ≤ bound
  /-- A refusal comes after just as many attempts, and leaves nothing behind. -/
  refusal : ∀ turn next, s.step? link turn = some next → Refuses s next →
    policy.maxRetries = some s.gateway.life.attempts ∧ LeavesNothing s next
  /-- Without a bound, a session that nobody waited for is pursued when it ends. -/
  pursuit : policy.maxRetries = none → ∀ turn next, s.step? link turn = some next →
    Breaks next → s.gateway.caller = none → next.Pursues
  /-- Without a bound, a pursuit goes on until somebody ends it, and every delay of it leads to an
  attempt. -/
  pursued : policy.maxRetries = none → s.Pursues →
    (∀ rest last, s.run? link rest = some last →
      (∀ before turn after middle next, rest = before ++ turn :: after →
        s.run? link before = some middle → middle.step? link turn = some next →
        ¬ Releases middle turn next) → last.Pursues) ∧
    (s.gateway.state = .disconnected → ∀ time, ∃ next,
      s.step? link (.item time (.reconnect s.gateway.life.generation)) = some next ∧
        next.gateway.state = .connecting)

/-- With leave of the policy at any time, what is pursued is pursued until somebody ends it. -/
theorem Pursues.run {s last : System World} {turns : List Turn} (hpursues : s.Pursues)
    (hsound : s.IsSound) (hbound : s.gateway.life.policy.maxRetries = none)
    (hrun : s.run? link turns = some last)
    (hreleases : ∀ before turn after middle next, turns = before ++ turn :: after →
      s.run? link before = some middle → middle.step? link turn = some next →
      ¬ Releases middle turn next) : last.Pursues := by
  induction turns generalizing s with
  | nil =>
      cases hrun
      exact hpursues
  | cons turn rest ih =>
      rcases Option.bind_eq_some_iff.mp hrun with ⟨next, hstep, hrest⟩
      have hdelay : s.gateway.life.policy.delay? s.gateway.life.attempts ≠ none := by
        simp [Connection.RetryPolicy.delay?_eq_none_iff, hbound]
      have hnext := hpursues.step hsound hstep hdelay
        (hreleases [] turn rest s next rfl rfl hstep)
      refine ih hnext (hsound.step hstep) ?_ hrest ?_
      · rw [(attempts_of_step hsound hstep).1]
        exact hbound
      · intro before later after middle last hsplit hbefore hlater
        refine hreleases (turn :: before) later after middle last (by rw [hsplit]; rfl) ?_ hlater
        simp [run?, hstep, hbefore]

/-- In every run a gateway keeps to its policy. -/
theorem retries_of_run {settings : Settings} {world : World} {turns : List Turn}
    {s : System World} (hrun : (start settings world).run? link turns = some s) :
    Retries link settings.retry s := by
  have hsound := (isSound_start settings world).run hrun
  have hpolicy := policy_of_run hrun
  refine ⟨?_, ?_, ?_, ?_⟩
  · exact fun bound hbound rest last later hrest hlog hopen =>
      scheduled_le hrun hbound hrest hlog hopen
  · intro turn next hstep hrefuses
    refine ⟨?_, hrefuses.leavesNothing hsound (ledger_of_run hrun).tidy hstep⟩
    rcases (Connection.RetryPolicy.delay?_eq_none_iff _ _).mp hrefuses.delay with
      ⟨bound, hbound, hspent⟩
    rw [hpolicy] at hbound
    rw [hbound, Nat.le_antisymm hspent (attempts_le_of_run hrun hbound)]
  · intro hbound turn next hstep hbreaks hcaller
    refine pursues_of_breaks hsound hstep hbreaks hcaller ?_
    simp [Connection.RetryPolicy.delay?_eq_none_iff, hpolicy, hbound]
  · intro hbound hpursues
    exact ⟨fun rest last hrest => hpursues.run hsound (by rw [hpolicy, hbound]) hrest,
      fun hstate time => hpursues.begins hsound hstate time⟩

/-! ## One attempt -/

/-- The settings for a bridge that is tried again once, at once. -/
def onceSettings : Settings :=
  { bridgeSettings with retry := { maxRetries := some 1 } }

/-- An order is pending when the session is lost; another one is begun. -/
def lostOrder : List Turn :=
  bridgeLogin ++
    [.item midnight (.subscribe (share "SBER") 9 [.reply]), .submit 5 (.killAll (share "SBER")),
      .advance midnight 0, .advance midnight 0, .advance midnight 0,
      .item midnight (.transport 1 (.closed (.peer "")))]

/-- When the only attempt fails, the order is over, and the sink hears of it last. -/
theorem retries_lostOrder :
    ∃ s next, (start onceSettings ()).run? openLink lostOrder = some s ∧
      s.step? openLink (.item midnight (.connectFailed 3 (.io ""))) = some next ∧
      Retries openLink onceSettings.retry s ∧
      onceSettings.retry.maxRetries = some s.gateway.life.attempts ∧ LeavesNothing s next ∧
      next.gateway.journal.filter Effect.isVerdict =
        [.settled 5 ⟨1, some (.killAll (share "SBER")), .timedOut⟩,
          .called 9 (.reply ⟨1, share "SBER", .timedOut⟩)] := by
  have hfacts : ((start onceSettings ()).run? openLink lostOrder).bind (fun s =>
      (s.step? openLink (.item midnight (.connectFailed 3 (.io "")))).map fun next =>
        decide (s.gateway.caller = none ∧
          s.gateway.life.policy.delay? s.gateway.life.attempts = none ∧
          s.gateway.pending.entries = [⟨1, .killAll (share "SBER"), 0, 5⟩] ∧
          (s.gateway.subscriptions.publish (.reply ⟨1, share "SBER", .timedOut⟩)).called = [9] ∧
          next.gateway.journal.any isBreak = true)) = some true := by
    decide +kernel
  rcases Option.bind_eq_some_iff.mp hfacts with ⟨s, hrun, hmap⟩
  rcases Option.map_eq_some_iff.mp hmap with ⟨next, hstep, hs⟩
  rcases of_decide_eq_true hs with ⟨hcaller, hdelay, hpending, hcalled, hbroken⟩
  have hretries := retries_of_run hrun
  rcases hretries.refusal _ _ hstep ⟨breaks_iff.mpr hbroken, hcaller, hdelay⟩ with
    ⟨hspent, hleaves⟩
  refine ⟨s, next, hrun, hstep, hretries, hspent, hleaves, ?_⟩
  have hasset : (Intent.killAll (share "SBER")).asset = share "SBER" := rfl
  rw [hleaves.verdicts, hpending]
  simp [announce, hcalled, hasset]

end System

end TerminalGateway
