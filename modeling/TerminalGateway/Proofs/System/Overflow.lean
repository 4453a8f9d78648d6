import TerminalGateway.Proofs.Settings.Sizes
import TerminalGateway.Proofs.System.Retries
import TerminalGateway.Proofs.System.Vigil

/-!
# Counts that outgrow their size

A gateway counts the attempts to connect again since a session was last open, and the probes since
the last answer, in numbers of 32 bits.  Settings may switch off what bounds these counts.  Then
nothing else bounds them: connections may fail and probes stay unanswered any number of times, and
the counts outgrow their size.

Main definitions:

- `System.Reached`: a system to which a run leads.
- `Settings.AttemptsFit`, `Settings.ProbesFit`: settings with which a count keeps to its size.

Main results:

- Theorem `System.exists_connected`: with any settings there is a run that leads to an open session.
- Theorem `System.exists_attempts`, `System.exists_unanswered`: a count that is not bounded takes
  every value.
- Theorem `System.unanswered_le_of_run`: the bound on probes is passed by one at most.
- Theorem `Settings.counts_fit_iff`: a count keeps to its size just if the settings bound it.
-/

namespace TerminalGateway

open TerminalGateway.Number (limit32 limit64)

theorem Connection.Lifecycle.isCurrent_self (life : Connection.Lifecycle) :
    life.isCurrent life.generation = true :=
  (life.isCurrent_iff _).mpr rfl

namespace System

open TerminalGateway.Gateway

variable {World : Type} {link : Link World}

/-! ## Systems that are reached -/

/-- A system to which some run leads. -/
def Reached (link : Link World) (settings : Settings) (world : World) (s : System World) : Prop :=
  ∃ turns, (start settings world).run? link turns = some s

/-- How far the task of the current session has come. -/
def progress (s : System World) : Progress :=
  s.tasks.session s.core.life.generation

/-- An item that a task can put into the queue may be taken up. -/
theorem exists_step_of_yield? (link : Link World) {s : System World} (time : Reading) {item : Item}
    {tasks : Tasks} (htake : s.tasks.yield? item = some tasks) :
    ∃ next, s.step? link (.item time item) = some next := by
  rw [step?, htake]
  exact ⟨_, rfl⟩

/-- A task goes on from where it stands. -/
theorem Tasks.pass?_of_session {tasks : Tasks} {generation : Nat} {now : Progress}
    (h : tasks.session generation = now) (next : Progress) :
    tasks.pass? generation now next = some (tasks.advance generation next) :=
  if_pos h

namespace Reached

variable {settings : Settings} {world : World} {s : System World}

theorem start (link : Link World) (settings : Settings) (world : World) :
    Reached link settings world (start settings world) :=
  ⟨[], rfl⟩

theorem sound (h : Reached link settings world s) : s.IsSound :=
  h.elim fun _ => (isSound_start settings world).run

theorem policy (h : Reached link settings world s) : s.core.life.policy = settings.retry :=
  h.elim fun _ => policy_of_run

theorem step (h : Reached link settings world s) {turn : Turn} {next : System World}
    (hstep : s.step? link turn = some next) : Reached link settings world next :=
  h.elim fun _ hrun => ⟨_, run?_concat_of_eq hrun hstep⟩

/-- A gateway whose session has a task goes on. -/
theorem running (h : Reached link settings world s) (hprogress : s.progress ≠ .absent) :
    s.gateway.running = true := by
  by_contra hstopped
  exact hprogress (h.sound.standing.of_stopped (Bool.eq_false_iff.mpr hstopped)).2.1

/-- An item that is due is taken up, and what that does to the course of the connection is what it
does to the tasks. -/
theorem item (h : Reached link settings world s) (hrunning : s.gateway.running = true)
    (time : Reading) (item : Item) {tasks : Tasks} (htake : s.tasks.yield? item = some tasks)
    {o : Outline} (houtline : (s.cleared.handle link time item).outline = o) :
    ∃ next, Reached link settings world next ∧ next.core = o.core ∧
      next.tasks = tasks.noteAll o.marks := by
  rcases exists_step_of_yield? link time htake with ⟨next, hstep⟩
  have hnext : next.gateway.outline = o := by
    rw [gateway_of_item hstep, Gateway.step, if_pos hrunning]
    exact houtline
  rcases tasks_of_step hstep with ⟨after, hafter, htasks, -⟩
  obtain rfl : tasks = after := Option.some.inj (htake.symm.trans hafter)
  exact ⟨next, h.step hstep, congrArg Outline.core hnext, hnext ▸ htasks⟩

end Reached

/-! ## An open session -/

/-- What a terminal writes to accept a login. -/
def approval : Dialect → List UInt8
  | .bridge => Text.Utf8.encode "\x7b\"id\":\"msg_auth\",\"result\":[true]\x7d".toList
  | .web => Text.Utf8.encode "\x7b\"msgid\":20006,\"resultCode\":0\x7d".toList

/-- What a terminal writes to open the trade session. -/
def admission : List UInt8 :=
  Text.Utf8.encode "\x7b\"msgid\":20000,\"resultCode\":0\x7d".toList

/-- A frame that can be read holds what its message holds. -/
theorem exists_verdict? {c : Core} {bytes : List UInt8} {test : Message → Bool}
    (h : (Message.decode c.settings.encoding bytes).toOption.map test = some true) :
    ∃ message, c.verdict? bytes = c.verdictOn? message ∧ test message = true := by
  unfold Core.verdict?
  cases hdecode : Message.decode c.settings.encoding bytes with
  | error _ =>
      rw [hdecode] at h
      cases h
  | ok message =>
      rw [hdecode] at h
      exact ⟨message, rfl, Option.some.inj h⟩

/-- An accepted login opens the session, or leaves the trade session to be opened. -/
theorem verdict?_approval {c : Core} (hstage : c.stage = .auth) :
    c.verdict? (approval c.settings.dialect) =
      some (if c.settings.dialect.authOpensSession then .enter else .proceed) := by
  have hread : ∀ encoding dialect,
      (Message.decode encoding (approval dialect)).toOption.map (fun message =>
        decide (message.kind = .lifecycle .auth) &&
          (loginError? dialect message.payload).isNone) = some true := by
    rintro ⟨⟩ ⟨⟩ <;> decide +kernel
  rcases exists_verdict? (hread c.settings.encoding c.settings.dialect) with
    ⟨message, hverdict, htest⟩
  rcases (Bool.and_eq_true _ _).mp htest with ⟨hkind, haccepted⟩
  rw [hverdict, Core.verdictOn?, of_decide_eq_true hkind, hstage]
  simp only [Option.isNone_iff_eq_none.mp haccepted]
  split <;> rfl

/-- An open trade session opens the session. -/
theorem verdict?_admission {c : Core} (hstage : c.stage = .sessionOpen) :
    c.verdict? admission = some .enter := by
  have hread : ∀ encoding,
      (Message.decode encoding admission).toOption.map (fun message =>
        decide (message.kind = .lifecycle .sessionOpen) &&
          (sessionError? message.payload).isNone) = some true := by
    rintro ⟨⟩ <;> decide +kernel
  rcases exists_verdict? (hread c.settings.encoding) with ⟨message, hverdict, htest⟩
  rcases (Bool.and_eq_true _ _).mp htest with ⟨hkind, haccepted⟩
  rw [hverdict, Core.verdictOn?, of_decide_eq_true hkind, hstage]
  simp only [Option.isNone_iff_eq_none.mp haccepted]

namespace Reached

variable {settings : Settings} {world : World} {s : System World}

/-- A caller asks for a session. -/
theorem exists_dialing (h : Reached link settings world s) (hrunning : s.gateway.running = true)
    (hstate : s.gateway.state = .disconnected) :
    ∃ next, Reached link settings world next ∧ next.progress = .connecting := by
  have houtline : (s.cleared.handle link midnight (.connect 0)).outline =
      ⟨{ s.core with caller := some 0 }.opening, s.core.openingMarks⟩ := by
    have hconnect : s.cleared.handle link midnight (.connect 0) =
        { s.cleared with caller := some 0 }.openSession := if_pos hstate
    rw [hconnect]
    exact outline_openSession hstate
  rcases h.item hrunning midnight (.connect 0) rfl houtline with ⟨next, hnext, hcore, htasks⟩
  refine ⟨next, hnext, ?_⟩
  rw [progress, hcore, htasks]
  simp [Core.opening, Core.openingMarks, Tasks.noteAll, Tasks.note]

/-- The connection is made. -/
theorem exists_ready (h : Reached link settings world s) (hprogress : s.progress = .connecting) :
    ∃ next, Reached link settings world next ∧ next.progress = .ready := by
  let item := Item.sessionReady s.core.life.generation 7
  have houtline : (s.cleared.handle link midnight item).outline =
      ⟨{ s.core with writer := some 7 }, []⟩ := by
    have hready : s.cleared.handle link midnight item = s.cleared.installWriter link 7 :=
      if_pos (Connection.Lifecycle.isCurrent_self _)
    rw [hready, outline_installWriter, outline_cleared]
  rcases h.item (h.running (by simp [hprogress])) midnight item
    (Tasks.pass?_of_session hprogress .ready) houtline with ⟨next, hnext, hcore, htasks⟩
  refine ⟨next, hnext, ?_⟩
  rw [progress, hcore, htasks]
  simp

/-- The connection is open, and the login is sent. -/
theorem exists_greeting (h : Reached link settings world s) (hprogress : s.progress = .ready) :
    ∃ next, Reached link settings world next ∧ next.progress = .reading ∧
      next.core.stage = .auth := by
  let item := Item.transport s.core.life.generation .opened
  have houtline : (s.cleared.handle link midnight item).outline =
      ⟨{ s.core with stage := .auth }, []⟩ := by
    have hopened : s.cleared.handle link midnight item = s.cleared.onOpened link :=
      if_pos (Connection.Lifecycle.isCurrent_self _)
    rw [hopened]
    exact outline_sendAll link _ _
  rcases h.item (h.running (by simp [hprogress])) midnight item
    (Tasks.pass?_of_session hprogress .reading) houtline with ⟨next, hnext, hcore, htasks⟩
  refine ⟨next, hnext, ?_, by rw [hcore]⟩
  rw [progress, hcore, htasks]
  simp

/-- What the reader of the current session reports is taken up. -/
theorem report (h : Reached link settings world s) (hprogress : s.progress = .reading)
    (event : Transport.Event) (hevent : event ≠ .opened ∧ event ≠ .pong)
    {o : Outline} (houtline : (s.cleared.onTransport link midnight event).outline = o) :
    ∃ next, Reached link settings world next ∧ next.core = o.core ∧
      next.tasks = (s.tasks.advance s.core.life.generation .reading).noteAll o.marks := by
  refine h.item (h.running (by simp [hprogress])) midnight
    (.transport s.core.life.generation event) ?_ ?_
  · have hpass := Tasks.pass?_of_session hprogress .reading
    cases event with
    | opened => exact absurd rfl hevent.1
    | pong => exact absurd rfl hevent.2
    | _ => exact hpass
  · rw [← houtline]
    exact congrArg outline (if_pos (Connection.Lifecycle.isCurrent_self _))

/-- A frame that opens the session. -/
theorem exists_entered (h : Reached link settings world s) {bytes : List UInt8}
    (hverdict : s.core.verdict? bytes = some .enter) :
    ∃ next, Reached link settings world next ∧ next.progress = .reading ∧
      next.gateway.state = .connected ∧ next.gateway.life.attempts = 0 := by
  rcases h.sound.standing.of_stage (stage_of_verdict? hverdict) with ⟨hstate, -, hprogress, -⟩
  have houtline : (s.cleared.onTransport link midnight (.frame bytes)).outline =
      ⟨s.core.established, [.triggered .sessionOpened (some .busy),
        .triggered .replayDone (some .connected)] ++ s.core.answerMarks (.ok ())⟩ := by
    have hframe := outline_onFrame link s.cleared midnight bytes
    rw [outline_cleared, hverdict] at hframe
    exact hframe.trans (outline_onSessionOpen link (g := s.cleared.countFrame) hstate)
  rcases h.report hprogress (.frame bytes) (by simp) houtline with ⟨next, hnext, hcore, htasks⟩
  have hlife : next.gateway.life = s.core.established.life :=
    congrArg Core.life hcore
  refine ⟨next, hnext, ?_, by rw [Gateway.state, hlife]; rfl, by rw [hlife]; rfl⟩
  rw [progress, hcore, htasks]
  simp [Core.established]

/-- A login that is accepted leads to an open session. -/
theorem exists_serving (h : Reached link settings world s) (hprogress : s.progress = .reading)
    (hstage : s.core.stage = .auth) :
    ∃ next, Reached link settings world next ∧ next.progress = .reading ∧
      next.gateway.state = .connected ∧ next.gateway.life.attempts = 0 := by
  have hverdict := verdict?_approval hstage
  cases hopens : s.core.settings.dialect.authOpensSession with
  | true => exact h.exists_entered (hverdict.trans (by simp [hopens]))
  | false =>
      have houtline : (s.cleared.onTransport link midnight
          (.frame (approval s.core.settings.dialect))).outline =
            ⟨{ s.core with stage := .sessionOpen }, []⟩ := by
        have hframe := outline_onFrame link s.cleared midnight (approval s.core.settings.dialect)
        rw [outline_cleared, hverdict, hopens] at hframe
        exact hframe
      rcases h.report hprogress (.frame _) (by simp) houtline with ⟨next, hnext, hcore, -⟩
      exact hnext.exists_entered (verdict?_admission (by rw [hcore]))

end Reached

/-- With any settings there is a run that leads to an open session. -/
theorem exists_connected (link : Link World) (settings : Settings) (world : World) :
    ∃ s, Reached link settings world s ∧ s.progress = .reading ∧
      s.gateway.state = .connected ∧ s.gateway.life.attempts = 0 := by
  rcases (Reached.start link settings world).exists_dialing rfl rfl with
    ⟨dialing, hdialing, hconnecting⟩
  rcases hdialing.exists_ready hconnecting with ⟨ready, hready, hmade⟩
  rcases hready.exists_greeting hmade with ⟨greeting, hgreeting, hreading, hstage⟩
  exact hgreeting.exists_serving hreading hstage

/-! ## Attempts without a bound -/

/-- Nobody waits for the session whose connection is being made, or will be after a delay, and this
many attempts are counted. -/
structure Redials (c : Core) (tasks : Tasks) (n : Nat) : Prop where
  caller : c.caller = none
  attempts : c.life.attempts = n
  pursued : tasks.session c.life.generation = .connecting ∨
    c.life.state = .disconnected ∧ tasks.timers c.life.generation = 1

/-- A session that nobody waited for is followed by an attempt, which is counted. -/
theorem redials_of_aftermath {error : ConnectError} {c core : Core} {marks : List Effect}
    {tasks : Tasks} (hafter : Aftermath error c marks core) (hcaller : c.caller = none)
    (hstate : c.life.state = .disconnected) (hbound : c.life.policy.maxRetries = none)
    (hdelays : tasks.timers c.life.generation = 0) :
    Redials core (tasks.noteAll marks) (c.life.attempts + 1) := by
  cases hafter with
  | told caller hwaits => simp [hcaller] at hwaits
  | again _ hnow =>
      refine ⟨hcaller, rfl, .inl ?_⟩
      simp [Core.opening, Core.openingMarks, Core.counted, Tasks.noteAll, Tasks.note]
  | later delay _ hlater =>
      refine ⟨hcaller, rfl, .inr ⟨hstate, ?_⟩⟩
      simp [Core.counted, Tasks.noteAll, Tasks.note, hdelays]
  | never _ hnever => simp [Connection.RetryPolicy.delay?_eq_none_iff, hbound] at hnever

namespace Reached

variable {settings : Settings} {world : World} {s : System World}

/-- A session that is open is lost. -/
theorem exists_lost (h : Reached link settings world s) (hbound : settings.retry.maxRetries = none)
    (hprogress : s.progress = .reading) (hstate : s.gateway.state = .connected) :
    ∃ next, Reached link settings world next ∧
      Redials next.core next.tasks (s.gateway.life.attempts + 1) := by
  have hconnected : s.cleared.outline.core.life.state = .connected := hstate
  rcases outline_onLost link midnight (.inr hconnected) with ⟨marks, core, houtline, hafter⟩
  rcases h.report hprogress (.closed (.peer "")) (by simp) houtline with
    ⟨next, hnext, hcore, htasks⟩
  have hcaller : s.core.caller = none := by
    have hwaiting := h.sound.standing.phase.2.2
    by_contra hsome
    cases hconnected.symm.trans (hwaiting (Option.isSome_iff_ne_none.mpr hsome))
  refine ⟨next, hnext, ?_⟩
  rw [hcore, htasks]
  exact redials_of_aftermath hafter hcaller rfl (h.policy ▸ hbound)
    (h.sound.fresh _ (Nat.lt_succ_self _)).2

/-- A delay is over, if one is under way. -/
theorem exists_redialing {n : Nat} (h : Reached link settings world s)
    (hredials : Redials s.core s.tasks n) :
    ∃ next, Reached link settings world next ∧ Redials next.core next.tasks n ∧
      next.progress = .connecting := by
  rcases hredials.pursued with hprogress | ⟨hstate, hdelay⟩
  · exact ⟨s, h, hredials, hprogress⟩
  · let item := Item.reconnect s.core.life.generation
    have houtline : (s.cleared.handle link midnight item).outline =
        ⟨s.core.opening, s.core.openingMarks⟩ := by
      have hover : s.cleared.handle link midnight item = s.cleared.openSession :=
        if_pos ⟨Connection.Lifecycle.isCurrent_self _, hstate⟩
      rw [hover]
      exact outline_openSession hstate
    have hrunning : s.gateway.running = true := by
      by_contra hstopped
      have hnone := (h.sound.standing.of_stopped (Bool.eq_false_iff.mpr hstopped)).2.2
      omega
    rcases h.item hrunning midnight item (if_pos (by omega)) houtline with
      ⟨next, hnext, hcore, htasks⟩
    have hprogress : next.progress = .connecting := by
      rw [progress, hcore, htasks]
      simp [Core.opening, Core.openingMarks, Tasks.noteAll, Tasks.note]
    refine ⟨next, hnext, ⟨?_, ?_, .inl hprogress⟩, hprogress⟩
    · rw [hcore]
      exact hredials.caller
    · rw [hcore]
      exact hredials.attempts

/-- Another connection is not made. -/
theorem exists_failed {n : Nat} (h : Reached link settings world s)
    (hbound : settings.retry.maxRetries = none) (hredials : Redials s.core s.tasks n) :
    ∃ next, Reached link settings world next ∧ Redials next.core next.tasks (n + 1) := by
  rcases h.exists_redialing hredials with ⟨dialing, hreached, hdialing, hprogress⟩
  let item := Item.connectFailed dialing.core.life.generation (.io "")
  have hstanding := hreached.sound.standing
  rw [show dialing.tasks.session dialing.core.life.generation = .connecting from hprogress]
    at hstanding
  rcases hstanding.of_connecting with ⟨hstate, -, -, -, hdelays⟩
  rcases outline_onConnectFailed midnight (.io "") (g := dialing.cleared) hstate with
    ⟨marks, core, houtline, hafter⟩
  have hfailed : dialing.cleared.handle link midnight item =
      dialing.cleared.onConnectFailed midnight (.io "") :=
    if_pos (Connection.Lifecycle.isCurrent_self _)
  rcases hreached.item (hreached.running (by simp [hprogress])) midnight item
    (Tasks.pass?_of_session hprogress .failed) (hfailed ▸ houtline) with
    ⟨next, hnext, hcore, htasks⟩
  have hredials : Redials core
      ((dialing.tasks.advance dialing.core.life.generation .failed).noteAll marks)
      (dialing.core.life.attempts + 1) :=
    redials_of_aftermath (c := dialing.core.failed) hafter hdialing.caller rfl
      (hreached.policy ▸ hbound) hdelays
  refine ⟨next, hnext, ?_⟩
  rw [hcore, htasks, ← hdialing.attempts]
  exact hredials

end Reached

/-- Without a bound on attempts, any number of them is counted. -/
theorem exists_attempts (link : Link World) {settings : Settings} (world : World)
    (hbound : settings.retry.maxRetries = none) (n : Nat) :
    ∃ s, Reached link settings world s ∧ s.gateway.life.attempts = n := by
  rcases exists_connected link settings world with ⟨s, hs, hprogress, hstate, hnone⟩
  -- The first attempt follows the loss of the open session, every other one a failure to connect.
  have hcounted : ∀ n, ∃ s, Reached link settings world s ∧ Redials s.core s.tasks (n + 1) := by
    intro n
    induction n with
    | zero =>
        have hlost := hs.exists_lost hbound hprogress hstate
        rwa [hnone] at hlost
    | succ n ih =>
        rcases ih with ⟨last, hlast, hredials⟩
        exact hlast.exists_failed hbound hredials
  cases n with
  | zero => exact ⟨s, hs, hnone⟩
  | succ n =>
      rcases hcounted n with ⟨last, hlast, hredials⟩
      exact ⟨last, hlast, hredials.attempts⟩

/-! ## Probes without an answer -/

/-- The bound on unanswered probes is passed by one at most. -/
theorem unanswered_le_of_run {settings : Settings} {world : World} {turns : List Turn}
    {s : System World} (hrun : (start settings world).run? link turns = some s)
    (hlimit : 0 < settings.probing.limit) :
    s.gateway.heartbeat.unanswered ≤ settings.probing.limit + 1 := by
  refine run_induction
    (motive := fun _ s => s.gateway.heartbeat.unanswered ≤ settings.probing.limit + 1)
    (Nat.zero_le _) ?_ hrun
  intro turns turn middle next hmiddle hle hstep
  have hsettings : middle.gateway.settings = settings := (onItsWay_of_run hmiddle).settings
  have hlives := lives_of_step (writer_of_connected hmiddle) hstep
  have hheartbeat : next.gateway.vitals.heartbeat = next.gateway.heartbeat := rfl
  generalize middle.beats turn next.gateway.journal = pulses at hlives
  generalize next.gateway.vitals = v at hlives hheartbeat
  rw [← hheartbeat]
  cases hlives with
  | calm hanswer => exact hle
  | enter hrunning => exact Nat.zero_le _
  | answer hrunning => exact Nat.zero_le _
  | probe hrunning hstate hwriter hdue =>
      have hleft : middle.gateway.heartbeat.unanswered ≤ settings.probing.limit := by
        simpa [Connection.Heartbeat.isOverdue, hsettings, hlimit] using hdue
      generalize (link.ping middle.gateway.world _).1 = result
      cases result with
      | ok liveness => exact Nat.succ_le_succ hleft
      | error _ => exact hle

namespace Reached

variable {settings : Settings} {world : World} {s : System World}

/-- With an open session an item that is due is taken up. -/
theorem exists_taken (h : Reached link settings world s) (hstate : s.gateway.state = .connected)
    (item : Item) {tasks : Tasks} (htake : s.tasks.yield? item = some tasks) :
    ∃ next, Reached link settings world next ∧
      next.gateway = s.cleared.handle link midnight item := by
  rcases exists_step_of_yield? link midnight htake with ⟨next, hstep⟩
  exact ⟨next, h.step hstep, h.sound.gateway_of_connected hstate hstep⟩

/-- A probe is answered. -/
theorem exists_answered (h : Reached link settings world s)
    (hstate : s.gateway.state = .connected) :
    ∃ next, Reached link settings world next ∧ next.gateway.state = .connected ∧
      next.gateway.heartbeat.unanswered = 0 := by
  rcases h.exists_taken hstate (.transport s.gateway.life.generation .pong) rfl with
    ⟨next, hnext, hgateway⟩
  have hpong : next.gateway = s.cleared.onPong midnight :=
    hgateway.trans (if_pos (Connection.Lifecycle.isCurrent_self _))
  refine ⟨next, hnext, ?_, ?_⟩
  · rw [hpong]
    exact (congrArg (fun o => o.core.life.state) (outline_onPong s.cleared midnight)).trans hstate
  · rw [hpong]
    exact congrArg (fun v => v.heartbeat.unanswered) (vitals_onPong s.cleared midnight)

/-- A probe is sent, and one more is unanswered. -/
theorem exists_probed {s : System Unit} (h : Reached openLink settings () s)
    (hstate : s.gateway.state = .connected)
    (hlimit : settings.probing.limit = 0 ∨
      s.gateway.heartbeat.unanswered ≤ settings.probing.limit) :
    ∃ next, Reached openLink settings () next ∧ next.gateway.state = .connected ∧
      next.gateway.heartbeat.unanswered = s.gateway.heartbeat.unanswered + 1 := by
  rcases h.exists_taken hstate (.heartbeatTick s.gateway.life.generation) rfl with
    ⟨next, hnext, hgateway⟩
  rcases h with ⟨turns, hrun⟩
  have hsettings : s.gateway.settings = settings := (onItsWay_of_run hrun).settings
  rcases Option.ne_none_iff_exists'.mp (writer_of_connected hrun hstate) with ⟨writer, hwriter⟩
  have hdue : ¬ s.gateway.heartbeat.isOverdue s.gateway.settings.probing.limit = true := by
    simp only [Connection.Heartbeat.isOverdue, hsettings, Bool.and_eq_true, decide_eq_true_eq]
    omega
  have hprobed : next.gateway = s.cleared.tried openLink writer := by
    rw [hgateway, handle_tick hstate hwriter, if_neg hdue]
  refine ⟨next, hnext, ?_, ?_⟩
  · rw [hprobed]
    exact hstate
  · rw [hprobed]
    rfl

end Reached

/-- Where every probe is sent, any number of them stays unanswered up to the bound, if there is
one. -/
theorem exists_unanswered {settings : Settings} (n : Nat)
    (hlimit : settings.probing.limit = 0 ∨ n ≤ settings.probing.limit + 1) :
    ∃ s, Reached openLink settings () s ∧ s.gateway.state = .connected ∧
      s.gateway.heartbeat.unanswered = n := by
  induction n with
  | zero =>
      -- Nothing is said of the count when a session is opened, so an answer starts it anew.
      rcases exists_connected openLink settings () with ⟨s, hs, -, hstate, -⟩
      exact hs.exists_answered hstate
  | succ n ih =>
      rcases ih (by omega) with ⟨s, hs, hstate, rfl⟩
      exact hs.exists_probed hstate (by omega)

end System

namespace Settings

open TerminalGateway.Gateway (Link)
open TerminalGateway.System

/-! ## Counts that keep to their size -/

/-- The attempts to connect again are counted in 32 bits along every run with these settings. -/
def AttemptsFit (settings : Settings) : Prop :=
  ∀ (World : Type) (link : Link World) (world : World) (s : System World),
    Reached link settings world s → s.gateway.life.attempts < limit32

/-- The unanswered probes are counted in 32 bits along every run with these settings. -/
def ProbesFit (settings : Settings) : Prop :=
  ∀ (World : Type) (link : Link World) (world : World) (s : System World),
    Reached link settings world s → s.gateway.heartbeat.unanswered < limit32

theorem attemptsFit_iff {settings : Settings} (hsized : settings.retry.IsSized) :
    settings.AttemptsFit ↔ settings.retry.maxRetries ≠ none := by
  constructor
  · intro hfit hbound
    rcases exists_attempts openLink () hbound limit32 with ⟨s, hs, hcount⟩
    exact Nat.lt_irrefl _ (hcount ▸ hfit Unit openLink () s hs)
  · rintro hbound World link world s ⟨turns, hrun⟩
    rcases Option.ne_none_iff_exists'.mp hbound with ⟨bound, hsome⟩
    exact Nat.lt_of_le_of_lt (attempts_le_of_run hrun hsome) (hsized.2.2 bound hsome)

theorem probesFit_iff (settings : Settings) :
    settings.ProbesFit ↔ 0 < settings.probing.limit ∧ settings.probing.limit + 1 < limit32 := by
  constructor
  · intro hfit
    by_contra hunbounded
    have hlimit : settings.probing.limit = 0 ∨ limit32 ≤ settings.probing.limit + 1 := by omega
    rcases exists_unanswered limit32 hlimit with ⟨s, hs, -, hcount⟩
    exact Nat.lt_irrefl _ (hcount ▸ hfit Unit openLink () s hs)
  · rintro ⟨hpositive, hlimit⟩ World link world s ⟨turns, hrun⟩
    exact Nat.lt_of_le_of_lt (unanswered_le_of_run hrun hpositive) hlimit

/-- Along every run the count of attempts keeps to its size just if their number is bounded, and
the count of unanswered probes just if it is bounded by less than the greatest number that fits. -/
theorem counts_fit_iff {settings : Settings} (hsized : settings.IsSized) :
    (settings.AttemptsFit ↔ settings.retry.maxRetries ≠ none) ∧
      (settings.ProbesFit ↔
        0 < settings.probing.limit ∧ settings.probing.limit + 1 < limit32) :=
  ⟨attemptsFit_iff hsized.retry, probesFit_iff settings⟩

/-- With a bound on attempts, and the default bound on probes, both counts keep to their size. -/
theorem counts_fit_once :
    onceSettings.IsSized ∧ onceSettings.AttemptsFit ∧ onceSettings.ProbesFit := by
  have hdefault : bridgeSettings.IsSized := isSized_ofEndpoint (show 5000 < limit64 by decide)
  have hsized : onceSettings.IsSized :=
    { hdefault with retry := ⟨by decide, by decide, fun bound hbound => by cases hbound; decide⟩ }
  rcases counts_fit_iff hsized with ⟨hattempts, hprobes⟩
  exact ⟨hsized, hattempts.mpr (by decide), hprobes.mpr (by decide)⟩

/-- Settings that are read and found usable, with which both counts outgrow their size. -/
theorem counts_unbounded :
    let text := "\x7b\"transport\": \x7b\"kind\": \"tcp\", \"address\": \"h:1\"\x7d, " ++
      "\"heartbeat\": \x7b\"pong_timeout\": 0\x7d\x7d"
    ∃ settings, ofText text.toList = .ok settings ∧
      settings.retry.maxRetries = none ∧ settings.probing.limit = 0 ∧
      (∃ s, Reached openLink settings () s ∧ s.gateway.life.attempts = limit32) ∧
      ∃ s, Reached openLink settings () s ∧ s.gateway.heartbeat.unanswered = limit32 := by
  intro text
  have hread : (ofText text.toList).toOption.map (fun settings =>
      decide (settings.retry.maxRetries = none ∧ settings.probing.limit = 0)) = some true := by
    decide +kernel
  cases htext : ofText text.toList with
  | error _ => simp [htext, Except.toOption] at hread
  | ok settings =>
      simp only [htext, Except.toOption, Option.map_some, Option.some.injEq,
        decide_eq_true_eq] at hread
      rcases hread with ⟨hbound, hlimit⟩
      rcases exists_unanswered limit32 (.inl hlimit) with ⟨s, hs, -, hcount⟩
      exact ⟨settings, rfl, hbound, hlimit, exists_attempts openLink () hbound limit32,
        s, hs, hcount⟩

end Settings

end TerminalGateway
