import TerminalGateway.Proofs.System.Moves

/-!
# The course of a connection

How the core of a gateway and the tasks around it stand to each other.  While a connection is
being made, or is open, the task of its session has come just as far, and no delay is under way
for it; a gateway that is not connected has no such task at work, and at most one delay.  No task
belongs to a session that has yet to begin.

Main definitions:

- `System.Standing`: the ways in which a connection can stand.
- `System.Sound`: a core and tasks that stand to each other in one of these ways.

Main results:

- Theorem `System.Move.sound`: every move keeps a core and its tasks sound.
- Theorem `System.move_of_step`: every turn of a sound system is a move.
- Theorem `System.IsSound.run`: every run leaves a system sound.
-/

namespace TerminalGateway.System

open TerminalGateway.Gateway

variable {World : Type} {link : Link World}

/-- How a connection stands, by how far the task of its session has come and by the number of
delays that are under way for it. -/
inductive Standing (c : Core) : Progress → Nat → Prop where
  /-- There is no connection, and none is being made. -/
  | resting {progress delays} (hstate : c.life.state = .disconnected) (hstage : c.stage = .idle)
      (hwriter : c.writer = none) (hcaller : c.caller = none) (hticker : c.ticker = none)
      (hprogress : progress = .absent ∨ progress = .failed) (hdelays : delays ≤ 1)
      (hstopped : c.running = false → progress = .absent ∧ delays = 0) :
      Standing c progress delays
  /-- The connection is being made. -/
  | dialing (hrunning : c.running = true) (hstate : c.life.state = .connecting)
      (hstage : c.stage = .transport) (hwriter : c.writer = none) (hticker : c.ticker = none) :
      Standing c .connecting 0
  /-- The connection is made, but its opening has not been taken up. -/
  | dialed (hrunning : c.running = true) (hstate : c.life.state = .connecting)
      (hstage : c.stage = .transport) (hticker : c.ticker = none) :
      Standing c .ready 0
  /-- The login waits for an answer. -/
  | greeting (hrunning : c.running = true) (hstate : c.life.state = .connecting)
      (hstage : c.stage = .auth ∨ c.stage = .sessionOpen) (hticker : c.ticker = none) :
      Standing c .reading 0
  /-- The session is open. -/
  | serving (hrunning : c.running = true) (hstate : c.life.state = .connected)
      (hstage : c.stage = .established) (hcaller : c.caller = none)
      (hticker : c.ticker = some c.life.generation) :
      Standing c .reading 0

/-- A core and tasks that stand to each other as they should. -/
structure Sound (c : Core) (tasks : Tasks) : Prop where
  standing : Standing c (tasks.session c.life.generation) (tasks.timers c.life.generation)
  /-- No task belongs to a session that has yet to begin. -/
  fresh : ∀ n, c.life.generation < n → tasks.session n = .absent ∧ tasks.timers n = 0

/-! ## What a standing tells -/

namespace Standing

variable {c : Core} {progress : Progress} {delays : Nat}

/-- A connection that is not at rest is being made or is open, and no delay is under way. -/
theorem of_ne_disconnected (h : Standing c progress delays)
    (hstate : c.life.state ≠ .disconnected) :
    (c.life.state = .connecting ∨ c.life.state = .connected) ∧ delays = 0 := by
  cases h with
  | resting hrest => exact absurd hrest hstate
  | dialing _ hconnecting => exact ⟨.inl hconnecting, rfl⟩
  | dialed _ hconnecting => exact ⟨.inl hconnecting, rfl⟩
  | greeting _ hconnecting => exact ⟨.inl hconnecting, rfl⟩
  | serving _ hconnected => exact ⟨.inr hconnected, rfl⟩

theorem of_stopped (h : Standing c progress delays) (hstopped : c.running = false) :
    c.life.state = .disconnected ∧ progress = .absent ∧ delays = 0 := by
  cases h with
  | resting hstate _ _ _ _ _ _ hnothing => exact ⟨hstate, hnothing hstopped⟩
  | dialing hrunning => simp [hrunning] at hstopped
  | dialed hrunning => simp [hrunning] at hstopped
  | greeting hrunning => simp [hrunning] at hstopped
  | serving hrunning => simp [hrunning] at hstopped

theorem delays_le_one (h : Standing c progress delays) : delays ≤ 1 := by
  cases h with
  | resting _ _ _ _ _ _ hdelays => exact hdelays
  | _ => exact Nat.zero_le 1

theorem of_disconnected (h : Standing c progress delays)
    (hstate : c.life.state = .disconnected) :
    c.stage = .idle ∧ c.writer = none ∧ c.caller = none ∧ c.ticker = none := by
  cases h with
  | resting _ hstage hwriter hcaller hticker => exact ⟨hstage, hwriter, hcaller, hticker⟩
  | dialing _ hconnecting => simp [hstate] at hconnecting
  | dialed _ hconnecting => simp [hstate] at hconnecting
  | greeting _ hconnecting => simp [hstate] at hconnecting
  | serving _ hconnected => simp [hstate] at hconnected

/-- A session whose connection is being made has no writer yet. -/
theorem of_connecting (h : Standing c .connecting delays) :
    c.life.state = .connecting ∧ c.stage = .transport ∧ c.writer = none ∧ c.ticker = none ∧
      delays = 0 := by
  cases h with
  | resting _ _ _ _ _ hprogress => simp at hprogress
  | dialing _ hstate hstage hwriter hticker => exact ⟨hstate, hstage, hwriter, hticker, rfl⟩

/-- A session whose connection is made waits for its opening. -/
theorem of_ready (h : Standing c .ready delays) :
    c.life.state = .connecting ∧ c.stage = .transport ∧ c.ticker = none ∧ delays = 0 := by
  cases h with
  | resting _ _ _ _ _ hprogress => simp at hprogress
  | dialed _ hstate hstage hticker => exact ⟨hstate, hstage, hticker, rfl⟩

/-- A session whose connection is read is being opened or is open. -/
theorem of_reading (h : Standing c .reading delays) :
    c.life.state = .connecting ∨ c.life.state = .connected := by
  cases h with
  | resting _ _ _ _ _ hprogress => simp at hprogress
  | greeting _ hstate => exact .inl hstate
  | serving _ hstate => exact .inr hstate

/-- A login that waits for an answer belongs to a session that is being opened. -/
theorem of_stage (h : Standing c progress delays)
    (hstage : c.stage = .auth ∨ c.stage = .sessionOpen) :
    c.life.state = .connecting ∧ c.ticker = none ∧ progress = .reading ∧ delays = 0 := by
  cases h with
  | resting _ hidle => simp [hidle] at hstage
  | dialing _ _ htransport => simp [htransport] at hstage
  | dialed _ _ htransport => simp [htransport] at hstage
  | greeting _ hstate _ hticker => exact ⟨hstate, hticker, rfl, rfl⟩
  | serving _ _ hestablished => simp [hestablished] at hstage

end Standing

/-! ## What a turn does to the tasks -/

namespace Tasks

variable {tasks after : Tasks}

/-- A task that goes on stood where it had to. -/
theorem of_pass? {generation : Nat} {now next : Progress}
    (h : tasks.pass? generation now next = some after) :
    tasks.session generation = now ∧ after = tasks.advance generation next := by
  unfold pass? at h
  split at h
  · exact ⟨‹_›, (Option.some.inj h).symm⟩
  · simp at h

@[simp] theorem session_advance (tasks : Tasks) (generation n : Nat) (progress : Progress) :
    (tasks.advance generation progress).session n =
      if n = generation then progress else tasks.session n := by
  simp [advance, Function.update_apply]

@[simp] theorem timers_advance (tasks : Tasks) (generation : Nat) (progress : Progress) :
    (tasks.advance generation progress).timers = tasks.timers :=
  rfl

/-- A delay that is over was under way. -/
theorem of_yield?_reconnect {generation : Nat}
    (h : tasks.yield? (.reconnect generation) = some after) :
    0 < tasks.timers generation ∧
      after = { tasks with
        timers := Function.update tasks.timers generation (tasks.timers generation - 1) } := by
  simp only [yield?] at h
  split at h
  · exact ⟨‹_›, (Option.some.inj h).symm⟩
  · simp at h

theorem absent_of_yield? {item : Item} (h : tasks.yield? item = some after) {n : Nat}
    (habsent : tasks.session n = .absent) : after.session n = .absent := by
  have hpass : ∀ {generation now next}, now ≠ .absent →
      tasks.pass? generation now next = some after → after.session n = .absent := by
    intro generation now next hnow hpass
    rcases of_pass? hpass with ⟨hsession, rfl⟩
    have hne : n ≠ generation := by
      rintro rfl
      exact hnow (hsession.symm.trans habsent)
    simp [hne, habsent]
  unfold yield? at h
  split at h
  case h_1 => exact hpass (by simp) h
  case h_2 => exact hpass (by simp) h
  case h_4 => exact hpass (by simp) h
  case h_5 => exact hpass (by simp) h
  case h_6 =>
    rcases of_yield?_reconnect h with ⟨-, rfl⟩
    exact habsent
  all_goals
    rw [← Option.some.inj h]
    exact habsent

theorem timers_of_yield? {item : Item} (h : tasks.yield? item = some after) (n : Nat) :
    after.timers n ≤ tasks.timers n := by
  have hpass : ∀ {generation now next}, tasks.pass? generation now next = some after →
      after.timers n ≤ tasks.timers n := by
    intro generation now next hpass
    rcases of_pass? hpass with ⟨-, rfl⟩
    simp
  unfold yield? at h
  split at h
  case h_1 => exact hpass h
  case h_2 => exact hpass h
  case h_4 => exact hpass h
  case h_5 => exact hpass h
  case h_6 generation =>
    rcases of_yield?_reconnect h with ⟨-, rfl⟩
    by_cases hn : n = generation
    · simp [hn]
    · simp [hn]
  all_goals exact (Option.some.inj h ▸ Nat.le_refl _)

theorem absent_of_take? {turn : Turn} (h : tasks.take? turn = some after) {n : Nat}
    (habsent : tasks.session n = .absent) : after.session n = .absent := by
  cases turn with
  | item time item => exact absent_of_yield? h habsent
  | _ => exact Option.some.inj h ▸ habsent

theorem timers_of_take? {turn : Turn} (h : tasks.take? turn = some after) (n : Nat) :
    after.timers n ≤ tasks.timers n := by
  cases turn with
  | item time item => exact timers_of_yield? h n
  | _ => exact (Option.some.inj h ▸ Nat.le_refl _)

/-- A quiet turn leaves the task of the current session and its delays where they are. -/
theorem current_of_quiet {c : Core} {turn : Turn}
    (hstanding : Standing c (tasks.session c.life.generation) (tasks.timers c.life.generation))
    (hquiet : Quiet c turn) (h : tasks.take? turn = some after) :
    after.session c.life.generation = tasks.session c.life.generation ∧
      after.timers c.life.generation = tasks.timers c.life.generation := by
  have hsame : after = tasks → after.session c.life.generation = tasks.session c.life.generation ∧
      after.timers c.life.generation = tasks.timers c.life.generation := by
    rintro rfl
    exact ⟨rfl, rfl⟩
  -- A report that is not of the current session is of another one, or the gateway has stopped.
  have hpass : ∀ {generation now next}, now ≠ .absent → (c.running = true →
      generation = c.life.generation → now = next) →
      tasks.pass? generation now next = some after →
      after.session c.life.generation = tasks.session c.life.generation ∧
        after.timers c.life.generation = tasks.timers c.life.generation := by
    intro generation now next hnow hcurrent hpass
    rcases of_pass? hpass with ⟨hsession, rfl⟩
    by_cases hgeneration : c.life.generation = generation
    · subst hgeneration
      cases hrunning : c.running with
      | true => simp [hsession, hcurrent hrunning rfl]
      | false => exact absurd (hsession.symm.trans (hstanding.of_stopped hrunning).2.1) hnow
    · simp [hgeneration]
  cases turn with
  | item time item =>
      cases item with
      | sessionReady generation writer =>
          exact hpass (by simp) (fun hrunning hcurrent => absurd hcurrent (hquiet hrunning)) h
      | connectFailed generation error =>
          exact hpass (by simp) (fun hrunning hcurrent => absurd hcurrent (hquiet hrunning)) h
      | transport generation event =>
          cases event with
          | opened =>
              exact hpass (by simp)
                (fun hrunning hcurrent => absurd rfl (hquiet hrunning hcurrent)) h
          | frame bytes => exact hpass (by simp) (fun _ _ => rfl) h
          | error text => exact hpass (by simp) (fun _ _ => rfl) h
          | closed reason => exact hpass (by simp) (fun _ _ => rfl) h
          | pong => exact hsame (Option.some.inj h).symm
      | reconnect generation =>
          have hnone : generation = c.life.generation → tasks.timers generation = 0 := by
            rintro rfl
            cases hrunning : c.running with
            | true => exact (hstanding.of_ne_disconnected (hquiet hrunning rfl)).2
            | false => exact (hstanding.of_stopped hrunning).2.2
          rcases of_yield?_reconnect h with ⟨hdue, rfl⟩
          by_cases hgeneration : c.life.generation = generation
          · exact absurd (hnone hgeneration.symm) (Nat.ne_of_gt hdue)
          · simp [hgeneration]
      | _ => exact hsame (Option.some.inj h).symm
  | _ => exact hsame (Option.some.inj h).symm

end Tasks

/-! ## Moves keep a system sound -/

/-- The tasks after the marks of a turn. -/
def Tasks.noteAll (tasks : Tasks) (marks : List Effect) : Tasks :=
  marks.foldl Tasks.note tasks

/-- Only marks set tasks to work. -/
theorem Tasks.foldl_note_eq_noteAll (tasks : Tasks) (journal : List Effect) :
    journal.foldl Tasks.note tasks = tasks.noteAll (journal.filter Effect.isMark) := by
  induction journal generalizing tasks with
  | nil => rfl
  | cons effect rest ih =>
      cases hmark : effect.isMark with
      | true =>
          rw [List.filter_cons_of_pos hmark]
          exact ih (tasks.note effect)
      | false =>
          have hnote : tasks.note effect = tasks := by
            cases effect <;> simp [Effect.isMark] at hmark <;> rfl
          rw [List.filter_cons_of_neg (by simp [hmark]), List.foldl_cons, hnote]
          exact ih tasks

@[simp] theorem Tasks.noteAll_triggered (tasks : Tasks) (trigger : Connection.Trigger)
    (state : Option Connection.State) (marks : List Effect) :
    tasks.noteAll (.triggered trigger state :: marks) = tasks.noteAll marks :=
  rfl

@[simp] theorem Tasks.noteAll_nil (tasks : Tasks) : tasks.noteAll [] = tasks :=
  rfl

@[simp] theorem Tasks.noteAll_append (tasks : Tasks) (first second : List Effect) :
    tasks.noteAll (first ++ second) = (tasks.noteAll first).noteAll second :=
  List.foldl_append

@[simp] theorem Tasks.noteAll_answerMarks (tasks : Tasks) (c : Core)
    (result : Except GatewayError Unit) : tasks.noteAll (c.answerMarks result) = tasks := by
  cases hcaller : c.caller <;> simp [Core.answerMarks, hcaller, noteAll, note]

namespace Sound

variable {c : Core} {tasks : Tasks}

/-- A turn does not make a task or a delay for a session that has yet to begin. -/
theorem fresh_of_take? (hsound : Sound c tasks) {turn : Turn} {after : Tasks}
    (htake : tasks.take? turn = some after) (n : Nat) (hn : c.life.generation < n) :
    after.session n = .absent ∧ after.timers n = 0 := by
  rcases hsound.fresh n hn with ⟨hsession, htimers⟩
  exact ⟨Tasks.absent_of_take? htake hsession,
    Nat.le_zero.mp (htimers ▸ Tasks.timers_of_take? htake n)⟩

/-- A gateway that is not connected may begin a session. -/
theorem opening (hrunning : c.running = true) (hwriter : c.writer = none)
    (hticker : c.ticker = none)
    (hfresh : ∀ n, c.life.generation < n → tasks.session n = .absent ∧ tasks.timers n = 0) :
    Sound c.opening (tasks.noteAll c.openingMarks) := by
  have hnote : tasks.noteAll c.openingMarks =
      tasks.advance (c.life.generation + 1) .connecting := rfl
  rw [hnote]
  refine ⟨?_, fun n hn => ?_⟩
  · have hnext := hfresh (c.life.generation + 1) (Nat.lt_succ_self _)
    have hdialing : Standing c.opening .connecting 0 := .dialing hrunning rfl rfl hwriter hticker
    simpa [Core.opening, hnext.2] using hdialing
  · have hlater : c.life.generation + 1 < n := hn
    simpa [Nat.ne_of_gt hlater] using hfresh n (by omega)

/-- The session number may grow while there is no connection. -/
theorem resting_next {next : Core} (hgeneration : next.life.generation = c.life.generation + 1)
    (hstate : next.life.state = .disconnected) (hstage : next.stage = .idle)
    (hwriter : next.writer = none) (hcaller : next.caller = none) (hticker : next.ticker = none)
    (hfresh : ∀ n, c.life.generation < n → tasks.session n = .absent ∧ tasks.timers n = 0) :
    Sound next tasks := by
  have hnext := hfresh next.life.generation (by omega)
  refine ⟨?_, fun n hn => hfresh n (by omega)⟩
  exact .resting hstate hstage hwriter hcaller hticker (.inl hnext.1) (by omega)
    (fun _ => hnext)

/-- What becomes of a session that ended without being asked to leaves a system sound. -/
theorem aftermath {error : ConnectError} {marks : List Effect} {core : Core}
    (hafter : Aftermath error c marks core) (hrunning : c.running = true)
    (hstate : c.life.state = .disconnected) (hstage : c.stage = .idle)
    (hwriter : c.writer = none) (hticker : c.ticker = none)
    (hprogress : tasks.session c.life.generation = .absent ∨
      tasks.session c.life.generation = .failed)
    (hdelays : tasks.timers c.life.generation = 0)
    (hfresh : ∀ n, c.life.generation < n → tasks.session n = .absent ∧ tasks.timers n = 0) :
    Sound core (tasks.noteAll marks) := by
  have hstopped : ∀ {p : Prop}, c.running = false → p := by simp [hrunning]
  cases hafter with
  | told caller hcaller =>
      refine ⟨?_, hfresh⟩
      exact .resting hstate hstage hwriter rfl hticker hprogress (by
        change tasks.timers c.life.generation ≤ 1
        omega) hstopped
  | again hcaller hdelay => exact opening (c := c.counted) hrunning hwriter hticker hfresh
  | later delay hcaller hdelay =>
      have hnote : tasks.noteAll [.retryAfter c.life.generation delay] =
          { tasks with timers := Function.update tasks.timers c.life.generation 1 } := by
        simp [Tasks.noteAll, Tasks.note, hdelays]
      rw [hnote]
      refine ⟨?_, fun n hn => ?_⟩
      · refine .resting hstate hstage hwriter hcaller hticker hprogress ?_ hstopped
        simp [Core.counted]
      · have hlater : c.life.generation < n := hn
        simpa [Nat.ne_of_gt hlater] using hfresh n hlater
  | never hcaller hdelay =>
      refine ⟨?_, hfresh⟩
      exact .resting hstate hstage hwriter hcaller hticker hprogress (by
        change tasks.timers c.life.generation ≤ 1
        omega) hstopped

end Sound

/-- Every move keeps a core and its tasks sound. -/
theorem Move.sound {c : Core} {turn : Turn} {o : Outline} {tasks after : Tasks}
    (hmove : Move c turn o) (hsound : Sound c tasks) (htake : tasks.take? turn = some after) :
    Sound o.core (after.noteAll o.marks) := by
  have hfresh := hsound.fresh_of_take? htake
  have hstanding := hsound.standing
  have hrunning_false : c.running = true → ∀ {p : Prop}, c.running = false → p := by simp_all
  cases hmove with
  | stay hquiet =>
      rcases Tasks.current_of_quiet hstanding hquiet htake with ⟨hsession, htimers⟩
      refine ⟨?_, hfresh⟩
      change Standing c (after.session _) (after.timers _)
      rw [hsession, htimers]
      exact hstanding
  | present hrunning hstate =>
      cases htake
      exact hsound
  | connect hrunning hstate =>
      rcases hstanding.of_disconnected hstate with ⟨-, hwriter, -, hticker⟩
      exact Sound.opening (c := { c with caller := some _ }) hrunning hwriter hticker hfresh
  | reconnect hrunning hstate =>
      rcases hstanding.of_disconnected hstate with ⟨-, hwriter, -, hticker⟩
      exact Sound.opening hrunning hwriter hticker hfresh
  | ready hrunning =>
      rcases Tasks.of_pass? htake with ⟨hsession, rfl⟩
      rcases (hsession ▸ hstanding).of_connecting with ⟨hstate, hstage, -, hticker, hdelays⟩
      refine ⟨?_, hfresh⟩
      simpa [Tasks.noteAll, hdelays] using
        Standing.dialed (c := { c with writer := some _ }) hrunning hstate hstage hticker
  | opened hrunning =>
      rcases Tasks.of_pass? htake with ⟨hsession, rfl⟩
      rcases (hsession ▸ hstanding).of_ready with ⟨hstate, hstage, hticker, hdelays⟩
      refine ⟨?_, hfresh⟩
      simpa [Tasks.noteAll, hdelays] using
        Standing.greeting (c := { c with stage := .auth }) hrunning hstate (.inl rfl) hticker
  | proceed hrunning hverdict =>
      rcases Tasks.of_pass? htake with ⟨hsession, rfl⟩
      rcases hstanding.of_stage (stage_of_verdict? hverdict) with ⟨hstate, hticker, -, hdelays⟩
      refine ⟨?_, hfresh⟩
      simpa [Tasks.noteAll, hdelays] using
        Standing.greeting (c := { c with stage := .sessionOpen }) hrunning hstate (.inr rfl) hticker
  | enter hrunning hstate hverdict =>
      rcases Tasks.of_pass? htake with ⟨hsession, rfl⟩
      rcases hstanding.of_stage (stage_of_verdict? hverdict) with ⟨-, -, -, hdelays⟩
      rw [Tasks.noteAll_append, Tasks.noteAll_answerMarks]
      refine ⟨?_, hfresh⟩
      simpa [Tasks.noteAll, Tasks.note, Core.established, hdelays] using
        Standing.serving (c := c.established) hrunning rfl rfl rfl rfl
  | refuse hrunning hstate hverdict =>
      refine Sound.resting_next rfl rfl rfl rfl rfl rfl ?_
      rw [Tasks.noteAll_append, Tasks.noteAll_answerMarks]
      exact hfresh
  | idle hrunning hends hstate =>
      rcases hstanding.of_disconnected hstate with ⟨hstage, hwriter, hcaller, hticker⟩
      exact Sound.resting_next rfl hstate hstage hwriter hcaller hticker hfresh
  | close hrunning hends hstate =>
      rw [List.cons_append, Tasks.noteAll_triggered, Tasks.noteAll_append,
        Tasks.noteAll_answerMarks]
      exact Sound.resting_next rfl rfl rfl rfl rfl rfl hfresh
  | fail hrunning hstate hafter =>
      rcases Tasks.of_pass? htake with ⟨hsession, rfl⟩
      rcases (hsession ▸ hstanding).of_connecting with ⟨-, -, hwriter, hticker, hdelays⟩
      rw [Tasks.noteAll_triggered]
      exact Sound.aftermath (c := c.failed) hafter hrunning rfl rfl hwriter hticker
        (.inr (by simp [Core.failed])) hdelays hfresh
  | lose hrunning hitem hstate hafter =>
      have hnext := hfresh _ (Nat.lt_succ_self c.life.generation)
      rw [Tasks.noteAll_triggered]
      exact Sound.aftermath (c := c.ended .disconnected) hafter hrunning rfl rfl rfl rfl
        (.inl hnext.1) hnext.2 fun n hn => hfresh n (Nat.lt_of_succ_lt hn)

/-! ## Turns and runs -/

/-- The core of a system's gateway. -/
def core (s : System World) : Core :=
  s.gateway.outline.core

/-- A system whose gateway and tasks stand to each other as they should. -/
def IsSound (s : System World) : Prop :=
  Sound s.core s.tasks

theorem outline_cleared (s : System World) : s.cleared.outline = ⟨s.core, []⟩ :=
  rfl

/-- An item is taken up by a move. -/
theorem move_of_item {s : System World} (hsound : s.IsSound) {time : Reading} {item : Item}
    {tasks : Tasks} (htake : s.tasks.yield? item = some tasks) :
    Move s.core (.item time item) (s.gateway.step link time item).outline := by
  have hstanding := hsound.standing
  have hcleared : { s.gateway with journal := [] }.outline = ⟨s.core, []⟩ := s.outline_cleared
  unfold Gateway.step
  split <;> rename_i hrunning
  · refine move_handle link time item hcleared hrunning ?_ ?_ ?_ ?_
    · by_cases hstate : s.core.life.state = .disconnected
      · exact .inl ⟨hstate, (hstanding.of_disconnected hstate).2.2.1⟩
      · exact .inr (hstanding.of_ne_disconnected hstate).1
    · exact fun hstage => (hstanding.of_stage hstage).1
    · rintro error rfl
      exact ((Tasks.of_pass? htake).1 ▸ hstanding).of_connecting.1
    · rintro reason rfl
      exact ((Tasks.of_pass? htake).1 ▸ hstanding).of_reading
  · have hstopped : s.core.running = false := Bool.eq_false_iff.mpr hrunning
    rw [hcleared]
    refine .stay ?_
    cases item <;> simp [Quiet, hstopped]

/-- Every turn of a sound system is a move. -/
theorem move_of_step {s next : System World} {turn : Turn} (hsound : s.IsSound)
    (hstep : s.step? link turn = some next) : Move s.core turn next.gateway.outline := by
  have hquiet : ∀ g : Gateway World, g.outline = ⟨s.core, []⟩ →
      Quiet s.core turn → Move s.core turn g.outline := by
    intro g houtline hquiet
    rw [houtline]
    exact .stay hquiet
  cases turn with
  | item time item =>
      rcases Option.map_eq_some_iff.mp hstep with ⟨tasks, htasks, rfl⟩
      exact move_of_item hsound htasks
  | submit issuer intent =>
      cases hstep
      exact hquiet _ s.outline_cleared trivial
  | advance time number =>
      rcases Option.map_eq_some_iff.mp hstep with ⟨submission, hsubmission, rfl⟩
      exact hquiet _ (outline_submission_step link time s.cleared submission) trivial
  | raw text =>
      cases hstep
      exact hquiet _ (outline_sendRaw link s.cleared text) trivial

theorem IsSound.step {s next : System World} {turn : Turn} (hsound : s.IsSound)
    (hstep : s.step? link turn = some next) : next.IsSound := by
  rcases of_step hstep with ⟨tasks, htake, htasks, -⟩
  unfold IsSound
  rw [htasks, Tasks.foldl_note_eq_noteAll]
  exact (move_of_step hsound hstep).sound hsound htake

theorem isSound_start (settings : Settings) (world : World) : (start settings world).IsSound where
  standing := .resting rfl rfl rfl rfl rfl (.inl rfl) (Nat.zero_le 1)
    (by simp [core, start, outline, Gateway.start])
  fresh _ _ := ⟨rfl, rfl⟩

theorem IsSound.run {s last : System World} {turns : List Turn} (hsound : s.IsSound)
    (hrun : s.run? link turns = some last) : last.IsSound :=
  run_induction (motive := fun _ s => s.IsSound) hsound (fun _ hmiddle => hmiddle.step) hrun

end TerminalGateway.System
