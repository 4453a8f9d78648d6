import TerminalGateway.Proofs.System.Attempts
import TerminalGateway.Proofs.Transport.Lines

/-!
# Ended sessions

The task and the probes of a session may still report when the session has ended, and what they
reported before may still wait in the queue.  None of this makes a difference.  Leaving all of it
out of a run leaves the same gateway and the same log, but for one thing: a connection that is
handed over too late is closed.

Main definitions:

- `System.Turn.isReportOf`: what the task and the probes of a session report.
- `System.Ends`: a turn in which the current session ends.
- `System.Owned`: connections that belong to one session each.
- `System.Spared`: systems that differ in what reports of an ended session leave behind.
- `System.Isolated`: a run that is the same without the reports of a session.

Main results:

- Theorem `System.Ends.generation_lt`: the number of a session that has ended is past.
- Theorem `System.Spared.step`: what is no report of the ended session does the same to both.
- Theorem `System.isolated_of_run`: every run is the same without the reports of a past session.
- Theorem `System.isolated_of_ends`: an ended session makes no difference, however late its
  reports are taken up.
-/

namespace TerminalGateway

namespace System

open TerminalGateway.Gateway
open TerminalGateway.Transport (Hub)

variable {World : Type} {link : Link World}

/-! ## The end of a session -/

/-- What the task and the probes of a session report. -/
def Turn.isReportOf (generation : Nat) : Turn → Bool
  | .item _ (.sessionReady n _) => n = generation
  | .item _ (.connectFailed n _) => n = generation
  | .item _ (.transport n _) => n = generation
  | .item _ (.heartbeatTick n) => n = generation
  | _ => false

/-- A report belongs to one session. -/
theorem Turn.isReportOf_unique {turn : Turn} {first second : Nat}
    (hfirst : turn.isReportOf first = true) (hsecond : turn.isReportOf second = true) :
    first = second := by
  unfold isReportOf at hfirst hsecond
  split at hfirst <;> simp_all

/-- The writers that the task of a session hands over. -/
def handed (generation : Nat) (turns : List Turn) : List Nat :=
  turns.filterMap fun
    | .item _ (.sessionReady n writer) => if n = generation then some writer else none
    | _ => none

theorem handed_append (generation : Nat) (first second : List Turn) :
    handed generation (first ++ second) = handed generation first ++ handed generation second :=
  List.filterMap_append

theorem mem_handed {generation writer : Nat} {turns : List Turn} :
    writer ∈ handed generation turns ↔
      ∃ time, .item time (.sessionReady generation writer) ∈ turns := by
  unfold handed
  rw [List.mem_filterMap]
  constructor
  · rintro ⟨turn, hmem, hturn⟩
    split at hturn
    · split at hturn
      · rename_i heq
        cases heq
        cases hturn
        exact ⟨_, hmem⟩
      · simp at hturn
    · simp at hturn
  · rintro ⟨time, hmem⟩
    exact ⟨_, hmem, if_pos rfl⟩

/-- A writer is handed over in a report of its session. -/
theorem isReportOf_of_mem_handed {generation writer : Nat} {turn : Turn}
    (h : writer ∈ handed generation [turn]) : turn.isReportOf generation = true := by
  rcases mem_handed.mp h with ⟨time, hmem⟩
  rw [← List.mem_singleton.mp hmem]
  exact decide_eq_true rfl

/-- Every connection belongs to one session. -/
def Owned (turns : List Turn) : Prop :=
  ∀ first second writer, writer ∈ handed first turns → writer ∈ handed second turns →
    first = second

/-- A turn in which the current session ends. -/
inductive Ends (s : System World) : Turn → System World → Prop where
  /-- A caller wanted it closed. -/
  | closed {time caller next} (hrunning : s.gateway.running = true) :
      Ends s (.item time (.close caller)) next
  /-- The gateway is stopped for good. -/
  | stopped {time next} (hrunning : s.gateway.running = true) :
      Ends s (.item time .shutdown) next
  /-- Its connection was lost, or too many of its probes were not answered. -/
  | lost {turn next} (state : Option Connection.State)
      (hlost : .triggered .unexpectedClose state ∈ next.gateway.journal) : Ends s turn next
  /-- The terminal refused the login or the trade session. -/
  | refused {turn next} (state : Option Connection.State)
      (hrefused : .triggered .authFailed state ∈ next.gateway.journal) : Ends s turn next

/-! ## Session numbers -/

theorem generation_le_of_aftermath {error : ConnectError} {c core : Core} {marks : List Effect}
    (hafter : Aftermath error c marks core) : c.life.generation ≤ core.life.generation := by
  cases hafter with
  | again hcaller hdelay => exact Nat.le_succ _
  | _ => exact Nat.le_refl _

/-- No move takes a session number back. -/
theorem Move.generation_le {c : Core} {turn : Turn} {o : Outline} (hmove : Move c turn o) :
    c.life.generation ≤ o.core.life.generation := by
  cases hmove with
  | connect hrunning hstate => exact Nat.le_succ _
  | reconnect hrunning hstate => exact Nat.le_succ _
  | refuse hrunning hstate hverdict => exact Nat.le_succ _
  | idle hrunning hends hstate => exact Nat.le_succ _
  | close hrunning hends hstate => exact Nat.le_succ _
  | fail hrunning hstate hafter => exact generation_le_of_aftermath (c := c.failed) hafter
  | lose hrunning hitem hstate hafter =>
      exact Nat.le_of_succ_le (generation_le_of_aftermath hafter)
  | _ => exact Nat.le_refl _

/-- A gateway that has stopped does not go on. -/
theorem Move.running {c : Core} {turn : Turn} {o : Outline} (hmove : Move c turn o)
    (hrunning : o.core.running = true) : c.running = true := by
  cases hmove with
  | stay hquiet => exact hrunning
  | _ => assumption

/-- A request for the end of a session makes its number past. -/
theorem Move.generation_lt_of_ends {c : Core} {time : Reading} {item : Item} {running : Bool}
    {o : Outline} (hmove : Move c (.item time item) o) (hends : item.ends? = some running)
    (hrunning : c.running = true) : c.life.generation < o.core.life.generation := by
  cases hmove with
  | stay hquiet =>
      have hstopped : c.running = false := by
        cases item <;> simp [Item.ends?] at hends
        · exact hquiet
        · exact hquiet
      simp [hrunning] at hstopped
  | idle hrunning hends hstate => exact Nat.lt_succ_self _
  | close hrunning hends hstate => exact Nat.lt_succ_self _
  | lose hrunning hitem hstate hafter =>
      rcases hitem with ⟨reason, rfl⟩ | rfl <;> simp [Item.ends?] at hends
  | _ => simp [Item.ends?] at hends

/-- The loss of a session, or its refusal, makes its number past. -/
theorem Move.generation_lt_of_marks {c : Core} {turn : Turn} {o : Outline} (hmove : Move c turn o)
    {state : Option Connection.State}
    (hmem : .triggered .unexpectedClose state ∈ o.marks ∨
      .triggered .authFailed state ∈ o.marks) :
    c.life.generation < o.core.life.generation := by
  cases hmove with
  | refuse hrunning hstate hverdict => exact Nat.lt_succ_self _
  | fail hrunning hstate hafter => cases hafter <;> simp [Core.openingMarks] at hmem
  | lose hrunning hitem hstate hafter => exact generation_le_of_aftermath hafter
  | _ => simp [Core.openingMarks, triggered_notMem_answerMarks] at hmem

/-- The number of a session that has ended is past. -/
theorem Ends.generation_lt {s next : System World} {turn : Turn} (h : Ends s turn next)
    (hsound : s.IsSound) (hstep : s.step? link turn = some next) :
    s.gateway.life.generation < next.gateway.life.generation := by
  have hmove := move_of_step hsound hstep
  cases h with
  | closed hrunning => exact hmove.generation_lt_of_ends rfl hrunning
  | stopped hrunning => exact hmove.generation_lt_of_ends rfl hrunning
  | lost state hlost => exact hmove.generation_lt_of_marks (.inl (triggered_mem_marks hlost))
  | refused state hrefused =>
      exact hmove.generation_lt_of_marks (.inr (triggered_mem_marks hrefused))

/-! ## Tasks that differ in the task of a session -/

/-- A turn asks a task to go further, which it does in a report of its session, or a delay to be
over, or nothing. -/
theorem Tasks.take?_cases (turn : Turn) :
    (∃ n now next, turn.isReportOf n = true ∧
      ∀ tasks : Tasks, tasks.take? turn = tasks.pass? n now next) ∨
    (∃ time n, turn = .item time (.reconnect n)) ∨
    ∀ tasks : Tasks, tasks.take? turn = some tasks := by
  have hreport : ∀ n : Nat, decide (n = n) = true := fun n => decide_eq_true rfl
  cases turn with
  | item time item =>
      cases item with
      | sessionReady n writer => exact .inl ⟨n, .connecting, .ready, hreport n, fun _ => rfl⟩
      | connectFailed n error => exact .inl ⟨n, .connecting, .failed, hreport n, fun _ => rfl⟩
      | transport n event =>
          cases event with
          | pong => exact .inr (.inr fun _ => rfl)
          | opened => exact .inl ⟨n, .ready, .reading, hreport n, fun _ => rfl⟩
          | _ => exact .inl ⟨n, .reading, .reading, hreport n, fun _ => rfl⟩
      | reconnect n => exact .inr (.inl ⟨time, n, rfl⟩)
      | _ => exact .inr (.inr fun _ => rfl)
  | _ => exact .inr (.inr fun _ => rfl)

/-- Tasks that agree but for the task of one session. -/
structure Tasks.AgreeBut (generation : Nat) (tasks other : Tasks) : Prop where
  session : ∀ n, n ≠ generation → tasks.session n = other.session n
  timers : tasks.timers = other.timers

namespace Tasks.AgreeBut

variable {generation : Nat} {tasks other after : Tasks}

theorem refl (generation : Nat) (tasks : Tasks) : AgreeBut generation tasks tasks :=
  ⟨fun _ _ => rfl, rfl⟩

theorem trans {third : Tasks} (hfirst : AgreeBut generation tasks other)
    (hsecond : AgreeBut generation other third) : AgreeBut generation tasks third where
  session n hn := (hfirst.session n hn).trans (hsecond.session n hn)
  timers := hfirst.timers.trans hsecond.timers

theorem advance (h : AgreeBut generation tasks other) (n : Nat) (progress : Progress) :
    AgreeBut generation (tasks.advance n progress) (other.advance n progress) where
  session m hm := by simp [h.session m hm]
  timers := h.timers

/-- What is no report of the session may come on both sides. -/
theorem take? (h : AgreeBut generation tasks other) {turn : Turn}
    (hturn : turn.isReportOf generation = false) (htake : tasks.take? turn = some after) :
    ∃ otherAfter, other.take? turn = some otherAfter ∧ AgreeBut generation after otherAfter := by
  rcases take?_cases turn with ⟨n, now, next, hreport, hpass⟩ | ⟨time, n, rfl⟩ | hsame
  · have hn : n ≠ generation := by
      rintro rfl
      simp [hreport] at hturn
    rw [hpass] at htake
    rcases of_pass? htake with ⟨hsession, rfl⟩
    have hstands : other.session n = now := (h.session n hn).symm.trans hsession
    exact ⟨other.advance n next, (hpass other).trans (if_pos hstands), h.advance n next⟩
  · rcases of_yield?_reconnect htake with ⟨hdue, rfl⟩
    rw [h.timers] at hdue
    refine ⟨_, if_pos hdue, h.session, ?_⟩
    simp only [h.timers]
  · obtain rfl : tasks = after := by simpa [hsame] using htake
    exact ⟨other, hsame other, h⟩

/-- A report of the session takes only the task of that session further. -/
theorem of_report {turn : Turn} (hturn : turn.isReportOf generation = true)
    (htake : tasks.take? turn = some after) : AgreeBut generation after tasks := by
  rcases take?_cases turn with ⟨n, now, next, hreport, hpass⟩ | ⟨time, n, rfl⟩ | hsame
  · obtain rfl : n = generation := Turn.isReportOf_unique hreport hturn
    rw [hpass] at htake
    rcases of_pass? htake with ⟨-, rfl⟩
    exact ⟨fun m hm => by simp [hm], rfl⟩
  · simp [Turn.isReportOf] at hturn
  · obtain rfl : tasks = after := by simpa [hsame] using htake
    exact refl generation tasks

theorem note (h : AgreeBut generation tasks other) (effect : Effect) :
    AgreeBut generation (tasks.note effect) (other.note effect) := by
  cases effect with
  | startSession n => exact h.advance n .connecting
  | retryAfter n delay =>
      refine ⟨h.session, ?_⟩
      simp only [Tasks.note, h.timers]
  | _ => exact h

/-- What a gateway sets to work it sets to work on both sides. -/
theorem foldl_note (h : AgreeBut generation tasks other) (journal : List Effect) :
    AgreeBut generation (journal.foldl Tasks.note tasks) (journal.foldl Tasks.note other) := by
  induction journal generalizing tasks other with
  | nil => exact h
  | cons effect rest ih => exact ih (h.note effect)

end Tasks.AgreeBut

/-! ## Reports of a past session -/

/-- A report of a past session closes the connection that it hands over, if the gateway is still at
work, and changes nothing else. -/
theorem gateway_of_report {s next : System World} {turn : Turn} {generation : Nat}
    (hpast : generation ≠ s.gateway.life.generation) (hturn : turn.isReportOf generation = true)
    (hstep : s.step? link turn = some next) :
    next.submissions = s.submissions ∧ next.gateway = { s.gateway with
      world := link.closeAll (if s.gateway.running then handed generation [turn] else [])
        s.gateway.world
      journal := (if s.gateway.running then handed generation [turn] else []).map .closed } := by
  cases turn with
  | item time item =>
      rcases Option.map_eq_some_iff.mp hstep with ⟨tasks, -, rfl⟩
      refine ⟨rfl, ?_⟩
      change s.gateway.step link time item = _
      unfold Gateway.step
      split <;> rename_i hrunning
      · have hstale : ¬ s.gateway.life.isCurrent generation := by simpa using hpast
        cases item with
        | sessionReady n writer =>
            obtain rfl : n = generation := by simpa [Turn.isReportOf] using hturn
            have hhanded : handed n [.item time (.sessionReady n writer)] = [writer] := by
              simp [handed]
            rw [hhanded]
            exact if_neg hstale
        | connectFailed n error =>
            obtain rfl : n = generation := by simpa [Turn.isReportOf] using hturn
            exact if_neg hstale
        | transport n event =>
            obtain rfl : n = generation := by simpa [Turn.isReportOf] using hturn
            exact if_neg hstale
        | heartbeatTick n =>
            obtain rfl : n = generation := by simpa [Turn.isReportOf] using hturn
            exact if_neg fun h => hstale h.1
        | _ => simp [Turn.isReportOf] at hturn
      · rfl
  | _ => simp [Turn.isReportOf] at hturn

/-! ## Systems that differ in reports of an ended session -/

/-- The first system is the second after some connections were closed that a session handed over
too late. -/
structure Spared (link : Link World) (generation : Nat) (closed : List Nat)
    (last kept : System World) : Prop where
  /-- The journal is that of the last turn alone, which may have been a report. -/
  gateway : last.gateway = { kept.gateway with
    world := link.closeAll closed kept.gateway.world
    journal := last.gateway.journal }
  submissions : last.submissions = kept.submissions
  /-- Only the task of the session itself may have come further. -/
  tasks : last.tasks.AgreeBut generation kept.tasks
  /-- Whatever else was done to others was done in the same order. -/
  order : kept.log.Sublist last.log
  /-- Nothing else was done to others. -/
  log : last.log.Perm (kept.log ++ closed.map Effect.closed)

namespace Spared

variable {generation : Nat} {closed : List Nat} {s kept next : System World} {turn : Turn}

theorem refl (link : Link World) (generation : Nat) (s : System World) :
    Spared link generation [] s s where
  gateway := rfl
  submissions := rfl
  tasks := .refl generation s.tasks
  order := .refl _
  log := by simp

/-- A report of a past session closes the connection that it hands over, if the gateway is still
at work, and does nothing else. -/
theorem report (h : Spared link generation closed s kept)
    (hpast : generation ≠ s.gateway.life.generation) (hturn : turn.isReportOf generation = true)
    (hstep : s.step? link turn = some next) :
    Spared link generation
      (closed ++ if s.gateway.running then handed generation [turn] else []) next kept := by
  rcases of_step hstep with ⟨tasks, htake, htasks, hlog⟩
  rcases gateway_of_report hpast hturn hstep with ⟨hsubmissions, hgateway⟩
  generalize (if s.gateway.running then handed generation [turn] else []) = late at hgateway ⊢
  have hjournal : next.gateway.journal = late.map Effect.closed := by rw [hgateway]
  have hnoted : (late.map Effect.closed).foldl Tasks.note tasks = tasks := by
    rw [List.foldl_map]
    exact List.foldl_fixed late
  rw [hjournal] at htasks hlog
  rw [hnoted] at htasks
  refine ⟨?_, hsubmissions.trans h.submissions, ?_, ?_, ?_⟩
  · rw [hgateway, h.gateway]
    simp only [Link.closeAll, List.foldl_append]
  · rw [htasks]
    exact (Tasks.AgreeBut.of_report hturn htake).trans h.tasks
  · rw [hlog]
    exact h.order.trans (List.sublist_append_left _ _)
  · rw [hlog, List.map_append, ← List.append_assoc]
    exact h.log.append_right _

/-- What a gateway is left with is left on both sides. -/
theorem leave (h : Spared link generation closed s kept) (g : Gateway World) :
    Spared link generation closed (s.leave (g.shift (link.closeAll closed) {})) (kept.leave g) where
  gateway := rfl
  submissions := h.submissions
  tasks := h.tasks.foldl_note g.journal
  order := h.order.append (.refl _)
  log := by
    have hswap := h.log.append_right g.journal
    rw [List.append_assoc] at hswap
    refine hswap.trans ?_
    change (kept.log ++ _).Perm ((kept.log ++ g.journal) ++ _)
    rw [List.append_assoc]
    exact List.perm_append_comm.append_left kept.log

/-- What is no report of the session does the same on both sides. -/
theorem step (h : Spared link generation closed s kept)
    (hwriter : link.CarriesAll (link.closeAll closed) kept.gateway.writer)
    (hnew : ∀ n writer, writer ∈ handed n [turn] → link.Carries (link.closeAll closed) writer)
    (hturn : turn.isReportOf generation = false) (hstep : s.step? link turn = some next) :
    ∃ keptNext, kept.step? link turn = some keptNext ∧
      Spared link generation closed next keptNext := by
  have hcleared : s.cleared = kept.cleared.shift (link.closeAll closed) {} := by
    rw [cleared, h.gateway]
    rfl
  have hcarries : ∀ time item, turn = .item time item →
      link.CarriesNew (link.closeAll closed) item := by
    rintro time item rfl n writer rfl
    exact hnew n writer (by simp [handed])
  rcases of_step hstep with ⟨tasks, htake, -, -⟩
  rcases h.tasks.take? hturn htake with ⟨keptTasks, hkept, hagree⟩
  rcases step?_shift hcleared h.submissions hwriter hcarries hkept hstep with
    ⟨taken, submissions, g, htaken, rfl, hkeptStep⟩
  obtain rfl : tasks = taken := Option.some.inj (htake.symm.trans htaken)
  have hstood : Spared link generation closed { s with tasks := tasks, submissions := submissions }
      { kept with tasks := keptTasks, submissions := submissions } :=
    ⟨h.gateway, rfl, hagree, h.order, h.log⟩
  exact ⟨_, hkeptStep, hstood.leave g⟩

end Spared

/-! ## Runs without the reports of a past session -/

/-- The run from one system to another is the same without the reports of a session, but that the
connections are closed that it hands over while the gateway is at work. -/
def Isolated (link : Link World) (generation : Nat) (s : System World) (turns : List Turn)
    (last : System World) : Prop :=
  ∃ closed kept,
    s.run? link (turns.filter fun turn => !turn.isReportOf generation) = some kept ∧
    Spared link generation closed last kept ∧
    closed <+: handed generation turns ∧
    (last.gateway.running = true → closed = handed generation turns)

namespace Isolated

variable {generation : Nat} {s middle next : System World} {turns : List Turn} {turn : Turn}

theorem nil (link : Link World) (generation : Nat) (s : System World) :
    Isolated link generation s [] s :=
  ⟨[], s, rfl, .refl link generation s, List.prefix_rfl, fun _ => rfl⟩

/-- A report of the past session is left out. -/
theorem report (h : Isolated link generation s turns middle)
    (hpast : generation ≠ middle.gateway.life.generation)
    (hturn : turn.isReportOf generation = true) (hstep : middle.step? link turn = some next)
    (hrunning : next.gateway.running = true → middle.gateway.running = true) :
    Isolated link generation s (turns ++ [turn]) next := by
  rcases h with ⟨closed, kept, hkept, hspared, hfirst, hclosed⟩
  refine ⟨_, kept, ?_, hspared.report hpast hturn hstep, ?_, ?_⟩
  · simpa [List.filter_append, hturn] using hkept
  · rw [handed_append]
    cases hbefore : middle.gateway.running with
    | true =>
        rw [hclosed hbefore]
        exact List.prefix_rfl
    | false =>
        rw [if_neg Bool.false_ne_true, List.append_nil]
        exact hfirst.trans (List.prefix_append _ _)
  · intro hnext
    rw [handed_append, hclosed (hrunning hnext), if_pos (hrunning hnext)]

/-- Any other turn is left in.  Whatever it is done through was not handed over by the past
session. -/
theorem other (h : Isolated link generation s turns middle) (hseparate : link.IsSeparate)
    (hcurrent : ∀ writer, middle.gateway.writer = some writer → writer ∉ handed generation turns)
    (hnew : ∀ n writer, writer ∈ handed n [turn] → writer ∉ handed generation turns)
    (hturn : turn.isReportOf generation = false) (hstep : middle.step? link turn = some next)
    (hrunning : next.gateway.running = true → middle.gateway.running = true) :
    Isolated link generation s (turns ++ [turn]) next := by
  rcases h with ⟨closed, kept, hkept, hspared, hfirst, hclosed⟩
  have hcarries : ∀ writer, writer ∉ handed generation turns →
      link.Carries (link.closeAll closed) writer :=
    fun writer hwriter => hseparate.carries_closeAll fun hmem => hwriter (hfirst.subset hmem)
  have hsame : middle.gateway.writer = kept.gateway.writer := by rw [hspared.gateway]
  have hcarriesCurrent : link.CarriesAll (link.closeAll closed) kept.gateway.writer :=
    fun writer hwriter => hcarries writer (hcurrent writer (hsame.trans hwriter))
  rcases hspared.step hcarriesCurrent (fun n writer hmem => hcarries writer (hnew n writer hmem))
      hturn hstep with ⟨keptNext, hkeptStep, hnext⟩
  have hnone : handed generation [turn] = [] := by
    refine List.eq_nil_iff_forall_not_mem.mpr fun writer hmem => ?_
    simp [isReportOf_of_mem_handed hmem] at hturn
  have hkeep : [turn].filter (fun turn => !turn.isReportOf generation) = [turn] := by
    simp [hturn]
  unfold Isolated
  rw [List.filter_append, hkeep, handed_append, hnone, List.append_nil]
  exact ⟨closed, keptNext, run?_concat_of_eq hkept hkeptStep, hnext, hfirst,
    fun hlast => hclosed (hrunning hlast)⟩

end Isolated

theorem Owned.of_append {first second : List Turn} (h : Owned (first ++ second)) : Owned first := by
  intro one two writer hone htwo
  refine h one two writer ?_ ?_
  · rw [handed_append]
    exact List.mem_append_left _ hone
  · rw [handed_append]
    exact List.mem_append_left _ htwo

/-- Once the number of a session is past it stays so, and a run is the same without the reports
of the session. -/
theorem isolated_of_run {settings : Settings} {world : World} {before rest : List Turn}
    {s last : System World} {generation : Nat} (hseparate : link.IsSeparate)
    (howned : Owned (before ++ rest))
    (hrun : (start settings world).run? link before = some s)
    (hpast : generation < s.gateway.life.generation) (hrest : s.run? link rest = some last) :
    generation < last.gateway.life.generation ∧ Isolated link generation s rest last := by
  revert howned
  refine run_induction (motive := fun rest last => Owned (before ++ rest) →
    generation < last.gateway.life.generation ∧ Isolated link generation s rest last) ?_ ?_ hrest
  · exact fun _ => ⟨hpast, .nil link generation s⟩
  · intro turns turn middle next hmiddle ih hstep howned
    have hwhole : (start settings world).run? link (before ++ turns) = some middle := by
      rw [run?_append, hrun]
      exact hmiddle
    have hmove := move_of_step ((isSound_start settings world).run hwhole) hstep
    rw [← List.append_assoc] at howned
    rcases ih howned.of_append with ⟨hpast, hisolated⟩
    refine ⟨Nat.lt_of_lt_of_le hpast hmove.generation_le, ?_⟩
    cases hturn : turn.isReportOf generation with
    | true => exact hisolated.report (Nat.ne_of_lt hpast) hturn hstep hmove.running
    | false =>
        -- A connection of another session is none that the past session handed over.
        have hother : ∀ n writer, n ≠ generation → writer ∈ handed n (before ++ turns ++ [turn]) →
            writer ∉ handed generation turns := by
          refine fun n writer hn hmem hwriter => hn (howned n generation writer hmem ?_)
          rw [handed_append, handed_append]
          exact List.mem_append_left _ (List.mem_append_right _ hwriter)
        refine hisolated.other hseparate ?_ ?_ hturn hstep hmove.running
        · intro writer hwriter
          have horder := (orderly_start settings world).run (isSound_start settings world) hwhole
          rcases (horder.writer writer hwriter).2 with ⟨time, hmem⟩
          exact hother _ writer (Nat.ne_of_gt hpast)
            (mem_handed.mpr ⟨time, List.mem_append_left _ hmem⟩)
        · intro n writer hmem
          refine hother n writer ?_ (by rw [handed_append]; exact List.mem_append_right _ hmem)
          rintro rfl
          simp [isReportOf_of_mem_handed hmem] at hturn

/-- The sessions that were begun are the points of the course at which one is. -/
theorem reduceOption_course (log : List Effect) : (course log).reduceOption = attempts log := by
  unfold course List.reduceOption attempts
  rw [List.filterMap_filterMap]
  congr 1
  funext effect
  cases effect with
  | triggered trigger state =>
      cases state with
      | none => rfl
      | some state => cases state <;> rfl
  | _ => rfl

/-- Once a session has ended, its number is never that of a current session again, and whatever
its task and its probes still report makes no difference, however late it is taken up: leaving
all of it out of the run leaves the same gateway, the same submissions and the same log, but that
a connection which is handed over too late is closed.  No connection of the session becomes the
current one again, and no two sessions have the same number. -/
theorem isolated_of_ends {settings : Settings} {world : World} {before rest : List Turn}
    {turn : Turn} {s next last : System World} (hseparate : link.IsSeparate)
    (howned : Owned (before ++ turn :: rest))
    (hrun : (start settings world).run? link before = some s)
    (hstep : s.step? link turn = some next) (hends : Ends s turn next)
    (hrest : next.run? link rest = some last) :
    Isolated link s.gateway.life.generation next rest last ∧
    s.gateway.life.generation < last.gateway.life.generation ∧
    (∀ writer ∈ handed s.gateway.life.generation (before ++ turn :: rest),
      last.gateway.writer ≠ some writer) ∧
    (attempts last.log).Pairwise (· < ·) := by
  have hnext : (start settings world).run? link (before ++ [turn]) = some next :=
    run?_concat_of_eq hrun hstep
  have hwhole : (start settings world).run? link (before ++ turn :: rest) = some last := by
    rw [List.append_cons, run?_append, hnext]
    exact hrest
  have hpast := hends.generation_lt ((isSound_start settings world).run hrun) hstep
  rcases isolated_of_run hseparate (by rwa [List.append_cons] at howned) hnext hpast hrest with
    ⟨hlast, hisolated⟩
  refine ⟨hisolated, hlast, ?_, reduceOption_course last.log ▸ (apart_of_run hwhole).rising⟩
  intro writer hmem hwriter
  have horder := (orderly_start settings world).run (isSound_start settings world) hwhole
  rcases (horder.writer writer hwriter).2 with ⟨time, hcurrent⟩
  exact Nat.ne_of_lt hlast (howned _ _ writer hmem (mem_handed.mpr ⟨time, hcurrent⟩))

/-! ## A connection that is made too late -/

/-- Two lines that the terminal has accepted. -/
def twoLines : Hub :=
  { lines := [{}, {}] }

/-- Another session is begun while the connection of the first is handed over and read. -/
def overtaken : List Turn :=
  [.item midnight (.connect 2), .item midnight (.sessionReady 1 0),
    .item midnight (.sessionReady 3 1), .item midnight (.transport 1 .opened),
    .item midnight (.heartbeatTick 1), .item midnight (.transport 3 .opened)]

/-- The connection of a session that was closed before it was made comes when another session is
being opened.  It is closed, and the login goes to the other connection. -/
theorem isolated_overtaken :
    ∃ s next last kept,
      (start bridgeSettings twoLines).run? Simulation.link [.item midnight (.connect 0)] = some s ∧
      s.step? Simulation.link (.item midnight (.close 1)) = some next ∧
      next.run? Simulation.link overtaken = some last ∧
      next.run? Simulation.link [.item midnight (.connect 2), .item midnight (.sessionReady 3 1),
        .item midnight (.transport 3 .opened)] = some kept ∧
      Spared Simulation.link 1 [0] last kept := by
  have hread : ((start bridgeSettings twoLines).run? Simulation.link
      (([.item midnight (.connect 0)] ++ [.item midnight (.close 1)]) ++ overtaken)).map
        (fun s => (s.gateway.running, s.gateway.writer)) = some (true, some 1) := by decide +kernel
  have hfirst : ((start bridgeSettings twoLines).run? Simulation.link
      [.item midnight (.connect 0)]).map
        (fun s => (s.gateway.running, s.gateway.life.generation)) = some (true, 1) := by
    decide +kernel
  have howned :
      Owned ([.item midnight (.connect 0)] ++ .item midnight (.close 1) :: overtaken) := by
    intro first second writer hone htwo
    simp [handed, overtaken] at hone htwo
    omega
  rcases Option.map_eq_some_iff.mp hread with ⟨last, hlast, hrunning⟩
  rw [run?_append, Option.bind_eq_some_iff] at hlast
  rcases hlast with ⟨next, hnext, hlast⟩
  rw [run?_concat, Option.bind_eq_some_iff] at hnext
  rcases hnext with ⟨s, hrun, hstep⟩
  rw [hrun] at hfirst
  have hgeneration : s.gateway.life.generation = 1 :=
    congrArg Prod.snd (Option.some.inj hfirst)
  rcases isolated_of_ends Simulation.isSeparate_link howned hrun hstep
      (.closed (congrArg Prod.fst (Option.some.inj hfirst))) hlast with
    ⟨⟨closed, kept, hkept, hspared, -, hclosed⟩, -⟩
  rw [hgeneration] at hkept hspared hclosed
  obtain rfl : closed = [0] := hclosed (congrArg Prod.fst hrunning)
  exact ⟨s, next, last, kept, hrun, hstep, hlast, hkept, hspared⟩

end System

end TerminalGateway
