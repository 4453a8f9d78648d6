import TerminalGateway.Proofs.System.Order
import Mathlib.Data.List.Chain
import Mathlib.Data.List.ReduceOption

/-!
# Attempts to connect

A gateway begins a session because a caller asks for one or because it lost one.  Once a session
was closed or refused, a caller was told that there is none, or the policy gave up, no session is
begun until a caller asks for one, whatever earlier sessions and delays still report.  For one
loss of a session no two sessions are begun.

Main definitions:

- `System.attempts`: the sessions that were begun.
- `System.Concludes`: a turn after which no session is begun unasked.
- `System.AtRest`: a gateway that begins no session unasked.

Main results:

- Theorem `System.AtRest.run`: a gateway at rest stays so until a caller asks for a session.
- Theorem `System.Concludes.atRest`: a turn that concludes leaves the gateway at rest.
- Theorem `System.apart_of_run`: between two sessions that are begun the connection was given up.
- Theorem `System.no_attempt_unasked`: no session is begun unasked, and none twice.
-/

namespace TerminalGateway.System

open TerminalGateway.Gateway

variable {World : Type} {link : Link World}

/-- In this turn a caller asks for a session. -/
def Turn.asks : Turn → Bool
  | .item _ (.connect _) => true
  | _ => false

/-- The sessions that were begun, oldest first. -/
def attempts (log : List Effect) : List Nat :=
  log.filterMap fun
    | .startSession generation => some generation
    | _ => none

/-- A session that ends without being asked to: its connection is not made, or it is lost. -/
def Breaks (next : System World) : Prop :=
  ∃ state, .triggered .connectFailed state ∈ next.gateway.journal ∨
    .triggered .unexpectedClose state ∈ next.gateway.journal

/-- A turn after which no session is to be begun before a caller asks for one. -/
inductive Concludes (s : System World) : Turn → System World → Prop where
  /-- A caller wanted the session closed. -/
  | closed {time caller next} : Concludes s (.item time (.close caller)) next
  /-- The gateway is stopped for good. -/
  | stopped {time next} : Concludes s (.item time .shutdown) next
  /-- The terminal refused the login or the trade session. -/
  | refused {turn next} (state : Option Connection.State)
      (hrefused : .triggered .authFailed state ∈ next.gateway.journal) : Concludes s turn next
  /-- A caller waited for the session that ended. -/
  | told {turn next} (hbreaks : Breaks next) (hcaller : s.gateway.caller ≠ none) :
      Concludes s turn next
  /-- The policy gave up. -/
  | gaveUp {turn next} (hbreaks : Breaks next) (hcaller : s.gateway.caller = none)
      (hdelay : s.gateway.life.policy.delay? s.gateway.life.attempts = none) :
      Concludes s turn next

/-- A gateway that begins no session unasked: it is not connected, and no delay is under way for
its current session. -/
def AtRest (s : System World) : Prop :=
  s.gateway.state = .disconnected ∧ s.tasks.timers s.gateway.life.generation = 0

/-! ## Rest -/

/-- A gateway at rest makes no move but to a new session number, unless a caller asks for a
session. -/
theorem Move.of_rest {c : Core} {turn : Turn} {o : Outline} {tasks after : Tasks}
    (hmove : Move c turn o) (hsound : Sound c tasks) (htake : tasks.take? turn = some after)
    (hasks : turn.asks = false) (hstate : c.life.state = .disconnected)
    (hdelays : tasks.timers c.life.generation = 0) :
    o.marks = [] ∧ o.core.life.state = .disconnected ∧
      after.timers o.core.life.generation = 0 := by
  have hstanding := hsound.standing
  cases hmove with
  | stay hquiet =>
      rcases Tasks.current_of_quiet hstanding hquiet htake with ⟨-, htimers⟩
      exact ⟨rfl, hstate, htimers.trans hdelays⟩
  | present hrunning hopen => simp [Turn.asks] at hasks
  | connect hrunning hrest => simp [Turn.asks] at hasks
  | reconnect hrunning hrest =>
      exact absurd hdelays (Nat.ne_of_gt (Tasks.of_yield?_reconnect htake).1)
  | ready hrunning =>
      simp [((Tasks.of_pass? htake).1 ▸ hstanding).of_connecting.1] at hstate
  | opened hrunning =>
      simp [((Tasks.of_pass? htake).1 ▸ hstanding).of_ready.1] at hstate
  | proceed hrunning hverdict =>
      simp [(hstanding.of_stage (stage_of_verdict? hverdict)).1] at hstate
  | enter hrunning hconnecting hverdict => simp [hconnecting] at hstate
  | refuse hrunning hconnecting hverdict => simp [hconnecting] at hstate
  | idle hrunning hends hrest =>
      exact ⟨rfl, hrest, (hsound.fresh_of_take? htake _ (Nat.lt_succ_self _)).2⟩
  | close hrunning hends hopen => simp [hstate] at hopen
  | fail hrunning hconnecting hafter => simp [hconnecting] at hstate
  | lose hrunning hitem hopen hafter => simp [hstate] at hopen

/-- The sessions that are begun in a turn are told by its marks. -/
theorem attempts_append_journal (log : List Effect) (g : Gateway World) :
    attempts (log ++ g.journal) = attempts log ++ attempts g.outline.marks := by
  have hmarks : attempts g.outline.marks = attempts g.journal :=
    filterMap_filter_effects (by rintro ⟨⟩ <;> simp [Effect.isMark]) g.journal
  rw [hmarks]
  exact List.filterMap_append

/-- The tasks after a turn are those that its marks set to work. -/
theorem tasks_of_step {s next : System World} {turn : Turn}
    (hstep : s.step? link turn = some next) :
    ∃ tasks, s.tasks.take? turn = some tasks ∧
      next.tasks = tasks.noteAll next.gateway.outline.marks ∧
      attempts next.log = attempts s.log ++ attempts next.gateway.outline.marks := by
  rcases of_step hstep with ⟨tasks, htake, htasks, hlog⟩
  refine ⟨tasks, htake, ?_, ?_⟩
  · rw [htasks, Tasks.foldl_note_eq_noteAll]
    rfl
  · rw [hlog, attempts_append_journal]

/-- A turn leaves a gateway at rest where it is, unless a caller asks for a session. -/
theorem AtRest.step {s next : System World} {turn : Turn} (hrest : s.AtRest)
    (hsound : s.IsSound) (hstep : s.step? link turn = some next) (hasks : turn.asks = false) :
    next.AtRest ∧ attempts next.log = attempts s.log := by
  rcases tasks_of_step hstep with ⟨tasks, htake, htasks, hattempts⟩
  rcases (move_of_step hsound hstep).of_rest hsound htake hasks hrest.1 hrest.2 with
    ⟨hmarks, hstate, hdelays⟩
  rw [hmarks] at htasks hattempts
  refine ⟨⟨hstate, ?_⟩, by simpa [attempts] using hattempts⟩
  rw [htasks]
  exact hdelays

/-- A gateway at rest begins no session until a caller asks for one. -/
theorem AtRest.run {s last : System World} {turns : List Turn} (hrest : s.AtRest)
    (hsound : s.IsSound) (hrun : s.run? link turns = some last)
    (hasks : ∀ turn ∈ turns, turn.asks = false) :
    last.AtRest ∧ attempts last.log = attempts s.log := by
  induction turns generalizing s with
  | nil =>
      cases hrun
      exact ⟨hrest, rfl⟩
  | cons turn rest ih =>
      rcases Option.bind_eq_some_iff.mp hrun with ⟨next, hstep, hrun⟩
      rcases hrest.step hsound hstep (hasks turn List.mem_cons_self) with ⟨hnext, hsame⟩
      rcases ih hnext (hsound.step hstep) hrun fun t ht => hasks t (List.mem_cons_of_mem _ ht) with
        ⟨hlast, hlater⟩
      exact ⟨hlast, hlater.trans hsame⟩

/-! ## Turns that conclude -/

@[simp] theorem attempts_nil : attempts [] = [] :=
  rfl

@[simp] theorem attempts_append (first second : List Effect) :
    attempts (first ++ second) = attempts first ++ attempts second :=
  List.filterMap_append

@[simp] theorem attempts_triggered (trigger : Connection.Trigger)
    (state : Option Connection.State) (marks : List Effect) :
    attempts (.triggered trigger state :: marks) = attempts marks :=
  rfl

@[simp] theorem attempts_answerMarks (c : Core) (result : Except GatewayError Unit) :
    attempts (c.answerMarks result) = [] := by
  cases hcaller : c.caller <;> simp [Core.answerMarks, hcaller, attempts]

/-- After a request for an end there is no connection, no delay and no new session. -/
theorem Move.of_ends {c : Core} {time : Reading} {item : Item} {running : Bool} {o : Outline}
    {tasks after : Tasks} (hmove : Move c (.item time item) o) (hsound : Sound c tasks)
    (htake : tasks.take? (.item time item) = some after) (hends : item.ends? = some running) :
    o.core.life.state = .disconnected ∧
      (after.noteAll o.marks).timers o.core.life.generation = 0 ∧ attempts o.marks = [] := by
  have hnext := (hsound.fresh_of_take? htake _ (Nat.lt_succ_self _)).2
  cases hmove with
  | stay hquiet =>
      have hstopped : c.running = false := by
        cases item <;> simp [Item.ends?] at hends
        · exact hquiet
        · exact hquiet
      rcases hsound.standing.of_stopped hstopped with ⟨hstate, -, hdelays⟩
      rcases Tasks.current_of_quiet hsound.standing hquiet htake with ⟨-, htimers⟩
      exact ⟨hstate, htimers.trans hdelays, rfl⟩
  | idle hrunning hends hstate => exact ⟨hstate, hnext, rfl⟩
  | close hrunning hends hstate =>
      refine ⟨rfl, ?_, ?_⟩
      · simpa [Core.ended] using hnext
      · simp
  | lose hrunning hitem hstate hafter =>
      rcases hitem with ⟨reason, rfl⟩ | rfl <;> simp [Item.ends?] at hends
  | _ => simp [Item.ends?] at hends

/-- After a refusal there is no connection, no delay and no new session. -/
theorem Move.of_refused {c : Core} {turn : Turn} {o : Outline} {tasks after : Tasks}
    (hmove : Move c turn o) (hsound : Sound c tasks) (htake : tasks.take? turn = some after)
    {state : Option Connection.State} (hmem : .triggered .authFailed state ∈ o.marks) :
    o.core.life.state = .disconnected ∧
      (after.noteAll o.marks).timers o.core.life.generation = 0 ∧ attempts o.marks = [] := by
  have hnext := (hsound.fresh_of_take? htake _ (Nat.lt_succ_self _)).2
  cases hmove with
  | refuse hrunning hstate hverdict =>
      refine ⟨rfl, ?_, ?_⟩
      · simpa [Core.ended] using hnext
      · simp
  | fail hrunning hstate hafter => cases hafter <;> simp [Core.openingMarks] at hmem
  | lose hrunning hitem hstate hafter => cases hafter <;> simp [Core.openingMarks] at hmem
  | _ => simp [Core.openingMarks, triggered_notMem_answerMarks] at hmem

/-- A session that ends without being asked to leaves a gateway that is not connected and has no
delay under way, and what becomes of it is decided then. -/
theorem Move.of_breaks {c : Core} {turn : Turn} {o : Outline} {tasks after : Tasks}
    (hmove : Move c turn o) (hsound : Sound c tasks) (htake : tasks.take? turn = some after)
    {state : Option Connection.State}
    (hmem : .triggered .connectFailed state ∈ o.marks ∨
      .triggered .unexpectedClose state ∈ o.marks) :
    ∃ error broken marks, Aftermath error broken marks o.core ∧
      attempts o.marks = attempts marks ∧
      (after.noteAll o.marks).timers = (after.noteAll marks).timers ∧
      broken.caller = c.caller ∧ broken.life.policy = c.life.policy ∧
      broken.life.attempts = c.life.attempts ∧ broken.life.state = .disconnected ∧
      after.timers broken.life.generation = 0 := by
  cases hmove with
  | fail hrunning hstate hafter =>
      have hdelays := (hsound.standing.of_ne_disconnected (by simp [hstate])).2
      rcases Tasks.of_pass? htake with ⟨-, rfl⟩
      exact ⟨_, c.failed, _, hafter, rfl, rfl, rfl, rfl, rfl, rfl, hdelays⟩
  | lose hrunning hitem hstate hafter =>
      exact ⟨_, c.ended .disconnected, _, hafter, rfl, rfl, rfl, rfl, rfl, rfl,
        (hsound.fresh_of_take? htake _ (Nat.lt_succ_self _)).2⟩
  | _ => simp [Core.openingMarks, triggered_notMem_answerMarks] at hmem

/-- If a caller waits or the policy gives up, a session that ended without being asked to is not
followed by another. -/
theorem rest_of_aftermath {error : ConnectError} {c core : Core} {marks : List Effect}
    {tasks : Tasks} (hafter : Aftermath error c marks core)
    (hstate : c.life.state = .disconnected) (hdelays : tasks.timers c.life.generation = 0)
    (hnone : c.caller ≠ none ∨ c.life.policy.delay? c.life.attempts = none) :
    core.life.state = .disconnected ∧ (tasks.noteAll marks).timers core.life.generation = 0 ∧
      attempts marks = [] := by
  cases hafter with
  | told caller hcaller => exact ⟨hstate, hdelays, rfl⟩
  | again hcaller hdelay => simp [hcaller, hdelay] at hnone
  | later delay hcaller hdelay => simp [hcaller, hdelay] at hnone
  | never hcaller hdelay => exact ⟨hstate, hdelays, rfl⟩

/-- A turn that concludes leaves the gateway at rest and begins no session itself. -/
theorem Concludes.atRest {s next : System World} {turn : Turn} (h : Concludes s turn next)
    (hsound : s.IsSound) (hstep : s.step? link turn = some next) :
    next.AtRest ∧ attempts next.log = attempts s.log := by
  rcases tasks_of_step hstep with ⟨tasks, htake, htasks, hattempts⟩
  have hmove := move_of_step hsound hstep
  suffices hrest : next.core.life.state = .disconnected ∧
      (tasks.noteAll next.gateway.outline.marks).timers next.core.life.generation = 0 ∧
      attempts next.gateway.outline.marks = [] by
    refine ⟨⟨hrest.1, ?_⟩, by rw [hattempts, hrest.2.2, List.append_nil]⟩
    rw [htasks]
    exact hrest.2.1
  have hbroken : Breaks next → (s.core.caller ≠ none ∨
      s.core.life.policy.delay? s.core.life.attempts = none) →
      next.core.life.state = .disconnected ∧
        (tasks.noteAll next.gateway.outline.marks).timers next.core.life.generation = 0 ∧
        attempts next.gateway.outline.marks = [] := by
    rintro ⟨state, hmem⟩ hnone
    rcases hmove.of_breaks hsound htake (hmem.imp triggered_mem_marks triggered_mem_marks) with
      ⟨error, broken, marks, hafter, hmarks, htimers, hcaller, hpolicy, hcount, hstate, hdelays⟩
    rw [hmarks, htimers]
    refine rest_of_aftermath hafter hstate hdelays ?_
    rw [hcaller, hpolicy, hcount]
    exact hnone
  cases h with
  | closed => exact hmove.of_ends hsound htake rfl
  | stopped => exact hmove.of_ends hsound htake rfl
  | refused state hrefused => exact hmove.of_refused hsound htake (triggered_mem_marks hrefused)
  | told hbreaks hcaller => exact hbroken hbreaks (.inl hcaller)
  | gaveUp hbreaks hcaller hdelay => exact hbroken hbreaks (.inr hdelay)

/-! ## The distance between attempts -/

/-- An effect that tells the course of attempts: a session that is begun, or nothing where the
connection is given up. -/
def point? : Effect → Option (Option Nat)
  | .startSession generation => some (some generation)
  | .triggered _ (some .disconnected) => some none
  | _ => none

/-- The sessions that are begun and, between them, the times at which the connection is given
up. -/
def course (log : List Effect) : List (Option Nat) :=
  log.filterMap point?

@[simp] theorem course_append (first second : List Effect) :
    course (first ++ second) = course first ++ course second :=
  List.filterMap_append

@[simp] theorem course_answerMarks (c : Core) (result : Except GatewayError Unit) :
    course (c.answerMarks result) = [] := by
  cases hcaller : c.caller <;> simp [Core.answerMarks, hcaller, course, point?]

/-- The course of a turn is told by its marks. -/
theorem course_journal (g : Gateway World) : course g.outline.marks = course g.journal :=
  filterMap_filter_effects (by rintro ⟨⟩ <;> simp [Effect.isMark, point?]) g.journal

/-- Attempts that stand apart: between any two of them the connection was given up, their numbers
rise up to the current one, and it has been given up since the last one if there is none. -/
structure Apart (course : List (Option Nat)) (c : Core) : Prop where
  chain : course.IsChain fun first second => first = none ∨ second = none
  rising : course.reduceOption.Pairwise (· < ·)
  bounded : ∀ generation, some generation ∈ course → generation ≤ c.life.generation
  rested : c.life.state = .disconnected → ∀ last ∈ course.getLast?, last = none

namespace Apart

variable {past : List (Option Nat)} {c next : Core} {marks : List Effect}

/-- A turn that begins no session and gives none up leaves attempts apart. -/
theorem keep (h : Apart past c) (hmarks : course marks = [])
    (hgeneration : c.life.generation ≤ next.life.generation)
    (hstate : next.life.state = .disconnected → c.life.state = .disconnected) :
    Apart (past ++ course marks) next := by
  rw [hmarks, List.append_nil]
  exact ⟨h.chain, h.rising, fun n hn => Nat.le_trans (h.bounded n hn) hgeneration,
    fun hnext => h.rested (hstate hnext)⟩

/-- A turn that gives the connection up leaves attempts apart. -/
theorem giveUp (h : Apart past c) (hmarks : course marks = [none])
    (hgeneration : c.life.generation ≤ next.life.generation) :
    Apart (past ++ course marks) next := by
  rw [hmarks]
  refine ⟨?_, ?_, ?_, ?_⟩
  · exact List.isChain_append.mpr ⟨h.chain, .singleton _, by simp⟩
  · simpa [List.reduceOption_append] using h.rising
  · intro n hn
    exact Nat.le_trans (h.bounded n (by simpa using hn)) hgeneration
  · simp

/-- A session that is begun while there is no connection leaves attempts apart. -/
theorem opening (h : Apart past c) (hstate : c.life.state = .disconnected) :
    Apart (past ++ course c.openingMarks) c.opening := by
  have hmarks : course c.openingMarks = [some (c.life.generation + 1)] := rfl
  rw [hmarks]
  refine ⟨?_, ?_, ?_, ?_⟩
  · exact List.isChain_append.mpr
      ⟨h.chain, .singleton _, fun last hlast _ _ => .inl (h.rested hstate last hlast)⟩
  · rw [List.reduceOption_append, List.pairwise_append]
    refine ⟨h.rising, by simp, ?_⟩
    intro n hn m hm
    obtain rfl : m = c.life.generation + 1 := by simpa using hm
    exact Nat.lt_succ_of_le (h.bounded n (List.reduceOption_mem_iff.mp hn))
  · intro n hn
    rcases List.mem_append.mp hn with hn | hn
    · exact Nat.le_succ_of_le (h.bounded n hn)
    · obtain rfl : n = c.life.generation + 1 := by simpa using hn
      exact Nat.le_refl _
  · simp [Core.opening]

/-- What becomes of a session that ended without being asked to leaves attempts apart. -/
theorem aftermath {error : ConnectError} (h : Apart past c)
    (hstate : c.life.state = .disconnected) (hafter : Aftermath error c marks next) :
    Apart (past ++ course marks) next := by
  cases hafter with
  | told caller hcaller => exact h.keep rfl (Nat.le_refl _) id
  | again hcaller hdelay =>
      have hcounted : Apart past c.counted := ⟨h.chain, h.rising, h.bounded, h.rested⟩
      exact hcounted.opening hstate
  | later delay hcaller hdelay => exact h.keep rfl (Nat.le_refl _) id
  | never hcaller hdelay => exact h.keep rfl (Nat.le_refl _) id

/-- Every move leaves attempts apart. -/
theorem move {turn : Turn} {o : Outline} (h : Apart past c) (hmove : Move c turn o) :
    Apart (past ++ course o.marks) o.core := by
  -- The trigger of a broken session gives the connection up before anything else is decided.
  have hbroken : ∀ {trigger : Connection.Trigger} {error} (broken : Core) {marks core},
      broken.life.state = .disconnected →
      c.life.generation ≤ broken.life.generation → Aftermath error broken marks core →
      Apart (past ++ course (.triggered trigger (some .disconnected) :: marks)) core := by
    intro trigger error broken marks core hstate hgeneration hafter
    have hgiven : Apart (past ++ course [.triggered trigger (some .disconnected)]) broken :=
      h.giveUp rfl hgeneration
    rw [← List.singleton_append, course_append, ← List.append_assoc]
    exact hgiven.aftermath hstate hafter
  cases hmove with
  | stay hquiet => exact h.keep rfl (Nat.le_refl _) id
  | present hrunning hstate => exact h.keep rfl (Nat.le_refl _) id
  | @connect time caller hrunning hstate =>
      have hwaiting : Apart past { c with caller := some caller } :=
        ⟨h.chain, h.rising, h.bounded, h.rested⟩
      exact hwaiting.opening hstate
  | reconnect hrunning hstate => exact h.opening hstate
  | ready hrunning => exact h.keep rfl (Nat.le_refl _) id
  | opened hrunning => exact h.keep rfl (Nat.le_refl _) id
  | proceed hrunning hverdict => exact h.keep rfl (Nat.le_refl _) id
  | enter hrunning hstate hverdict =>
      refine h.keep ?_ (Nat.le_refl _) (by simp [Core.established])
      rw [course_append, course_answerMarks]
      rfl
  | refuse hrunning hstate hverdict =>
      refine h.giveUp ?_ (Nat.le_succ _)
      rw [course_append, course_answerMarks]
      rfl
  | idle hrunning hends hstate => exact h.keep rfl (Nat.le_succ _) fun _ => hstate
  | close hrunning hends hstate =>
      refine h.giveUp ?_ (Nat.le_succ _)
      rw [course_append, ← List.singleton_append, course_append, course_answerMarks]
      rfl
  | fail hrunning hstate hafter => exact hbroken c.failed rfl (Nat.le_refl _) hafter
  | lose hrunning hitem hstate hafter =>
      exact hbroken (c.ended .disconnected) rfl (Nat.le_succ _) hafter

/-- Between two attempts that stand apart the connection was given up. -/
theorem none_mem_of_chain {first second : Nat} {between after : List (Option Nat)}
    (h : (some first :: (between ++ some second :: after)).IsChain
      fun first second => first = none ∨ second = none) : none ∈ between := by
  induction between generalizing first with
  | nil => simp at h
  | cons point rest ih =>
      cases point with
      | none => exact List.mem_cons_self
      | some generation => exact List.mem_cons_of_mem _ (ih h.tail)

/-- Between two sessions that were begun the connection was given up, and the later one has the
greater number. -/
theorem of_split {log before between after : List Effect} {first second : Nat}
    (h : Apart (course log) c)
    (hlog : log = before ++ .startSession first :: (between ++ .startSession second :: after)) :
    first < second ∧ ∃ trigger, .triggered trigger (some .disconnected) ∈ between := by
  have hcourse : course log =
      course before ++ some first :: (course between ++ some second :: course after) := by
    rw [hlog]
    simp [course, point?, List.filterMap_append]
  constructor
  · have hrising := h.rising
    rw [hcourse, List.reduceOption_append, List.pairwise_append] at hrising
    have hfirst := hrising.2.1
    rw [List.reduceOption_cons_of_some, List.reduceOption_append, List.pairwise_cons] at hfirst
    exact hfirst.1 second (List.mem_append_right _ (by simp [List.reduceOption_cons_of_some]))
  · have hchain := h.chain
    rw [hcourse] at hchain
    have hnone : none ∈ course between := none_mem_of_chain hchain.right_of_append
    rcases List.mem_filterMap.mp hnone with ⟨effect, hmem, heffect⟩
    unfold point? at heffect
    split at heffect
    · simp at heffect
    · exact ⟨_, hmem⟩
    · simp at heffect

end Apart

/-- Along every run from the start attempts stand apart. -/
theorem apart_of_run {settings : Settings} {world : World} {turns : List Turn}
    {s : System World} (hrun : (start settings world).run? link turns = some s) :
    Apart (course s.log) s.core := by
  refine run_induction (motive := fun _ s => Apart (course s.log) s.core) ?_ ?_ hrun
  · exact ⟨.nil, .nil, by simp [course, start], by simp [course, start]⟩
  · intro turns turn middle next hmiddle hapart hstep
    rcases of_step hstep with ⟨tasks, -, -, hlog⟩
    rw [hlog, course_append, ← course_journal]
    exact hapart.move (move_of_step ((isSound_start settings world).run hmiddle) hstep)

/-- A gateway waits for at most one delay of its current session. -/
theorem IsSound.timers_le_one {s : System World} (hsound : s.IsSound) :
    s.tasks.timers s.gateway.life.generation ≤ 1 :=
  hsound.standing.delays_le_one

/-- Once a session was closed or refused, a caller who waited for it was told that it ended, or
the policy gave up, no session is begun until a caller asks for one, whatever is still reported or
due.  At most one delay is under way for the current session, and between any two sessions that
are begun the connection was given up. -/
theorem no_attempt_unasked {settings : Settings} {world : World} {turns : List Turn}
    {s : System World} (hrun : (start settings world).run? link turns = some s) :
    (∀ turn next rest last, s.step? link turn = some next → Concludes s turn next →
      next.run? link rest = some last → (∀ turn ∈ rest, turn.asks = false) →
      attempts last.log = attempts s.log) ∧
    s.tasks.timers s.gateway.life.generation ≤ 1 ∧
    (∀ before first between second after,
      s.log = before ++ .startSession first :: (between ++ .startSession second :: after) →
      first < second ∧ ∃ trigger, .triggered trigger (some .disconnected) ∈ between) := by
  have hsound := (isSound_start settings world).run hrun
  refine ⟨?_, hsound.timers_le_one, fun _ _ _ _ _ => (apart_of_run hrun).of_split⟩
  intro turn next rest last hstep hconcludes hrest hasks
  rcases hconcludes.atRest hsound hstep with ⟨hatRest, hsame⟩
  exact (hatRest.run (hsound.step hstep) hrest hasks).2.trans hsame

/-! ## A delay that comes too late -/

/-- The settings for a bridge that is tried again after a second. -/
def patientSettings : Settings :=
  { bridgeSettings with retry := { initialDelay := 1000 } }

/-- A session is lost, and a delay begins. -/
def lostSession : List Turn :=
  bridgeLogin ++ [.item midnight (.transport 1 (.closed (.peer "")))]

/-- The delay after a lost session is over when the gateway has been closed, and no session is
begun. -/
theorem no_attempt_unasked_lostSession :
    ∃ s next last, (start patientSettings ()).run? openLink lostSession = some s ∧
      s.step? openLink (.item midnight (.close 1)) = some next ∧
      next.run? openLink [.item midnight (.reconnect 2)] = some last ∧
      attempts last.log = attempts s.log := by
  have hdue : ((start patientSettings ()).run? openLink
      (lostSession ++ [.item midnight (.close 1)] ++
        [.item midnight (.reconnect 2)])).isSome = true := by decide +kernel
  rcases Option.isSome_iff_exists.mp hdue with ⟨last, hlast⟩
  rw [run?_append, Option.bind_eq_some_iff] at hlast
  rcases hlast with ⟨next, hnext, hlast⟩
  rw [run?_concat, Option.bind_eq_some_iff] at hnext
  rcases hnext with ⟨s, hrun, hstep⟩
  exact ⟨s, next, last, hrun, hstep, hlast,
    (no_attempt_unasked hrun).1 _ next _ last hstep .closed hlast (by simp [Turn.asks])⟩

end TerminalGateway.System
