import TerminalGateway.Proofs.System.Attempts
import TerminalGateway.Proofs.System.Login
import TerminalGateway.Proofs.System.Speech

/-!
# How attempts end

An attempt to open a session goes on until its connection is not made or is lost, a frame decides
its login, or somebody asks for the end of the session.  Each of these ends the attempt in one
way, and the caller who waits for the session, if anyone does, is told which.

Main definitions:

- `Core.conclusion?`: how an attempt ends with an item.
- `System.answers`: the callers who were answered, each with its answer.
- `System.Attempt`: what becomes of an attempt in a turn.

Main results:

- Theorem `System.attempt_of_item`: what becomes of an attempt when an item is taken up.
- Theorem `System.gateway_of_conclusion_ok`: an attempt that ends well enters its session.
-/

namespace TerminalGateway

namespace Gateway

/-- How an attempt to open a session ends with an item: with an open session, or why there is
none; nothing while the attempt goes on. -/
def Core.conclusion? (c : Core) : Item → Option (Except GatewayError Unit)
  | .connectFailed generation error =>
      if generation = c.life.generation then some (.error (.connect error)) else none
  | .transport generation (.closed _) =>
      if generation = c.life.generation then some (.error (.connect .closedDuringHandshake))
      else none
  | .transport generation (.frame bytes) =>
      if generation = c.life.generation then
        match c.verdict? bytes with
        | some .enter => some (.ok ())
        | some (.refuse error) => some (.error (.auth error))
        | some .proceed => none
        | none => none
      else none
  | .close _ => some (.error .closed)
  | .shutdown => some (.error .closed)
  | _ => none

end Gateway

namespace System

open TerminalGateway.Gateway

variable {World : Type} {link : Link World}

/-! ## Answers -/

/-- The callers who were answered, oldest first, each with its answer. -/
def answers (log : List Effect) : List (Nat × Except GatewayError Unit) :=
  log.filterMap fun
    | .answered caller result => some (caller, result)
    | _ => none

@[simp] theorem answers_nil : answers [] = [] :=
  rfl

@[simp] theorem answers_append (first second : List Effect) :
    answers (first ++ second) = answers first ++ answers second :=
  List.filterMap_append

@[simp] theorem answers_triggered (trigger : Connection.Trigger)
    (state : Option Connection.State) (marks : List Effect) :
    answers (.triggered trigger state :: marks) = answers marks :=
  rfl

@[simp] theorem answers_openingMarks (c : Core) : answers c.openingMarks = [] :=
  rfl

@[simp] theorem answers_answerMarks (c : Core) (result : Except GatewayError Unit) :
    answers (c.answerMarks result) = (c.caller.map (·, result)).toList := by
  cases hcaller : c.caller <;> simp [Core.answerMarks, hcaller, answers]

/-- The answers of a turn are told by its marks. -/
theorem answers_marks (g : Gateway World) : answers g.outline.marks = answers g.journal :=
  filterMap_filter_effects (by rintro ⟨⟩ <;> simp [Effect.isMark]) g.journal

/-- Effects that are no marks, and texts, answer nobody. -/
theorem answers_eq_nil {log : List Effect}
    (h : ∀ effect ∈ log, effect.isMark = false ∨ effect.isText = true) : answers log = [] := by
  refine List.filterMap_eq_nil_iff.mpr fun effect heffect => ?_
  have hother := h effect heffect
  cases effect <;> simp [Effect.isMark, Effect.isText] at hother ⊢

/-- A caller who waits is told the error that ended its session, and no other session is begun
for it. -/
theorem answers_of_aftermath {error : ConnectError} {c core : Core} {marks : List Effect}
    (hafter : Aftermath error c marks core) (hstate : c.life.state = .disconnected) :
    answers marks = (c.caller.map (·, .error (.connect error))).toList ∧ core.caller = none ∧
      (c.caller ≠ none → core.life.state = .disconnected) ∧ core.life.state ≠ .connected := by
  have hrest : c.life.state ≠ .connected := by simp [hstate]
  cases hafter with
  | told caller hcaller => exact ⟨by simp [hcaller, answers], rfl, fun _ => hstate, hrest⟩
  | again hcaller hdelay =>
      exact ⟨by simp [hcaller], hcaller, fun hwaits => absurd hcaller hwaits,
        by simp [Core.opening]⟩
  | later delay hcaller hdelay =>
      exact ⟨by simp [hcaller, answers], hcaller, fun _ => hstate, hrest⟩
  | never hcaller hdelay => exact ⟨by simp [hcaller], hcaller, fun _ => hstate, hrest⟩

/-! ## An attempt under way -/

/-- What becomes of an attempt in a turn. -/
inductive Attempt (c : Core) : Option (Except GatewayError Unit) → Outline → Prop where
  /-- The attempt goes on, and whoever waits goes on waiting. -/
  | goesOn {o} (hlife : o.core.life = c.life) (hcaller : o.core.caller = c.caller)
      (hmarks : o.marks = []) : Attempt c none o
  /-- The session is open. -/
  | opens : Attempt c (some (.ok ()))
      ⟨c.established, [.triggered .sessionOpened (some .busy),
        .triggered .replayDone (some .connected)] ++ c.answerMarks (.ok ())⟩
  /-- There is no session.  Where a caller waits for it, no other one is begun. -/
  | ends {o error} (hanswers : answers o.marks = (c.caller.map (·, .error error)).toList)
      (hcaller : o.core.caller = none)
      (hstate : c.caller ≠ none → o.core.life.state = .disconnected)
      (hopen : o.core.life.state ≠ .connected) : Attempt c (some (.error error)) o

/-- A frame ends an attempt by its verdict. -/
theorem attempt_of_frame {g : Gateway World} {c : Core} (link : Link World) (time : Reading)
    (bytes : List UInt8) (houtline : g.outline = ⟨c, []⟩)
    (hstate : c.life.state = .connecting) :
    Attempt c (c.conclusion? (.transport c.life.generation (.frame bytes)))
      (g.onFrame link time bytes).outline := by
  have hcounted : g.countFrame.outline = ⟨c, []⟩ := houtline
  rw [outline_onFrame, houtline]
  simp only [Core.conclusion?, if_pos]
  cases c.verdict? bytes with
  | none => exact .goesOn rfl rfl rfl
  | some verdict =>
      cases verdict with
      | proceed =>
          have hproceed : (g.countFrame.onVerdict link time .proceed).outline =
              { g.countFrame.outline with
                core := { g.countFrame.outline.core with stage := .sessionOpen } } := rfl
          rw [hcounted] at hproceed
          dsimp only
          rw [hproceed]
          exact .goesOn rfl rfl rfl
      | enter =>
          have henter := outline_onSessionOpen link (g := g.countFrame)
            (by rw [hcounted]; exact hstate)
          rw [hcounted] at henter
          simp only [onVerdict]
          rw [henter]
          exact .opens
      | refuse error =>
          have hrefuse := outline_onRefused link time error (g := g.countFrame)
            (by rw [hcounted]; exact hstate)
          rw [hcounted] at hrefuse
          simp only [onVerdict]
          rw [hrefuse]
          exact .ends (by simp) rfl (fun _ => rfl) (by simp [Core.ended])

/-- What its connection reports ends an attempt, or the attempt goes on. -/
theorem attempt_of_event {g : Gateway World} {c : Core} (link : Link World) (time : Reading)
    (event : Transport.Event) (houtline : g.outline = ⟨c, []⟩)
    (hstate : c.life.state = .connecting) :
    Attempt c (c.conclusion? (.transport c.life.generation event))
      (g.onTransport link time event).outline := by
  cases event with
  | opened =>
      have hopened : (g.onOpened link).outline =
          { g.outline with core := { g.outline.core with stage := .auth } } :=
        outline_sendAll link _ _
      rw [onTransport, hopened, houtline]
      exact .goesOn rfl rfl rfl
  | frame bytes => exact attempt_of_frame link time bytes houtline hstate
  | error text =>
      rw [onTransport, houtline]
      exact .goesOn rfl rfl rfl
  | closed reason =>
      rcases outline_onLost link time (g := g) (by rw [houtline]; exact .inl hstate) with
        ⟨marks, core, hlost, hafter⟩
      rw [houtline] at hlost hafter
      rcases answers_of_aftermath hafter rfl with ⟨hanswers, hcaller, hrest, hopen⟩
      simp only [Core.conclusion?, if_pos]
      rw [onTransport, hlost]
      exact .ends hanswers hcaller hrest hopen
  | pong =>
      rw [onTransport, outline_onPong, houtline]
      exact .goesOn rfl rfl rfl

/-- A session that has yet to be opened is not probed. -/
theorem step_of_tick (link : Link World) {s : System World} (time : Reading) (generation : Nat)
    (hstate : s.gateway.state = .connecting) :
    s.gateway.step link time (.heartbeatTick generation) = s.cleared := by
  have hidle : s.cleared.onTick link time generation = s.cleared := by
    unfold onTick
    rw [if_neg]
    rintro ⟨-, hconnected⟩
    exact absurd (hstate.symm.trans hconnected) (by simp)
  unfold Gateway.step
  split
  · exact hidle
  · rfl

/-- An item that is no report and no reminder ends an attempt, or the attempt goes on. -/
theorem Move.attempt {c : Core} {time : Reading} {item : Item} {o : Outline}
    (hmove : Move c (.item time item) o) (hrunning : c.running = true)
    (hstate : c.life.state = .connecting) (hask : ∀ caller, item ≠ .connect caller)
    (hreport : ∀ generation event, item ≠ .transport generation event)
    (htick : ∀ generation, item ≠ .heartbeatTick generation) :
    Attempt c (c.conclusion? item) o := by
  cases hmove with
  | stay hquiet =>
      have hnone : c.conclusion? item = none := by
        cases item with
        | close caller => exact absurd hrunning (by simp [show c.running = false from hquiet])
        | shutdown => exact absurd hrunning (by simp [show c.running = false from hquiet])
        | connectFailed generation error => simp [Core.conclusion?, hquiet hrunning]
        | transport generation event => exact absurd rfl (hreport generation event)
        | _ => rfl
      rw [hnone]
      exact .goesOn rfl rfl rfl
  | present _ hopen => exact absurd rfl (hask _)
  | connect _ hrest => exact absurd rfl (hask _)
  | reconnect _ hrest => simp [hstate] at hrest
  | ready _ => exact .goesOn rfl rfl rfl
  | opened _ => exact absurd rfl (hreport _ _)
  | proceed _ hverdict => exact absurd rfl (hreport _ _)
  | enter _ _ hverdict => exact absurd rfl (hreport _ _)
  | refuse _ _ hverdict => exact absurd rfl (hreport _ _)
  | idle _ hends hrest => simp [hstate] at hrest
  | close _ hends hopen =>
      have hclosed : c.conclusion? item = some (.error .closed) := by
        cases item <;> simp [Item.ends?, Core.conclusion?] at hends ⊢
      rw [hclosed]
      exact .ends (by simp) rfl (fun _ => rfl) (by simp [Core.ended])
  | fail _ _ hafter =>
      rcases answers_of_aftermath hafter rfl with ⟨hanswers, hcaller, hrest, hopen⟩
      simp only [Core.conclusion?, if_pos]
      exact .ends hanswers hcaller hrest hopen
  | lose _ hitem _ hafter =>
      rcases hitem with ⟨reason, rfl⟩ | rfl
      · exact absurd rfl (hreport _ _)
      · exact absurd rfl (htick _)

/-- A gateway that stopped is not connecting. -/
theorem IsSound.running_of_connecting {s : System World} (hsound : s.IsSound)
    (hstate : s.gateway.state = .connecting) : s.gateway.running = true := by
  by_contra hstopped
  have hrest := (hsound.standing.of_stopped (Bool.eq_false_iff.mpr hstopped)).1
  exact absurd (hstate.symm.trans hrest) (by simp)

/-- What becomes of an attempt when an item is taken up. -/
theorem attempt_of_item {s : System World} (hsound : s.IsSound) (time : Reading) {item : Item}
    {tasks : Tasks} (htake : s.tasks.yield? item = some tasks)
    (hstate : s.gateway.state = .connecting) (hask : ∀ caller, item ≠ .connect caller) :
    Attempt s.core (s.core.conclusion? item) (s.gateway.step link time item).outline := by
  have hrunning : s.core.running = true := hsound.running_of_connecting hstate
  have hmove : Move s.core (.item time item) (s.gateway.step link time item).outline :=
    move_of_item hsound htake
  cases item with
  | transport generation event =>
      by_cases hcurrent : generation = s.gateway.life.generation
      · subst hcurrent
        rw [step_of_current link hrunning time event]
        exact attempt_of_event link time event s.outline_cleared hstate
      · have hnone : s.core.conclusion? (.transport generation event) = none := by
          have hother : generation ≠ s.core.life.generation := hcurrent
          cases event <;> simp [Core.conclusion?, hother]
        rw [step_of_other_session link s time event hcurrent, hnone]
        exact .goesOn rfl rfl rfl
  | heartbeatTick generation =>
      rw [step_of_tick link time generation hstate]
      exact .goesOn rfl rfl rfl
  | _ => exact hmove.attempt hrunning hstate hask (by simp) (by simp)

/-! ## An attempt that ends well -/

/-- A frame that decides a login is carried out by its verdict. -/
theorem onFrame_of_verdict? {g : Gateway World} (link : Link World) (time : Reading)
    {bytes : List UInt8} {verdict : Verdict}
    (hverdict : g.outline.core.verdict? bytes = some verdict) :
    g.onFrame link time bytes = g.countFrame.onVerdict link time verdict := by
  rcases of_verdict? hverdict with ⟨message, hdecode, hmessage⟩
  rw [onFrame_of_decode link time hdecode]
  have hcounted : g.countFrame.outline.core.verdictOn? message = some verdict := hmessage
  cases hkind : message.kind with
  | lifecycle kind =>
      rw [onMessage_of_lifecycle link g.countFrame time hkind, hcounted]
      rfl
  | _ =>
      rw [g.countFrame.outline.core.verdictOn?_eq_none (by simp [hkind])] at hcounted
      simp at hcounted

/-- An attempt ends with an open session by a frame of it that opens the session. -/
theorem of_conclusion?_ok {c : Core} {item : Item} (h : c.conclusion? item = some (.ok ())) :
    ∃ bytes, item = .transport c.life.generation (.frame bytes) ∧
      c.verdict? bytes = some .enter := by
  cases item with
  | transport generation event =>
      by_cases hcurrent : generation = c.life.generation
      · subst hcurrent
        cases event with
        | frame bytes =>
            refine ⟨bytes, rfl, ?_⟩
            simp only [Core.conclusion?, if_pos] at h
            cases hverdict : c.verdict? bytes with
            | none => simp [hverdict] at h
            | some verdict =>
                cases verdict with
                | enter => rfl
                | proceed => simp [hverdict] at h
                | refuse error => simp [hverdict] at h
        | _ => simp [Core.conclusion?] at h
      · cases event <;> simp [Core.conclusion?, hcurrent] at h
  | connectFailed generation error =>
      by_cases hcurrent : generation = c.life.generation <;>
        simp [Core.conclusion?, hcurrent] at h
  | _ => simp [Core.conclusion?] at h

/-- A gateway enters the session with which an attempt ends. -/
theorem gateway_of_conclusion_ok (link : Link World) {s : System World} (hsound : s.IsSound)
    (time : Reading) {item : Item} (hstate : s.gateway.state = .connecting)
    (h : s.core.conclusion? item = some (.ok ())) :
    s.gateway.step link time item = s.cleared.countFrame.onSessionOpen link := by
  rcases of_conclusion?_ok h with ⟨bytes, rfl, hverdict⟩
  have hrunning := hsound.running_of_connecting hstate
  have hframe : s.cleared.onFrame link time bytes =
      s.cleared.countFrame.onVerdict link time .enter :=
    onFrame_of_verdict? link time hverdict
  exact (step_of_current link hrunning time (.frame bytes)).trans hframe

end System

end TerminalGateway
