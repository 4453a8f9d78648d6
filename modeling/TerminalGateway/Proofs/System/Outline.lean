import TerminalGateway.Gateway.Submission
import TerminalGateway.Proofs.System.Writing

/-!
# The outline of a gateway

How a connection goes on depends on a small part of a gateway, its core: the life of the
connection, the stage of the session, and who and what belongs to it.  Of what a gateway does to
others, the marks tell the course of the connection: its changes of state, the sessions and
delays that are begun, and the answers to callers.  This module says what each operation of a
gateway does to its core and its marks.  Most operations do nothing to either.

Main definitions:

- `Core`, `Effect.isMark`, `Outline`: the core, the marks, and both of them.
- `outline`: the outline of a gateway.
-/

namespace TerminalGateway.Gateway

variable {World : Type}

/-- The part of a gateway that decides how its connection goes on. -/
structure Core where
  settings : Settings
  life : Connection.Lifecycle
  stage : Stage
  writer : Option Nat
  caller : Option Nat
  session : Option Nat
  ticker : Option Nat
  running : Bool

/-- An effect that tells the course of the connection. -/
def Effect.isMark : Effect → Bool
  | .triggered _ _ => true
  | .startSession _ => true
  | .retryAfter _ _ => true
  | .answered _ _ => true
  | _ => false

/-- The core of a gateway and the marks in its journal. -/
@[ext]
structure Outline where
  core : Core
  marks : List Effect

/-- The outline of a gateway. -/
def outline (g : Gateway World) : Outline where
  core := ⟨g.settings, g.life, g.stage, g.writer, g.caller, g.session, g.ticker, g.running⟩
  marks := g.journal.filter Effect.isMark

/-- What is read off effects of one sort is read off a log without all others. -/
theorem filterMap_filter_effects {α : Type} {sort : Effect → Bool} {read : Effect → Option α}
    (h : ∀ effect, sort effect = false → read effect = none) (log : List Effect) :
    (log.filter sort).filterMap read = log.filterMap read := by
  induction log with
  | nil => rfl
  | cons effect rest ih =>
      cases hsort : sort effect with
      | true => rw [List.filter_cons_of_pos hsort, List.filterMap_cons, List.filterMap_cons, ih]
      | false =>
          rw [List.filter_cons_of_neg (by simp [hsort]), ih,
            List.filterMap_cons_none (h effect hsort)]

/-- Events that are made of what was read have what all events have that can be made. -/
theorem forall_of_map {α : Type} {condition : Event → Prop} {read : Except DecodeError α}
    {make : α → List Event} (hmake : ∀ row, ∀ event ∈ make row, condition event)
    {events : List Event} (h : read.map make = .ok events) :
    ∀ event ∈ events, condition event := by
  cases read with
  | ok row => exact Except.ok.inj h ▸ hmake row
  | error _ => cases h

/-! ## Single effects and fields -/

theorem outline_record_of_isMark (g : Gateway World) {effect : Effect} (h : effect.isMark = true) :
    (g.record effect).outline = { g.outline with marks := g.outline.marks ++ [effect] } := by
  simp [outline, record, h]

theorem outline_record_of_not_isMark (g : Gateway World) {effect : Effect}
    (h : effect.isMark = false) : (g.record effect).outline = g.outline := by
  simp [outline, record, h]

@[simp] theorem outline_publish (g : Gateway World) (event : Event) :
    (g.publish event).outline = g.outline := by
  simp [outline, publish, Effect.isMark]

@[simp] theorem outline_publishAll (g : Gateway World) (events : List Event) :
    (g.publishAll events).outline = g.outline := by
  induction events generalizing g with
  | nil => rfl
  | cons event rest ih => exact (ih (g.publish event)).trans (outline_publish g event)

@[simp] theorem outline_trigger (g : Gateway World) (trigger : Connection.Trigger) :
    (g.trigger trigger).outline =
      ⟨{ g.outline.core with life := (g.outline.core.life.apply trigger).2 },
        g.outline.marks ++ [.triggered trigger (g.outline.core.life.apply trigger).1]⟩ := by
  have hlife : g.outline.core.life = g.life := rfl
  rw [hlife]
  unfold Gateway.trigger
  rcases g.life.apply trigger with ⟨after, life⟩
  dsimp only
  split
  · exact outline_record_of_isMark _ rfl
  · rw [outline_publish]
    exact outline_record_of_isMark _ rfl

@[simp] theorem outline_nextGeneration (g : Gateway World) :
    g.nextGeneration.outline =
      { g.outline with
        core := { g.outline.core with life := g.outline.core.life.nextGeneration } } :=
  rfl

@[simp] theorem outline_answer (g : Gateway World) (result : Except GatewayError Unit) :
    (g.answer result).outline =
      ⟨{ g.outline.core with caller := none },
        g.outline.marks ++ (g.outline.core.caller.map (Effect.answered · result)).toList⟩ := by
  cases hcaller : g.caller with
  | none => simp [answer, outline, hcaller]
  | some caller => simp [answer, outline, record, hcaller, Effect.isMark]

/-! ## Writing -/

theorem outline_of_writes {g next : Gateway World} (h : Writes g next) :
    next.outline = g.outline := by
  rcases h with ⟨world, effects, rfl, hwriting⟩
  have hnone : effects.filter Effect.isMark = [] := by
    refine List.filter_eq_nil_iff.mpr fun effect heffect => ?_
    have hwritten := hwriting effect heffect
    cases effect <;> simp [Effect.isWriting, Effect.isMark] at hwritten ⊢
  simp [outline, hnone]

@[simp] theorem outline_send (link : Link World) (g : Gateway World) (text : String) :
    (g.send link text).2.outline = g.outline :=
  outline_of_writes (writes_send link g text)

@[simp] theorem outline_sendAll (link : Link World) (g : Gateway World) (texts : List String) :
    (g.sendAll link texts).outline = g.outline :=
  outline_of_writes (writes_sendAll link g texts)

@[simp] theorem outline_closeLine (link : Link World) (g : Gateway World) (writer : Nat) :
    (g.closeLine link writer).outline = g.outline :=
  outline_of_writes (writes_closeLine link g writer)

@[simp] theorem outline_closeWriter (link : Link World) (g : Gateway World) :
    (g.closeWriter link).outline =
      { g.outline with core := { g.outline.core with writer := none } } :=
  outline_of_writes (writes_closeWriter link g)

@[simp] theorem outline_installWriter (link : Link World) (g : Gateway World) (writer : Nat) :
    (g.installWriter link writer).outline =
      { g.outline with core := { g.outline.core with writer := some writer } } :=
  outline_of_writes (writes_installWriter link g writer)

@[simp] theorem outline_requestFeed (link : Link World) (g : Gateway World) (asset : Asset) :
    (g.requestFeed link asset).outline = g.outline :=
  outline_of_writes (writes_requestFeed link g asset)

@[simp] theorem outline_replay (link : Link World) (g : Gateway World) :
    (g.replay link).outline = g.outline :=
  outline_of_writes (writes_replay link g)

@[simp] theorem outline_sayGoodbye (link : Link World) (g : Gateway World) :
    (g.sayGoodbye link).outline = g.outline :=
  outline_of_writes (writes_sayGoodbye link g)

/-! ## Transactions, probes and tasks -/

@[simp] theorem outline_expire (g : Gateway World) (time : Reading) (bound : Nat) :
    (g.expire time bound).outline = g.outline := by
  unfold expire
  rcases g.pending.expire time.now bound with ⟨ended, pending⟩
  dsimp only
  rw [outline_publishAll]
  simp [outline, Effect.isMark]

@[simp] theorem outline_expireAll (g : Gateway World) (time : Reading) :
    (g.expireAll time).outline = g.outline :=
  outline_expire g time 0

@[simp] theorem outline_onReply (g : Gateway World) (reply : Message.Reply) :
    (g.onReply reply).outline = g.outline := by
  unfold onReply
  rcases g.pending.resolve reply with ⟨decision, pending⟩
  cases decision with
  | nothing => rfl
  | completed ended => exact (outline_publish _ _).trans (outline_record_of_not_isMark _ rfl)
  | unrecognized id => exact outline_publish _ _

@[simp] theorem outline_publishRead (g : Gateway World)
    (read : Except DecodeError (List Event)) : (g.publishRead read).outline = g.outline := by
  cases read with
  | ok events => exact outline_publishAll g events
  | error _ => rfl

@[simp] theorem outline_stopTicker (g : Gateway World) :
    g.stopTicker.outline = { g.outline with core := { g.outline.core with ticker := none } } := by
  cases hticker : g.ticker with
  | none => simp [stopTicker, outline, hticker]
  | some generation => simp [stopTicker, outline, record, hticker, Effect.isMark]

@[simp] theorem outline_stopTasks (g : Gateway World) :
    g.stopTasks.outline =
      { g.outline with core := { g.outline.core with ticker := none, session := none } } := by
  have hforget : ∀ g' : Gateway World, { g' with session := none }.outline =
      { g'.outline with core := { g'.outline.core with session := none } } := fun _ => rfl
  have hnone : g.stopTasks.outline = { g.stopTicker with session := none }.outline := by
    unfold stopTasks
    dsimp only
    split <;> rename_i hsession
    · exact outline_record_of_not_isMark _ rfl
    · simp [outline, hsession]
  rw [hnone, hforget, outline_stopTicker]

@[simp] theorem outline_startTicker (g : Gateway World) :
    g.startTicker.outline =
      { g.outline with
        core := { g.outline.core with ticker := some g.outline.core.life.generation } } :=
  outline_record_of_not_isMark _ rfl

@[simp] theorem outline_probe (link : Link World) (g : Gateway World) :
    (g.probe link).outline = g.outline := by
  have hping := outline_of_writes (writes_ping link g)
  unfold probe
  split <;> rename_i next heq <;> rw [heq] at hping
  · exact hping
  · exact (outline_record_of_not_isMark _ rfl).trans hping
  · exact hping

@[simp] theorem outline_onPong (g : Gateway World) (time : Reading) :
    (g.onPong time).outline = g.outline := by
  unfold onPong
  rcases g.heartbeat.onPong time.wall with ⟨beat, heartbeat⟩
  dsimp only
  split
  · exact outline_publish _ _
  · rfl

@[simp] theorem outline_onSubscribe (link : Link World) (g : Gateway World) (asset : Asset)
    (sink : SinkId) (declared : List Capability) :
    (g.onSubscribe link asset sink declared).outline = g.outline := by
  unfold onSubscribe
  rcases g.subscriptions.subscribe asset sink declared with ⟨subscribed, subscriptions⟩
  dsimp only
  split
  · exact outline_requestFeed link _ asset
  · rfl

/-! ## The beginning and the end of a session -/

/-- The core while the connection of a new session is being made. -/
def Core.opening (c : Core) : Core :=
  { c with
    life := { c.life with state := .connecting, generation := c.life.generation + 1 }
    stage := .transport
    session := some (c.life.generation + 1) }

/-- The marks of a new session. -/
def Core.openingMarks (c : Core) : List Effect :=
  [.triggered .connect (some .connecting), .startSession (c.life.generation + 1)]

/-- The core of an open session. -/
def Core.established (c : Core) : Core :=
  { c with
    life := { c.life with state := .connected, attempts := 0 }
    stage := .established
    caller := none
    ticker := some c.life.generation }

/-- The core after the session was taken down, with the connection in some state. -/
def Core.ended (c : Core) (state : Connection.State) : Core :=
  { c with
    life := { c.life with state := state, generation := c.life.generation + 1 }
    stage := .idle
    writer := none
    session := none
    ticker := none }

/-- The answer to a caller who waits. -/
def Core.answerMarks (c : Core) (result : Except GatewayError Unit) : List Effect :=
  (c.caller.map (Effect.answered · result)).toList

/-- A gateway that is not connected begins a session. -/
theorem outline_openSession {g : Gateway World}
    (hstate : g.outline.core.life.state = .disconnected) :
    g.openSession.outline =
      ⟨g.outline.core.opening, g.outline.marks ++ g.outline.core.openingMarks⟩ := by
  have hopen : g.openSession.outline =
      ⟨{ (g.trigger .connect).nextGeneration.outline.core with
          stage := .transport
          session := some (g.trigger .connect).nextGeneration.outline.core.life.generation },
        (g.trigger .connect).nextGeneration.outline.marks ++
          [.startSession (g.trigger .connect).nextGeneration.outline.core.life.generation]⟩ :=
    outline_record_of_isMark _ rfl
  rw [hopen]
  simp [Connection.Lifecycle.apply, Connection.next?, Connection.Lifecycle.nextGeneration, hstate,
    Core.opening, Core.openingMarks]

/-- With its login accepted and the trade session open, a gateway is connected. -/
theorem outline_onSessionOpen {g : Gateway World} (link : Link World)
    (hstate : g.outline.core.life.state = .connecting) :
    (g.onSessionOpen link).outline =
      ⟨g.outline.core.established,
        g.outline.marks ++ [.triggered .sessionOpened (some .busy),
          .triggered .replayDone (some .connected)] ++ g.outline.core.answerMarks (.ok ())⟩ := by
  have hreset : ∀ g' : Gateway World,
      { g' with life := g'.life.resetRetries, heartbeat := g'.heartbeat.resetProbes }.outline =
        { g'.outline with
          core := { g'.outline.core with life := g'.outline.core.life.resetRetries } } :=
    fun _ => rfl
  have hstage : { g with stage := .established }.outline =
      { g.outline with core := { g.outline.core with stage := .established } } := rfl
  unfold onSessionOpen
  simp only [outline_answer, outline_startTicker, outline_trigger, outline_replay, hreset, hstage]
  simp [Connection.Lifecycle.apply, Connection.next?, Connection.Lifecycle.resetRetries, hstate,
    Core.established, Core.answerMarks]

/-- Taking a session down leaves no mark. -/
theorem outline_closeSession (link : Link World) (g : Gateway World) :
    (g.closeSession link).outline =
      { g.outline with core := g.outline.core.ended g.outline.core.life.state } := by
  have hidle : ∀ g' : Gateway World, { g' with stage := .idle }.outline =
      { g'.outline with core := { g'.outline.core with stage := .idle } } := fun _ => rfl
  have hclose : g.closeSession link =
      { (((g.stopTasks).sayGoodbye link).closeWriter link).nextGeneration with
        stage := .idle } := rfl
  rw [hclose, hidle]
  simp [Core.ended, Connection.Lifecycle.nextGeneration]

/-- Closing a gateway that is not connected only makes a new session number. -/
theorem outline_disconnect_of_disconnected {g : Gateway World} (link : Link World)
    (hstate : g.outline.core.life.state = .disconnected) :
    (g.disconnect link).outline =
      { g.outline with
        core := { g.outline.core with life := g.outline.core.life.nextGeneration } } := by
  have hg : g.state = .disconnected := hstate
  simp [disconnect, hg]

/-- Closing a gateway that is connected, or is connecting, takes the session down and tells the
caller who waits for it. -/
theorem outline_disconnect_of_open {g : Gateway World} (link : Link World)
    (hstate : g.outline.core.life.state = .connecting ∨
      g.outline.core.life.state = .connected) :
    (g.disconnect link).outline =
      ⟨{ g.outline.core.ended .disconnected with caller := none },
        g.outline.marks ++ [.triggered .close (some .disconnecting)] ++
          g.outline.core.answerMarks (.error .closed) ++
          [.triggered .closed (some .disconnected)]⟩ := by
  have hg : g.state ≠ .disconnected := by
    intro h
    have hcore : g.outline.core.life.state = .disconnected := h
    rw [hcore] at hstate
    simp at hstate
  unfold disconnect
  rw [if_neg hg]
  simp only [outline_trigger, outline_closeSession, outline_answer]
  rcases hstate with hstate | hstate <;>
    simp [Connection.Lifecycle.apply, Connection.next?, hstate, Core.ended, Core.answerMarks]

/-- A refusal takes the session down and tells the caller who waits for it. -/
theorem outline_onRefused {g : Gateway World} (link : Link World) (time : Reading)
    (error : AuthError) (hstate : g.outline.core.life.state = .connecting) :
    (g.onRefused link time error).outline =
      ⟨{ g.outline.core.ended .disconnected with caller := none },
        g.outline.marks ++ [.triggered .authFailed (some .disconnecting),
          .triggered .closed (some .disconnected)] ++
          g.outline.core.answerMarks (.error (.auth error))⟩ := by
  unfold onRefused
  simp only [outline_answer, outline_expireAll, outline_trigger, outline_closeSession]
  simp [Connection.Lifecycle.apply, Connection.next?, hstate, Core.ended, Core.answerMarks]

/-! ## After a session without being asked to end it -/

/-- The core after a connection was not made. -/
def Core.failed (c : Core) : Core :=
  { c with
    life := { c.life with state := .disconnected }
    stage := .idle
    session := none }

/-- The core with one more attempt counted. -/
def Core.counted (c : Core) : Core :=
  { c with life := { c.life with attempts := c.life.attempts + 1 } }

/-- What becomes of a gateway whose session ended without being asked to: the marks that follow,
and the core after them. -/
inductive Aftermath (error : ConnectError) (c : Core) : List Effect → Core → Prop where
  /-- The caller who waits for the session is told. -/
  | told (caller : Nat) (hcaller : c.caller = some caller) :
      Aftermath error c [.answered caller (.error (.connect error))] { c with caller := none }
  /-- Another attempt is made at once. -/
  | again (hcaller : c.caller = none) (hdelay : c.life.policy.delay? c.life.attempts = some 0) :
      Aftermath error c c.counted.openingMarks c.counted.opening
  /-- Another attempt will be made after a delay. -/
  | later (delay : Nat) (hcaller : c.caller = none)
      (hdelay : c.life.policy.delay? c.life.attempts = some delay) :
      Aftermath error c [.retryAfter c.life.generation delay] c.counted
  /-- The policy gives up. -/
  | never (hcaller : c.caller = none) (hdelay : c.life.policy.delay? c.life.attempts = none) :
      Aftermath error c [] c

/-- Whatever becomes of the gateway, it keeps its settings and its writer. -/
theorem Aftermath.kept {error : ConnectError} {c core : Core} {marks : List Effect}
    (h : Aftermath error c marks core) : core.settings = c.settings ∧ core.writer = c.writer := by
  cases h <;> exact ⟨rfl, rfl⟩

/-- A gateway that is not connected either tells the caller who waits or decides on another
attempt. -/
theorem outline_answerOrRetry {g : Gateway World} (time : Reading) (error : ConnectError)
    (hstate : g.outline.core.life.state = .disconnected) :
    ∃ marks core, (g.answerOrRetry time error).outline = ⟨core, g.outline.marks ++ marks⟩ ∧
      Aftermath error g.outline.core marks core := by
  have hcaller : g.outline.core.caller = g.caller := rfl
  have hlife : g.outline.core.life = g.life := rfl
  unfold answerOrRetry
  split <;> rename_i heq
  · refine ⟨_, _, ?_, .told _ (hcaller.trans heq)⟩
    rw [outline_answer, hcaller, heq]
    rfl
  · rw [heq] at hcaller
    unfold retry Connection.Lifecycle.scheduleRetry
    cases hdelay : g.life.policy.delay? g.life.attempts with
    | none =>
        refine ⟨_, _, ?_, .never hcaller (by rw [hlife]; exact hdelay)⟩
        dsimp only
        rw [outline_expireAll, List.append_nil]
    | some delay =>
        dsimp only
        split <;> rename_i hzero
        · subst hzero
          refine ⟨_, _, ?_, .again hcaller (by rw [hlife]; exact hdelay)⟩
          rw [outline_openSession (by exact hstate)]
          rfl
        · refine ⟨_, _, ?_, .later delay hcaller (by rw [hlife]; exact hdelay)⟩
          rw [outline_record_of_isMark _ rfl]
          rfl

/-- A gateway whose connection was not made. -/
theorem outline_onConnectFailed {g : Gateway World} (time : Reading) (error : ConnectError)
    (hstate : g.outline.core.life.state = .connecting) :
    ∃ marks core, (g.onConnectFailed time error).outline =
        ⟨core, g.outline.marks ++ .triggered .connectFailed (some .disconnected) :: marks⟩ ∧
      Aftermath error g.outline.core.failed marks core := by
  have hfailed : ({ g with session := none, stage := .idle }.trigger .connectFailed).outline =
      ⟨g.outline.core.failed,
        g.outline.marks ++ [.triggered .connectFailed (some .disconnected)]⟩ := by
    have hidle : { g with session := none, stage := .idle }.outline =
        { g.outline with
          core := { g.outline.core with session := none, stage := .idle } } := rfl
    rw [outline_trigger, hidle]
    simp [Connection.Lifecycle.apply, Connection.next?, hstate, Core.failed]
  rcases outline_answerOrRetry time error (by rw [hfailed]; rfl) with
    ⟨marks, core, houtline, haftermath⟩
  rw [hfailed] at houtline haftermath
  refine ⟨marks, core, ?_, haftermath⟩
  rw [onConnectFailed, houtline, List.append_assoc, List.singleton_append]

/-- A gateway right after the connection of its session was lost. -/
theorem outline_lost {g : Gateway World} (link : Link World)
    (hstate : g.outline.core.life.state = .connecting ∨
      g.outline.core.life.state = .connected) :
    ({ ((g.stopTasks).closeWriter link).nextGeneration with
        stage := .idle }.trigger .unexpectedClose).outline =
      ⟨g.outline.core.ended .disconnected,
        g.outline.marks ++ [.triggered .unexpectedClose (some .disconnected)]⟩ := by
  have hidle : ∀ g' : Gateway World, { g' with stage := .idle }.outline =
      { g'.outline with core := { g'.outline.core with stage := .idle } } := fun _ => rfl
  rw [outline_trigger, hidle]
  rcases hstate with hstate | hstate <;>
    simp [Connection.Lifecycle.apply, Connection.next?, Connection.Lifecycle.nextGeneration,
      hstate, Core.ended]

/-- A gateway whose connection was lost. -/
theorem outline_onLost {g : Gateway World} (link : Link World) (time : Reading)
    (hstate : g.outline.core.life.state = .connecting ∨
      g.outline.core.life.state = .connected) :
    ∃ marks core, (g.onLost link time).outline =
        ⟨core, g.outline.marks ++ .triggered .unexpectedClose (some .disconnected) :: marks⟩ ∧
      Aftermath .closedDuringHandshake (g.outline.core.ended .disconnected) marks core := by
  have hopen : ¬ (g.state = .disconnected ∨ g.state = .disconnecting) := by
    have hcore : g.outline.core.life.state = g.state := rfl
    rw [hcore] at hstate
    rcases hstate with h | h <;> simp [h]
  have hlost := outline_lost link hstate
  rcases outline_answerOrRetry time .closedDuringHandshake (by rw [hlost]; rfl) with
    ⟨marks, core, houtline, haftermath⟩
  rw [hlost] at houtline haftermath
  refine ⟨marks, core, ?_, haftermath⟩
  unfold onLost
  rw [if_neg hopen]
  exact houtline.trans (by rw [List.append_assoc, List.singleton_append])

end TerminalGateway.Gateway
