import TerminalGateway.Proofs.System.Moves

/-!
# What sinks are told about the connection

Whatever happens to the connection is written down, and if its state changes every sink is told
of the new state at once.  This module says what each operation of a gateway does to the state and
to these effects.  Most operations do nothing to either; the others are a sequence of triggers, and
nothing but a trigger tells a sink about the state.

Main definitions:

- `Effect.isTiding`, `Tidings`, `tidings`: the state, who is subscribed, and what is told.
- `Tidings.trigger`: what becomes of the tidings when something happens to the connection.
- `Tells`: tidings that differ by triggers.

Main results:

- Theorem `tidings_trigger`: a trigger of the gateway is a trigger of its tidings.
- Theorem `tells_handle`: all that an item does to the tidings is done by triggers.
-/

namespace TerminalGateway.Gateway

variable {World : Type}

/-- Something happened to the connection, or a sink is told about its state. -/
def Effect.isTiding : Effect → Bool
  | .triggered _ _ => true
  | .called _ (.state _) => true
  | _ => false

/-- The state of the connection, and what is told about it. -/
structure Tidings where
  state : Connection.State
  subscriptions : Subscriptions
  /-- The tidings in the journal. -/
  effects : List Effect

/-- The tidings of a gateway. -/
def tidings (g : Gateway World) : Tidings where
  state := g.state
  subscriptions := g.subscriptions
  effects := g.journal.filter Effect.isTiding

/-- Every sink is told of a state. -/
def proclaim (subscriptions : Subscriptions) (state : Connection.State) : List Effect :=
  (subscriptions.broadcast (.state state)).called.map fun sink => .called sink (.state state)

namespace Tidings

/-- Something happens to the connection.  Sinks are told of a state that differs from the one
before. -/
def trigger (t : Tidings) (trigger : Connection.Trigger) : Tidings :=
  match Connection.next? t.state trigger with
  | none => { t with effects := t.effects ++ [.triggered trigger none] }
  | some after =>
      { t with
        state := after
        effects := t.effects ++ .triggered trigger (some after) ::
          if after = t.state then [] else proclaim t.subscriptions after }

end Tidings

/-- The second tidings are the first after some triggers. -/
def Tells (t after : Tidings) : Prop :=
  ∃ triggers : List Connection.Trigger, after = triggers.foldl Tidings.trigger t

section

variable {t middle after : Tidings}

theorem Tells.refl (t : Tidings) : Tells t t :=
  ⟨[], rfl⟩

theorem Tells.trans (hfirst : Tells t middle) (hsecond : Tells middle after) : Tells t after := by
  rcases hfirst with ⟨early, rfl⟩
  rcases hsecond with ⟨late, rfl⟩
  exact ⟨early ++ late, List.foldl_append.symm⟩

/-- Triggers leave who is subscribed. -/
theorem Tells.subscriptions (h : Tells t after) : after.subscriptions = t.subscriptions := by
  rcases h with ⟨triggers, rfl⟩
  induction triggers generalizing t with
  | nil => rfl
  | cons trigger rest ih =>
      have hfirst : (t.trigger trigger).subscriptions = t.subscriptions := by
        unfold Tidings.trigger
        split <;> rfl
      exact ih.trans hfirst

theorem tells_trigger (t : Tidings) (trigger : Connection.Trigger) : Tells t (t.trigger trigger) :=
  ⟨[trigger], rfl⟩

end

/-! ## Single effects and events -/

theorem tidings_record (g : Gateway World) {effect : Effect} (h : effect.isTiding = false) :
    (g.record effect).tidings = g.tidings := by
  simp [tidings, record, state, h]

theorem tidings_publish (g : Gateway World) {event : Event} (h : event.capability ≠ .state) :
    (g.publish event).tidings = g.tidings := by
  have hnone : ((g.subscriptions.publish event).called.map
      fun sink => Effect.called sink event).filter Effect.isTiding = [] := by
    refine List.filter_eq_nil_iff.mpr fun effect heffect => ?_
    rcases List.mem_map.mp heffect with ⟨sink, -, rfl⟩
    cases event <;> simp [Effect.isTiding, Event.capability] at h ⊢
  simp only [tidings, publish, state, List.filter_append, hnone, List.append_nil]

theorem tidings_publish_reply (g : Gateway World) (notice : Transaction.Notice) :
    (g.publish (.reply notice)).tidings = g.tidings :=
  tidings_publish g (by simp [Event.capability])

theorem tidings_publishAll (g : Gateway World) {events : List Event}
    (h : ∀ event ∈ events, event.capability ≠ .state) :
    (g.publishAll events).tidings = g.tidings := by
  induction events generalizing g with
  | nil => rfl
  | cons event rest ih =>
      have hrest := ih (g.publish event) fun later hlater => h later (List.mem_cons_of_mem _ hlater)
      exact hrest.trans (tidings_publish g (h event List.mem_cons_self))

/-- Sinks are told of a new state. -/
theorem tidings_publish_state (g : Gateway World) (state : Connection.State) :
    (g.publish (.state state)).tidings =
      { g.tidings with effects := g.tidings.effects ++ proclaim g.subscriptions state } := by
  have hall : (proclaim g.subscriptions state).filter Effect.isTiding =
      proclaim g.subscriptions state := by
    refine List.filter_eq_self.mpr fun effect heffect => ?_
    rcases List.mem_map.mp heffect with ⟨sink, -, rfl⟩
    rfl
  have heffects : (g.journal ++ proclaim g.subscriptions state).filter Effect.isTiding =
      g.journal.filter Effect.isTiding ++ proclaim g.subscriptions state := by
    rw [List.filter_append, hall]
  exact congrArg (Tidings.mk g.state g.subscriptions) heffects

/-- A trigger of the gateway is a trigger of its tidings. -/
@[simp] theorem tidings_trigger (g : Gateway World) (trigger : Connection.Trigger) :
    (g.trigger trigger).tidings = g.tidings.trigger trigger := by
  have hstate : g.tidings.state = g.life.state := rfl
  unfold Gateway.trigger Connection.Lifecycle.apply Tidings.trigger
  rw [hstate]
  cases Connection.next? g.life.state trigger with
  | none => simp [tidings, record, state, Effect.isTiding]
  | some after =>
      by_cases hsame : after = g.life.state
      · simp [hsame, tidings, record, state, Effect.isTiding]
      · have hrecord : [Effect.triggered trigger (some after)].filter Effect.isTiding =
            [.triggered trigger (some after)] := rfl
        simp only [if_neg hsame]
        rw [tidings_publish_state]
        simp [tidings, record, state, hrecord]

/-! ## Operations without triggers -/

theorem tidings_of_writes {g next : Gateway World} (h : Writes g next) :
    next.tidings = g.tidings := by
  rcases h with ⟨world, effects, rfl, hwriting⟩
  have hnone : effects.filter Effect.isTiding = [] := by
    refine List.filter_eq_nil_iff.mpr fun effect heffect => ?_
    have hwritten := hwriting effect heffect
    cases effect <;> simp [Effect.isWriting, Effect.isTiding] at hwritten ⊢
  simp [tidings, state, hnone]

@[simp] theorem tidings_answer (g : Gateway World) (result : Except GatewayError Unit) :
    (g.answer result).tidings = g.tidings := by
  unfold answer
  split
  · exact tidings_record _ rfl
  · rfl

@[simp] theorem tidings_expire (g : Gateway World) (time : Reading) (bound : Nat) :
    (g.expire time bound).tidings = g.tidings := by
  unfold expire
  rcases g.pending.expire time.now bound with ⟨ended, pending⟩
  dsimp only
  rw [tidings_publishAll _ (by simp [Event.capability])]
  simp [tidings, state, Effect.isTiding]

@[simp] theorem tidings_expireAll (g : Gateway World) (time : Reading) :
    (g.expireAll time).tidings = g.tidings :=
  tidings_expire g time 0

@[simp] theorem tidings_stopTasks (g : Gateway World) : g.stopTasks.tidings = g.tidings := by
  have hticker : g.stopTicker.tidings = g.tidings := by
    unfold stopTicker
    split
    · exact tidings_record _ rfl
    · rfl
  unfold stopTasks
  dsimp only
  split
  · exact (tidings_record _ rfl).trans hticker
  · exact hticker

@[simp] theorem tidings_onReply (g : Gateway World) (reply : Message.Reply) :
    (g.onReply reply).tidings = g.tidings := by
  unfold onReply
  rcases g.pending.resolve reply with ⟨decision, pending⟩
  cases decision with
  | nothing => rfl
  | completed ended => exact (tidings_publish_reply _ _).trans (tidings_record _ rfl)
  | unrecognized id => exact tidings_publish_reply _ _

theorem ne_state_of_ofMarket {kind : Message.MarketKind} {payload : Json.Value}
    {receivedAt : Calendar.Moment} {events : List Event}
    (h : Event.ofMarket kind payload receivedAt = .ok events) :
    ∀ event ∈ events, event.capability ≠ .state := by
  cases kind <;> exact forall_of_map (by simp [Event.capability]) h

theorem ne_state_of_ofAccount {kind : Message.AccountKind} {payload : Json.Value}
    {events : List Event} (h : Event.ofAccount kind payload = .ok events) :
    ∀ event ∈ events, event.capability ≠ .state := by
  cases kind with
  | orders => exact forall_of_map (by simp [Event.capability]) h
  | trades => exact forall_of_map (by simp [Event.capability]) h
  | _ => exact Except.ok.inj h ▸ by simp [Event.capability]

@[simp] theorem tidings_onPong (g : Gateway World) (time : Reading) :
    (g.onPong time).tidings = g.tidings := by
  unfold onPong
  rcases g.heartbeat.onPong time.wall with ⟨beat, heartbeat⟩
  dsimp only
  split
  · exact tidings_publish _ (by simp [Event.capability])
  · rfl

@[simp] theorem tidings_probe (link : Link World) (g : Gateway World) :
    (g.probe link).tidings = g.tidings := by
  have hping := tidings_of_writes (writes_ping link g)
  unfold probe
  split <;> rename_i next heq <;> rw [heq] at hping
  · exact hping
  · exact (tidings_record _ rfl).trans hping
  · exact hping

/-! ## The beginning and the end of a session -/

@[simp] theorem tidings_openSession (g : Gateway World) :
    g.openSession.tidings = g.tidings.trigger .connect :=
  (tidings_record _ rfl).trans (tidings_trigger g .connect)

@[simp] theorem tidings_onSessionOpen (link : Link World) (g : Gateway World) :
    (g.onSessionOpen link).tidings =
      (g.tidings.trigger .sessionOpened).trigger .replayDone := by
  have hreset : ∀ g' : Gateway World,
      { g' with life := g'.life.resetRetries, heartbeat := g'.heartbeat.resetProbes }.tidings =
        g'.tidings := fun _ => rfl
  have hticker : ∀ g' : Gateway World, g'.startTicker.tidings = g'.tidings :=
    fun _ => tidings_record _ rfl
  have hreplay : ∀ g' : Gateway World, (g'.replay link).tidings = g'.tidings :=
    fun g' => tidings_of_writes (writes_replay link g')
  unfold onSessionOpen
  simp only [tidings_answer, hticker, tidings_trigger, hreplay, hreset]
  rfl

@[simp] theorem tidings_closeSession (link : Link World) (g : Gateway World) :
    (g.closeSession link).tidings = g.tidings := by
  have hclose : (g.closeSession link).tidings =
      ((g.stopTasks.sayGoodbye link).closeWriter link).tidings := rfl
  have hwriter := tidings_of_writes (writes_closeWriter link (g.stopTasks.sayGoodbye link))
  have hgoodbye := tidings_of_writes (writes_sayGoodbye link g.stopTasks)
  rw [hclose, hwriter]
  exact hgoodbye.trans (tidings_stopTasks g)

theorem tells_disconnect (link : Link World) (g : Gateway World) :
    Tells g.tidings (g.disconnect link).tidings := by
  unfold disconnect
  split
  · exact .refl _
  · rw [tidings_trigger, tidings_closeSession, tidings_answer, tidings_trigger]
    exact (tells_trigger _ _).trans (tells_trigger _ _)

theorem tells_onRefused (link : Link World) (g : Gateway World) (time : Reading)
    (error : AuthError) : Tells g.tidings (g.onRefused link time error).tidings := by
  unfold onRefused
  simp only [tidings_answer, tidings_expireAll, tidings_trigger, tidings_closeSession]
  exact (tells_trigger _ _).trans (tells_trigger _ _)

theorem tells_answerOrRetry (g : Gateway World) (time : Reading) (error : ConnectError) :
    Tells g.tidings (g.answerOrRetry time error).tidings := by
  unfold answerOrRetry
  split
  · rw [tidings_answer]
    exact .refl _
  · unfold retry Connection.Lifecycle.scheduleRetry
    cases g.life.policy.delay? g.life.attempts with
    | none =>
        dsimp only
        rw [tidings_expireAll]
        exact .refl _
    | some delay =>
        dsimp only
        split
        · rw [tidings_openSession]
          exact tells_trigger _ _
        · rw [tidings_record _ rfl]
          exact .refl _

theorem tells_onConnectFailed (g : Gateway World) (time : Reading) (error : ConnectError) :
    Tells g.tidings (g.onConnectFailed time error).tidings := by
  have hfailed : ({ g with session := none, stage := .idle }.trigger .connectFailed).tidings =
      g.tidings.trigger .connectFailed := tidings_trigger _ _
  exact (hfailed ▸ tells_trigger _ _).trans (tells_answerOrRetry _ time error)

theorem tells_onLost (link : Link World) (g : Gateway World) (time : Reading) :
    Tells g.tidings (g.onLost link time).tidings := by
  unfold onLost
  split
  · exact .refl _
  · have hwriter : (g.stopTasks.closeWriter link).tidings = g.tidings :=
      (tidings_of_writes (writes_closeWriter link g.stopTasks)).trans (tidings_stopTasks g)
    have hlost : ({ (g.stopTasks.closeWriter link).nextGeneration with
        stage := .idle }.trigger .unexpectedClose).tidings =
          g.tidings.trigger .unexpectedClose :=
      (tidings_trigger _ _).trans (congrArg (·.trigger .unexpectedClose) hwriter)
    exact (hlost ▸ tells_trigger _ _).trans (tells_answerOrRetry _ time _)

/-! ## Items -/

theorem tells_onMessage (link : Link World) (g : Gateway World) (time : Reading)
    (message : Message) : Tells g.tidings (g.onMessage link time message).tidings := by
  cases hkind : message.kind with
  | lifecycle kind =>
      rw [onMessage_of_lifecycle link g time hkind]
      cases g.outline.core.verdictOn? message with
      | none => exact .refl _
      | some verdict =>
          cases verdict with
          | proceed => exact .refl _
          | enter =>
              have henter := tidings_onSessionOpen link g
              exact henter ▸ (tells_trigger _ _).trans (tells_trigger _ _)
          | refuse error => exact tells_onRefused link g time error
  | market kind =>
      simp only [onMessage, hkind]
      cases hread : Event.ofMarket kind message.payload time.wall with
      | ok events => exact ⟨[], tidings_publishAll g (ne_state_of_ofMarket hread)⟩
      | error _ => exact .refl _
  | account kind =>
      simp only [onMessage, hkind]
      cases hread : Event.ofAccount kind message.payload with
      | ok events => exact ⟨[], tidings_publishAll g (ne_state_of_ofAccount hread)⟩
      | error _ => exact .refl _
  | reply reply =>
      simp only [onMessage, hkind]
      exact ⟨[], tidings_onReply g reply⟩
  | unhandled =>
      simp only [onMessage, hkind]
      exact .refl _

theorem tells_onTransport (link : Link World) (g : Gateway World) (time : Reading)
    (event : Transport.Event) : Tells g.tidings (g.onTransport link time event).tidings := by
  cases event with
  | opened =>
      have hopened := tidings_of_writes (writes_sendAll link { g with stage := .auth }
        (Command.handshake g.settings.dialect g.settings.credentials.login
          g.settings.credentials.password g.settings.clientVersion))
      exact ⟨[], hopened⟩
  | frame bytes =>
      cases hdecode : Message.decode g.settings.encoding bytes with
      | ok message =>
          rw [onTransport, onFrame_of_decode link time hdecode]
          exact tells_onMessage link g.countFrame time message
      | error _ =>
          simp only [onTransport, onFrame, hdecode]
          exact .refl _
  | error text => exact .refl _
  | closed reason => exact tells_onLost link g time
  | pong => exact ⟨[], tidings_onPong g time⟩

/-- All that an item does to the tidings is done by triggers; who is subscribed may change too. -/
theorem tells_handle (link : Link World) (g : Gateway World) (time : Reading) (item : Item) :
    Tells g.tidings
      { (g.handle link time item).tidings with subscriptions := g.subscriptions } := by
  -- Only items about subscriptions change who is subscribed.
  have hkept : Tells g.tidings (g.handle link time item).tidings →
      Tells g.tidings
        { (g.handle link time item).tidings with subscriptions := g.subscriptions } := by
    intro h
    have hsame : (g.handle link time item).tidings.subscriptions = g.subscriptions :=
      h.subscriptions
    rw [← hsame]
    exact h
  have hsilent : (g.handle link time item).tidings = g.tidings →
      Tells g.tidings
        { (g.handle link time item).tidings with subscriptions := g.subscriptions } :=
    fun h => ⟨[], by rw [h]; rfl⟩
  cases item with
  | connect caller =>
      refine hkept ?_
      simp only [handle, onConnect]
      split
      · rw [tidings_openSession]
        exact tells_trigger _ _
      · exact ⟨[], tidings_record g rfl⟩
  | close caller =>
      have hclose : (g.handle link time (.close caller)).tidings = (g.disconnect link).tidings :=
        (tidings_record _ rfl).trans (tidings_expireAll _ time)
      exact hkept (hclose ▸ tells_disconnect link g)
  | subscribe asset sink declared =>
      have hsubscribe : (g.handle link time (.subscribe asset sink declared)).tidings =
          { g.tidings with
            subscriptions := (g.subscriptions.subscribe asset sink declared).2 } := by
        simp only [handle, onSubscribe]
        split
        · exact tidings_of_writes (writes_requestFeed link _ asset)
        · rfl
      rw [hsubscribe]
      exact .refl _
  | unsubscribe asset sink => exact .refl _
  | shutdown =>
      have hshutdown : (g.handle link time .shutdown).tidings =
          ((g.shut link time).answer (.error .stopped)).tidings := rfl
      have hshut : (g.shut link time).tidings = (g.disconnect link).tidings :=
        tidings_expireAll _ time
      rw [tidings_answer, hshut] at hshutdown
      exact hkept (hshutdown ▸ tells_disconnect link g)
  | sessionReady generation writer =>
      refine hsilent ?_
      simp only [handle, onSessionReady]
      split
      · exact (tidings_of_writes (writes_installWriter link g writer)).trans rfl
      · exact tidings_of_writes (writes_closeLine link g writer)
  | connectFailed generation error =>
      refine hkept ?_
      simp only [handle]
      split
      · exact tells_onConnectFailed g time error
      · exact .refl _
  | transport generation event =>
      refine hkept ?_
      simp only [handle]
      split
      · exact tells_onTransport link g time event
      · exact .refl _
  | heartbeatTick generation =>
      refine hkept ?_
      simp only [handle, onTick]
      split
      · split
        · exact tells_onLost link g time
        · rw [tidings_probe]
          exact .refl _
      · exact .refl _
  | expirySweep => exact hsilent (tidings_expire g time _)
  | reconnect generation =>
      refine hkept ?_
      simp only [handle, onReconnect]
      split
      · rw [tidings_openSession]
        exact tells_trigger _ _
      · exact .refl _

end TerminalGateway.Gateway
