import TerminalGateway.Proofs.System.Speech
import TerminalGateway.Proofs.System.Tidings

/-!
# Signs of life

What a gateway counts of probes and answers, and what it does and tells about them: it sends
probes, it tells sinks of answers, and it forgets the probes of an earlier session when another one
is open.  This module says what each operation does to these.  Most do nothing.

Main definitions:

- `Effect.isVital`, `Vitals`, `vitals`: the counts, and the effects that go with them.

Main results:

- Theorem `vitals_onSessionOpen`, `vitals_onPong`, `vitals_probe`: the operations that do something.
- Theorem `vitals_onFrame`: a frame does something only by the entry into a session.
- Theorem `vitals_handle`: an item does something only by one of these.
-/

namespace TerminalGateway.Gateway

variable {World : Type}

/-- A probe, an event about an answer, or the opening of a session. -/
def Effect.isVital : Effect → Bool
  | .probed _ _ => true
  | .called _ (.heartbeat _) => true
  | .triggered .sessionOpened _ => true
  | _ => false

/-- What a gateway counts of probes and answers, and what it does and tells about them. -/
@[ext]
structure Vitals where
  heartbeat : Connection.Heartbeat
  /-- The probes, the events about answers and the openings of sessions in the journal. -/
  effects : List Effect

/-- The vitals of a gateway. -/
def vitals (g : Gateway World) : Vitals where
  heartbeat := g.heartbeat
  effects := g.journal.filter Effect.isVital

/-- Sinks are told of an answer. -/
def tellBeat (subscriptions : Subscriptions) (beat : Connection.Beat) : List Effect :=
  (subscriptions.broadcast (.heartbeat beat)).called.map fun sink => .called sink (.heartbeat beat)

/-! ## Single effects and events -/

theorem vitals_record (g : Gateway World) {effect : Effect} (h : effect.isVital = false) :
    (g.record effect).vitals = g.vitals := by
  simp [vitals, record, h]

theorem vitals_record_of_isVital (g : Gateway World) {effect : Effect}
    (h : effect.isVital = true) :
    (g.record effect).vitals = { g.vitals with effects := g.vitals.effects ++ [effect] } := by
  simp [vitals, record, h]

theorem vitals_publish (g : Gateway World) {event : Event} (h : event.capability ≠ .heartbeat) :
    (g.publish event).vitals = g.vitals := by
  have hnone : ((g.subscriptions.publish event).called.map
      fun sink => Effect.called sink event).filter Effect.isVital = [] := by
    refine List.filter_eq_nil_iff.mpr fun effect heffect => ?_
    rcases List.mem_map.mp heffect with ⟨sink, -, rfl⟩
    cases event <;> simp [Effect.isVital, Event.capability] at h ⊢
  simp only [vitals, publish, List.filter_append, hnone, List.append_nil]

theorem vitals_publishAll (g : Gateway World) {events : List Event}
    (h : ∀ event ∈ events, event.capability ≠ .heartbeat) :
    (g.publishAll events).vitals = g.vitals := by
  induction events generalizing g with
  | nil => rfl
  | cons event rest ih =>
      have hrest := ih (g.publish event) fun later hlater => h later (List.mem_cons_of_mem _ hlater)
      exact hrest.trans (vitals_publish g (h event List.mem_cons_self))

/-- Sinks are told of an answer. -/
theorem vitals_publish_heartbeat (g : Gateway World) (beat : Connection.Beat) :
    (g.publish (.heartbeat beat)).vitals =
      { g.vitals with effects := g.vitals.effects ++ tellBeat g.subscriptions beat } := by
  have hall : (tellBeat g.subscriptions beat).filter Effect.isVital =
      tellBeat g.subscriptions beat := by
    refine List.filter_eq_self.mpr fun effect heffect => ?_
    rcases List.mem_map.mp heffect with ⟨sink, -, rfl⟩
    rfl
  have heffects : (g.journal ++ tellBeat g.subscriptions beat).filter Effect.isVital =
      g.journal.filter Effect.isVital ++ tellBeat g.subscriptions beat := by
    rw [List.filter_append, hall]
  exact congrArg (Vitals.mk g.heartbeat) heffects

/-- Only the opening of a session is a vital trigger. -/
theorem vitals_trigger (g : Gateway World) {trigger : Connection.Trigger}
    (h : trigger ≠ .sessionOpened) : (g.trigger trigger).vitals = g.vitals := by
  have hvital : ∀ state, (Effect.triggered trigger state).isVital = false := by
    intro state
    cases trigger <;> first | rfl | exact absurd rfl h
  unfold Gateway.trigger
  rcases g.life.apply trigger with ⟨after, life⟩
  dsimp only
  split
  · exact vitals_record _ (hvital after)
  · exact (vitals_publish _ (by simp [Event.capability])).trans (vitals_record _ (hvital after))

theorem vitals_trigger_sessionOpened (g : Gateway World) :
    (g.trigger .sessionOpened).vitals =
      { g.vitals with
        effects := g.vitals.effects ++
          [.triggered .sessionOpened (g.life.apply .sessionOpened).1] } := by
  unfold Gateway.trigger
  rcases g.life.apply .sessionOpened with ⟨after, life⟩
  dsimp only
  split
  · exact vitals_record_of_isVital _ rfl
  · exact (vitals_publish _ (by simp [Event.capability])).trans (vitals_record_of_isVital _ rfl)

@[simp] theorem vitals_answer (g : Gateway World) (result : Except GatewayError Unit) :
    (g.answer result).vitals = g.vitals := by
  unfold answer
  split
  · exact vitals_record _ rfl
  · rfl

/-! ## Writing -/

theorem vitals_of_sends {g next : Gateway World} {texts : List String} (h : Sends texts g next) :
    next.vitals = g.vitals := by
  rcases h with ⟨world, effects, rfl, htexts, -⟩
  have hnone : effects.filter Effect.isVital = [] := by
    refine List.filter_eq_nil_iff.mpr fun effect heffect => ?_
    have htext := htexts effect heffect
    cases effect <;> simp [Effect.isText, Effect.isVital] at htext ⊢
  simp [vitals, hnone]

@[simp] theorem vitals_send (link : Link World) (g : Gateway World) (text : String) :
    (g.send link text).2.vitals = g.vitals := by
  unfold send
  split
  · rfl
  · exact vitals_record _ rfl

@[simp] theorem vitals_sendRaw (link : Link World) (g : Gateway World) (text : String) :
    (g.sendRaw link text).2.vitals = g.vitals := by
  unfold sendRaw
  split
  · exact vitals_send link g text
  · rfl

/-- A submission only writes texts. -/
@[simp] theorem vitals_submissionStep (link : Link World) (time : Reading) (g : Gateway World)
    (submission : Submission) : (submission.step link time g).2.vitals = g.vitals := by
  cases submission with
  | waiting issuer intent =>
      simp only [Submission.step]
      split <;> rfl
  | admitted issuer intent =>
      simp only [Submission.step]
      split <;> rfl
  | writing transactionId frames =>
      cases frames with
      | nil => rfl
      | cons frame frames =>
          have hsend := vitals_send link g frame
          simp only [Submission.step]
          split <;> rename_i heq <;> rw [heq] at hsend <;> exact hsend
  | _ => rfl

@[simp] theorem vitals_closeLine (link : Link World) (g : Gateway World) (writer : Nat) :
    (g.closeLine link writer).vitals = g.vitals :=
  vitals_record _ rfl

@[simp] theorem vitals_closeWriter (link : Link World) (g : Gateway World) :
    (g.closeWriter link).vitals = g.vitals := by
  unfold closeWriter
  split
  · rfl
  · exact vitals_closeLine link _ _

@[simp] theorem vitals_installWriter (link : Link World) (g : Gateway World) (writer : Nat) :
    (g.installWriter link writer).vitals = g.vitals := by
  unfold installWriter
  split
  · rfl
  · exact vitals_closeLine link _ _

/-! ## Transactions and tasks -/

@[simp] theorem vitals_expire (g : Gateway World) (time : Reading) (bound : Nat) :
    (g.expire time bound).vitals = g.vitals := by
  unfold expire
  rcases g.pending.expire time.now bound with ⟨ended, pending⟩
  dsimp only
  rw [vitals_publishAll _ (by simp [Event.capability])]
  simp [vitals, Effect.isVital]

@[simp] theorem vitals_expireAll (g : Gateway World) (time : Reading) :
    (g.expireAll time).vitals = g.vitals :=
  vitals_expire g time 0

@[simp] theorem vitals_onReply (g : Gateway World) (reply : Message.Reply) :
    (g.onReply reply).vitals = g.vitals := by
  have hpublish : ∀ (g' : Gateway World) (notice : Transaction.Notice),
      (g'.publish (.reply notice)).vitals = g'.vitals :=
    fun g' _ => vitals_publish g' (by simp [Event.capability])
  unfold onReply
  rcases g.pending.resolve reply with ⟨decision, pending⟩
  cases decision with
  | nothing => rfl
  | completed ended => exact (hpublish _ _).trans (vitals_record _ rfl)
  | unrecognized id => exact hpublish _ _

@[simp] theorem vitals_stopTicker (g : Gateway World) : g.stopTicker.vitals = g.vitals := by
  unfold stopTicker
  split
  · exact vitals_record _ rfl
  · rfl

@[simp] theorem vitals_stopTasks (g : Gateway World) : g.stopTasks.vitals = g.vitals := by
  unfold stopTasks
  dsimp only
  split
  · exact (vitals_record _ rfl).trans (vitals_stopTicker g)
  · exact vitals_stopTicker g

@[simp] theorem vitals_startTicker (g : Gateway World) : g.startTicker.vitals = g.vitals :=
  vitals_record _ rfl

/-! ## The beginning and the end of a session -/

@[simp] theorem vitals_openSession (g : Gateway World) : g.openSession.vitals = g.vitals :=
  (vitals_record _ rfl).trans (vitals_trigger g (by simp))

/-- When a session is open, the probes of an earlier one are forgotten. -/
theorem vitals_onSessionOpen (link : Link World) (g : Gateway World) :
    (g.onSessionOpen link).vitals =
      ⟨g.heartbeat.resetProbes,
        g.vitals.effects ++ [.triggered .sessionOpened (g.life.apply .sessionOpened).1]⟩ := by
  have hopened : ({ g with stage := .established }.trigger .sessionOpened).vitals =
      { g.vitals with
        effects := g.vitals.effects ++
          [.triggered .sessionOpened (g.life.apply .sessionOpened).1] } :=
    vitals_trigger_sessionOpened _
  have hreset : ∀ g' : Gateway World,
      { g' with life := g'.life.resetRetries, heartbeat := g'.heartbeat.resetProbes }.vitals =
        { g'.vitals with heartbeat := g'.vitals.heartbeat.resetProbes } := fun _ => rfl
  have hreplay : ∀ g' : Gateway World, (g'.replay link).vitals = g'.vitals :=
    fun g' => vitals_of_sends (sends_replay link g')
  have hdone : ∀ g' : Gateway World, (g'.trigger .replayDone).vitals = g'.vitals :=
    fun g' => vitals_trigger g' (by simp)
  unfold onSessionOpen
  rw [vitals_answer, vitals_startTicker, hdone, hreplay, hreset, hopened]
  rfl

@[simp] theorem vitals_closeSession (link : Link World) (g : Gateway World) :
    (g.closeSession link).vitals = g.vitals := by
  have hclose : (g.closeSession link).vitals =
      ((g.stopTasks.sayGoodbye link).closeWriter link).vitals := rfl
  rw [hclose, vitals_closeWriter, vitals_of_sends (sends_sayGoodbye link _), vitals_stopTasks]

@[simp] theorem vitals_disconnect (link : Link World) (g : Gateway World) :
    (g.disconnect link).vitals = g.vitals := by
  unfold disconnect
  split
  · rfl
  · rw [vitals_trigger _ (by simp), vitals_closeSession, vitals_answer, vitals_trigger _ (by simp)]

@[simp] theorem vitals_onRefused (link : Link World) (g : Gateway World) (time : Reading)
    (error : AuthError) : (g.onRefused link time error).vitals = g.vitals := by
  unfold onRefused
  dsimp only
  rw [vitals_answer, vitals_expireAll, vitals_trigger _ (by simp), vitals_closeSession,
    vitals_trigger _ (by simp)]

@[simp] theorem vitals_answerOrRetry (g : Gateway World) (time : Reading) (error : ConnectError) :
    (g.answerOrRetry time error).vitals = g.vitals := by
  unfold answerOrRetry
  split
  · exact vitals_answer g _
  · unfold retry
    split
    · exact vitals_expireAll _ time
    · dsimp only
      split
      · exact vitals_openSession _
      · exact vitals_record _ rfl

@[simp] theorem vitals_onConnectFailed (g : Gateway World) (time : Reading)
    (error : ConnectError) : (g.onConnectFailed time error).vitals = g.vitals :=
  (vitals_answerOrRetry _ time error).trans (vitals_trigger _ (by simp))

@[simp] theorem vitals_onLost (link : Link World) (g : Gateway World) (time : Reading) :
    (g.onLost link time).vitals = g.vitals := by
  have hstage : ∀ g' : Gateway World,
      { g'.nextGeneration with stage := .idle }.vitals = g'.vitals := fun _ => rfl
  unfold onLost
  split
  · rfl
  · dsimp only
    rw [vitals_answerOrRetry, vitals_trigger _ (by simp), hstage, vitals_closeWriter,
      vitals_stopTasks]

/-! ## Frames -/

theorem ne_heartbeat_of_ofMarket {kind : Message.MarketKind} {payload : Json.Value}
    {receivedAt : Calendar.Moment} {events : List Event}
    (h : Event.ofMarket kind payload receivedAt = .ok events) :
    ∀ event ∈ events, event.capability ≠ .heartbeat := by
  cases kind <;> exact forall_of_map (by simp [Event.capability]) h

theorem ne_heartbeat_of_ofAccount {kind : Message.AccountKind} {payload : Json.Value}
    {events : List Event} (h : Event.ofAccount kind payload = .ok events) :
    ∀ event ∈ events, event.capability ≠ .heartbeat := by
  cases kind with
  | orders => exact forall_of_map (by simp [Event.capability]) h
  | trades => exact forall_of_map (by simp [Event.capability]) h
  | _ => exact Except.ok.inj h ▸ by simp [Event.capability]

/-- The vitals after a verdict on the login, if there is one. -/
def vitalsAfter (g : Gateway World) : Option Verdict → Vitals
  | some .enter =>
      ⟨g.heartbeat.resetProbes,
        g.vitals.effects ++ [.triggered .sessionOpened (g.life.apply .sessionOpened).1]⟩
  | _ => g.vitals

theorem vitals_onMessage (link : Link World) (g : Gateway World) (time : Reading)
    (message : Message) :
    (g.onMessage link time message).vitals =
      g.vitalsAfter (g.outline.core.verdictOn? message) := by
  have hother : (∀ kind, message.kind ≠ .lifecycle kind) →
      g.vitalsAfter (g.outline.core.verdictOn? message) = g.vitals := by
    intro hkind
    rw [g.outline.core.verdictOn?_eq_none hkind]
    rfl
  cases hkind : message.kind with
  | lifecycle kind =>
      rw [onMessage_of_lifecycle link g time hkind]
      cases g.outline.core.verdictOn? message with
      | none => rfl
      | some verdict =>
          cases verdict with
          | proceed => rfl
          | enter => exact vitals_onSessionOpen link g
          | refuse error => exact vitals_onRefused link g time error
  | market kind =>
      rw [hother (by simp [hkind])]
      simp only [onMessage, hkind]
      cases hread : Event.ofMarket kind message.payload time.wall with
      | ok events => exact vitals_publishAll g (ne_heartbeat_of_ofMarket hread)
      | error _ => rfl
  | account kind =>
      rw [hother (by simp [hkind])]
      simp only [onMessage, hkind]
      cases hread : Event.ofAccount kind message.payload with
      | ok events => exact vitals_publishAll g (ne_heartbeat_of_ofAccount hread)
      | error _ => rfl
  | reply reply =>
      rw [hother (by simp [hkind])]
      simp only [onMessage, hkind]
      exact vitals_onReply g reply
  | unhandled =>
      rw [hother (by simp [hkind])]
      simp only [onMessage, hkind]
      rfl

/-- A frame does something only by the entry into a session. -/
theorem vitals_onFrame (link : Link World) (g : Gateway World) (time : Reading)
    (bytes : List UInt8) :
    (g.onFrame link time bytes).vitals = g.vitalsAfter (g.outline.core.verdict? bytes) := by
  cases hdecode : Message.decode g.settings.encoding bytes with
  | ok message =>
      have hread : Message.decode g.outline.core.settings.encoding bytes = .ok message := hdecode
      rw [Core.verdict?, hread, onFrame_of_decode link time hdecode]
      exact vitals_onMessage link g.countFrame time message
  | error error =>
      have hread : Message.decode g.outline.core.settings.encoding bytes = .error error := hdecode
      rw [Core.verdict?, hread]
      simp only [onFrame, hdecode]
      rfl

/-! ## Probes and answers -/

/-- An answer is counted, and sinks hear of it while the gateway is connected. -/
theorem vitals_onPong (g : Gateway World) (time : Reading) :
    (g.onPong time).vitals =
      ⟨(g.heartbeat.onPong time.wall).2,
        g.vitals.effects ++
          if g.state = .connected then
            tellBeat g.subscriptions ⟨g.heartbeat.count + 1, time.wall⟩
          else []⟩ := by
  have hcounted : g.onPong time =
      if g.state = .connected then
        { g with heartbeat := (g.heartbeat.onPong time.wall).2 }.publish
          (.heartbeat ⟨g.heartbeat.count + 1, time.wall⟩)
      else { g with heartbeat := (g.heartbeat.onPong time.wall).2 } := rfl
  rw [hcounted]
  by_cases hstate : g.state = .connected
  · rw [if_pos hstate, if_pos hstate, vitals_publish_heartbeat]
    rfl
  · rw [if_neg hstate, if_neg hstate, List.append_nil]
    rfl

/-- The count after a probe was tried: one that was not sent is not counted. -/
def countedProbe (g : Gateway World) : Except SendError Transport.Liveness → Connection.Heartbeat
  | .ok _ => g.heartbeat.onProbe
  | .error _ => g.heartbeat

/-- What a probe leaves in the queue: where connections know no probes, the answer to it. -/
def echo (g : Gateway World) : Except SendError Transport.Liveness → List Effect
  | .ok .immediate => [.enqueued (.transport g.life.generation .pong)]
  | _ => []

/-- The gateway after it has tried a probe with a writer. -/
def tried (link : Link World) (g : Gateway World) (writer : Nat) : Gateway World :=
  let (result, world) := link.ping g.world writer
  { g with
    world := world
    heartbeat := g.countedProbe result
    journal := g.journal ++ .probed writer result :: g.echo result }

/-- A probe is tried once. -/
theorem probe_eq (link : Link World) {g : Gateway World} {writer : Nat}
    (hwriter : g.writer = some writer) : g.probe link = g.tried link writer := by
  have hping : g.ping link = ((link.ping g.world writer).1,
      { g with world := (link.ping g.world writer).2 }.record
        (.probed writer (link.ping g.world writer).1)) := by
    simp only [ping, hwriter]
  unfold probe tried
  rw [hping]
  rcases link.ping g.world writer with ⟨result, world⟩
  rcases result with error | liveness
  · rfl
  · cases liveness
    · rfl
    · simp [countProbe, record, countedProbe, echo]

theorem vitals_tried (link : Link World) (g : Gateway World) (writer : Nat) :
    (g.tried link writer).vitals =
      ⟨g.countedProbe (link.ping g.world writer).1,
        g.vitals.effects ++ [.probed writer (link.ping g.world writer).1]⟩ := by
  have hecho : ∀ result, (g.echo result).filter Effect.isVital = [] := by
    intro result
    unfold echo
    split <;> rfl
  have hprobed : ∀ result, (Effect.probed writer result :: g.echo result).filter Effect.isVital =
      [.probed writer result] := by
    intro result
    rw [List.filter_cons_of_pos rfl, hecho]
  simp [tried, vitals, hprobed]

/-! ## Items -/

/-- The items that may do something: answers, reminders and frames of the current session. -/
def Item.isVital (generation : Nat) : Item → Bool
  | .transport n .pong => n = generation
  | .transport n (.frame _) => n = generation
  | .heartbeatTick n => n = generation
  | _ => false

/-- Any other item does nothing. -/
theorem vitals_handle (link : Link World) (g : Gateway World) (time : Reading) {item : Item}
    (h : item.isVital g.life.generation = false) :
    (g.handle link time item).vitals = g.vitals := by
  cases item with
  | connect caller =>
      simp only [handle, onConnect]
      split
      · exact vitals_openSession _
      · exact vitals_record _ rfl
  | close caller =>
      refine (vitals_record _ rfl).trans ?_
      rw [shut, vitals_expireAll, vitals_disconnect]
  | subscribe asset sink declared =>
      simp only [handle, onSubscribe]
      split
      · exact (vitals_of_sends (sends_requestFeed link _ asset)).trans rfl
      · rfl
  | unsubscribe asset sink => rfl
  | shutdown =>
      have hshutdown : (g.handle link time .shutdown).vitals =
          ((g.shut link time).answer (.error .stopped)).vitals := rfl
      rw [hshutdown, vitals_answer, shut, vitals_expireAll, vitals_disconnect]
  | sessionReady generation writer =>
      simp only [handle, onSessionReady]
      split
      · exact vitals_installWriter link g writer
      · exact vitals_closeLine link g writer
  | connectFailed generation error =>
      simp only [handle]
      split
      · exact vitals_onConnectFailed g time error
      · rfl
  | transport generation event =>
      simp only [handle]
      split <;> rename_i hcurrent
      · have hsame : generation = g.life.generation :=
          (Connection.Lifecycle.isCurrent_iff _ _).mp hcurrent
        cases event with
        | opened => exact (vitals_of_sends (sends_sendAll link { g with stage := .auth } _)).trans rfl
        | frame bytes => simp [Item.isVital, hsame] at h
        | error text => rfl
        | closed reason => exact vitals_onLost link g time
        | pong => simp [Item.isVital, hsame] at h
      · rfl
  | heartbeatTick generation =>
      have hother : generation ≠ g.life.generation := by simpa [Item.isVital] using h
      have hstale : ¬ (generation = g.life.generation ∧ g.state = .connected) :=
        fun hcurrent => hother hcurrent.1
      simp [handle, onTick, hstale]
  | expirySweep => exact vitals_expire g time _
  | reconnect generation =>
      simp only [handle, onReconnect]
      split
      · exact vitals_openSession g
      · rfl

end TerminalGateway.Gateway
