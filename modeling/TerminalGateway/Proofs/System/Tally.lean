import TerminalGateway.Proofs.System.Shift

/-!
# What is counted of frames

A gateway counts the frames of the current session, those frames and messages that it cannot read,
and the messages of no known kind.  Nothing but a frame of the current session is counted, and what
a frame counts for is decided by the frame alone.

Main definitions:

- `Reception`: what becomes of a frame, and what it counts for.
- `tally`: what a gateway has counted of frames.

Main results:

- Theorem `tally_onFrame`: a frame counts for what becomes of it.
- Theorem `tally_handle`: no other item is counted.
-/

namespace TerminalGateway.Gateway

open TerminalGateway.Message (LifecycleKind Reply)

variable {World : Type}

/-! ## Receptions -/

/-- What becomes of a frame of the current session. -/
inductive Reception where
  /-- Its message is taken up. -/
  | heard
  /-- The frame, or its message, cannot be read. -/
  | rejected
  /-- Its message is of no known kind. -/
  | unhandled
deriving DecidableEq

/-- The message is read to the end, or else rejected as a whole. -/
def Reception.ofRead {α : Type} : Except DecodeError α → Reception
  | .ok _ => .heard
  | .error _ => .rejected

/-- What becomes of a message that was decoded. -/
def Reception.ofMessage (wall : Calendar.Moment) (message : Message) : Reception :=
  match message.kind with
  | .market kind => .ofRead (Event.ofMarket kind message.payload wall)
  | .account kind => .ofRead (Event.ofAccount kind message.payload)
  | .unhandled => .unhandled
  | _ => .heard

/-- What becomes of a frame. -/
def Reception.ofFrame (encoding : Text.Encoding) (wall : Calendar.Moment) (bytes : List UInt8) :
    Reception :=
  match Message.decode encoding bytes with
  | .ok message => .ofMessage wall message
  | .error _ => .rejected

/-- A frame without any effect but that it is counted. -/
def Reception.isInert : Reception → Bool
  | .heard => false
  | _ => true

/-- What a frame counts for. -/
def Reception.count : Reception → Counters
  | .heard => { frames := 1 }
  | .rejected => { frames := 1, decodeErrors := 1 }
  | .unhandled => { frames := 1, unhandled := 1 }

/-! ## Tallies -/

/-- What a gateway has counted, but for its attempts to connect again. -/
def tally (g : Gateway World) : Counters :=
  { g.counters with reconnects := 0 }

@[simp] theorem tally_record (g : Gateway World) (effect : Effect) :
    (g.record effect).tally = g.tally :=
  rfl

@[simp] theorem tally_publish (g : Gateway World) (event : Event) :
    (g.publish event).tally = g.tally :=
  rfl

@[simp] theorem tally_publishAll (g : Gateway World) (events : List Event) :
    (g.publishAll events).tally = g.tally := by
  induction events generalizing g with
  | nil => rfl
  | cons event rest ih => exact ih (g.publish event)

@[simp] theorem tally_trigger (g : Gateway World) (trigger : Connection.Trigger) :
    (g.trigger trigger).tally = g.tally := by
  unfold Gateway.trigger
  rcases g.life.apply trigger with ⟨after, life⟩
  dsimp only
  split <;> rfl

@[simp] theorem tally_nextGeneration (g : Gateway World) : g.nextGeneration.tally = g.tally :=
  rfl

@[simp] theorem tally_answer (g : Gateway World) (result : Except GatewayError Unit) :
    (g.answer result).tally = g.tally := by
  unfold answer
  split <;> rfl

theorem tally_of_writes {g next : Gateway World} (h : Writes g next) : next.tally = g.tally := by
  rcases h with ⟨world, effects, rfl, -⟩
  rfl

@[simp] theorem tally_sendAll (link : Link World) (g : Gateway World) (texts : List String) :
    (g.sendAll link texts).tally = g.tally :=
  tally_of_writes (writes_sendAll link g texts)

@[simp] theorem tally_closeWriter (link : Link World) (g : Gateway World) :
    (g.closeWriter link).tally = g.tally :=
  (tally_of_writes (writes_closeWriter link g)).trans rfl

@[simp] theorem tally_requestFeed (link : Link World) (g : Gateway World) (asset : Asset) :
    (g.requestFeed link asset).tally = g.tally :=
  tally_of_writes (writes_requestFeed link g asset)

@[simp] theorem tally_replay (link : Link World) (g : Gateway World) :
    (g.replay link).tally = g.tally :=
  tally_of_writes (writes_replay link g)

@[simp] theorem tally_sayGoodbye (link : Link World) (g : Gateway World) :
    (g.sayGoodbye link).tally = g.tally :=
  tally_of_writes (writes_sayGoodbye link g)

@[simp] theorem tally_sendRaw (link : Link World) (g : Gateway World) (text : String) :
    (g.sendRaw link text).2.tally = g.tally :=
  tally_of_writes (writes_sendRaw link g text)

/-- What becomes of a transaction is not counted. -/
@[simp] theorem tally_submissionStep (link : Link World) (time : Reading) (g : Gateway World)
    (submission : Submission) : (submission.step link time g).2.tally = g.tally :=
  (tally_of_writes (submission.writes_step link time g)).trans rfl

@[simp] theorem tally_expire (g : Gateway World) (time : Reading) (bound : Nat) :
    (g.expire time bound).tally = g.tally :=
  tally_publishAll _ _

@[simp] theorem tally_expireAll (g : Gateway World) (time : Reading) :
    (g.expireAll time).tally = g.tally :=
  tally_expire g time 0

@[simp] theorem tally_stopTicker (g : Gateway World) : g.stopTicker.tally = g.tally := by
  unfold stopTicker
  split <;> rfl

@[simp] theorem tally_stopTasks (g : Gateway World) : g.stopTasks.tally = g.tally := by
  unfold stopTasks
  dsimp only
  split
  · exact tally_stopTicker g
  · exact tally_stopTicker g

@[simp] theorem tally_startTicker (g : Gateway World) : g.startTicker.tally = g.tally :=
  rfl

/-! ## Sessions -/

@[simp] theorem tally_openSession (g : Gateway World) : g.openSession.tally = g.tally :=
  tally_trigger g .connect

@[simp] theorem tally_onSessionOpen (link : Link World) (g : Gateway World) :
    (g.onSessionOpen link).tally = g.tally := by
  have hreset : ∀ g' : Gateway World,
      { g' with life := g'.life.resetRetries, heartbeat := g'.heartbeat.resetProbes }.tally =
        g'.tally := fun _ => rfl
  unfold onSessionOpen
  simp only [tally_answer, tally_startTicker, tally_trigger, tally_replay, hreset]
  rfl

@[simp] theorem tally_closeSession (link : Link World) (g : Gateway World) :
    (g.closeSession link).tally = g.tally := by
  have hstage : (g.closeSession link).tally =
      (((g.stopTasks).sayGoodbye link).closeWriter link).tally := rfl
  rw [hstage, tally_closeWriter, tally_sayGoodbye, tally_stopTasks]

@[simp] theorem tally_disconnect (link : Link World) (g : Gateway World) :
    (g.disconnect link).tally = g.tally := by
  unfold disconnect
  split
  · exact tally_nextGeneration g
  · rw [tally_trigger, tally_closeSession, tally_answer, tally_trigger]

@[simp] theorem tally_shut (link : Link World) (g : Gateway World) (time : Reading) :
    (g.shut link time).tally = g.tally :=
  (tally_expireAll _ time).trans (tally_disconnect link g)

@[simp] theorem tally_onRefused (link : Link World) (g : Gateway World) (time : Reading)
    (error : AuthError) : (g.onRefused link time error).tally = g.tally := by
  unfold onRefused
  simp only [tally_answer, tally_expireAll, tally_trigger, tally_closeSession]

@[simp] theorem tally_retry (g : Gateway World) (time : Reading) :
    (g.retry time).tally = g.tally := by
  unfold retry
  rcases g.life.scheduleRetry with ⟨_ | delay, life⟩
  · exact tally_expireAll _ time
  · dsimp only
    split
    · exact tally_openSession _
    · rfl

@[simp] theorem tally_answerOrRetry (g : Gateway World) (time : Reading) (error : ConnectError) :
    (g.answerOrRetry time error).tally = g.tally := by
  unfold answerOrRetry
  split
  · exact tally_answer g _
  · exact tally_retry g time

@[simp] theorem tally_onConnectFailed (g : Gateway World) (time : Reading) (error : ConnectError) :
    (g.onConnectFailed time error).tally = g.tally := by
  unfold onConnectFailed
  rw [tally_answerOrRetry, tally_trigger]
  rfl

@[simp] theorem tally_onLost (link : Link World) (g : Gateway World) (time : Reading) :
    (g.onLost link time).tally = g.tally := by
  unfold onLost
  split
  · rfl
  · rw [tally_answerOrRetry, tally_trigger]
    exact (tally_closeWriter link _).trans (tally_stopTasks g)

/-! ## Frames -/

@[simp] theorem tally_onReply (g : Gateway World) (reply : Reply) :
    (g.onReply reply).tally = g.tally := by
  unfold onReply
  rcases g.pending.resolve reply with ⟨decision, pending⟩
  cases decision <;> rfl

@[simp] theorem tally_onLifecycle (link : Link World) (g : Gateway World) (time : Reading)
    (kind : LifecycleKind) (payload : Json.Value) :
    (g.onLifecycle link time kind payload).tally = g.tally := by
  cases kind with
  | auth =>
      simp only [onLifecycle, onLogin]
      split
      · split
        · exact tally_onRefused link g time _
        · split
          · exact tally_onSessionOpen link g
          · rfl
      · rfl
  | sessionOpen =>
      simp only [onLifecycle, onTradeSession]
      split
      · split
        · exact tally_onRefused link g time _
        · exact tally_onSessionOpen link g
      · rfl
  | connectionStatus => rfl
  | feedAnswer => rfl

/-- A message that is taken up is not counted. -/
theorem tally_onMessage_of_heard (link : Link World) (g : Gateway World) (time : Reading)
    {message : Message} (hheard : Reception.ofMessage time.wall message = .heard) :
    (g.onMessage link time message).tally = g.tally := by
  have hread : ∀ read : Except DecodeError (List Event), Reception.ofRead read = .heard →
      (g.publishRead read).tally = g.tally := by
    intro read hread
    cases read with
    | ok events => exact tally_publishAll g events
    | error _ => cases hread
  unfold Reception.ofMessage at hheard
  unfold onMessage
  cases hkind : message.kind with
  | lifecycle kind => exact tally_onLifecycle link g time kind message.payload
  | market kind =>
      rw [hkind] at hheard
      exact hread _ hheard
  | account kind =>
      rw [hkind] at hheard
      exact hread _ hheard
  | reply reply => exact tally_onReply g reply
  | unhandled =>
      rw [hkind] at hheard
      cases hheard

/-- A message of which nothing becomes has no effect but what it counts for, with its frame. -/
theorem onMessage_of_isInert (link : Link World) (g : Gateway World) (time : Reading)
    {message : Message} (hinert : (Reception.ofMessage time.wall message).isInert = true) :
    g.countFrame.onMessage link time message =
      g.shift id (Reception.ofMessage time.wall message).count := by
  have hread : ∀ read : Except DecodeError (List Event), (Reception.ofRead read).isInert = true →
      g.countFrame.publishRead read = g.shift id (Reception.ofRead read).count := by
    intro read hread
    cases read with
    | ok events => cases hread
    | error _ => rfl
  unfold Reception.ofMessage at hinert ⊢
  unfold onMessage
  cases hkind : message.kind with
  | lifecycle kind =>
      rw [hkind] at hinert
      cases hinert
  | market kind =>
      rw [hkind] at hinert
      exact hread _ hinert
  | account kind =>
      rw [hkind] at hinert
      exact hread _ hinert
  | reply reply =>
      rw [hkind] at hinert
      cases hinert
  | unhandled => rfl

/-- A frame of which nothing becomes has no effect but what it counts for. -/
theorem onFrame_of_isInert (link : Link World) (g : Gateway World) (time : Reading)
    {bytes : List UInt8}
    (hinert : (Reception.ofFrame g.settings.encoding time.wall bytes).isInert = true) :
    g.onFrame link time bytes =
      g.shift id (Reception.ofFrame g.settings.encoding time.wall bytes).count := by
  unfold Reception.ofFrame at hinert ⊢
  cases hdecode : Message.decode g.settings.encoding bytes with
  | error error =>
      rw [onFrame_of_decode_error link time hdecode]
      rfl
  | ok message =>
      rw [hdecode] at hinert
      rw [onFrame_of_decode link time hdecode]
      exact onMessage_of_isInert link g time hinert

/-- A frame counts for what becomes of it. -/
theorem tally_onFrame (link : Link World) (g : Gateway World) (time : Reading)
    (bytes : List UInt8) :
    (g.onFrame link time bytes).tally =
      g.tally + (Reception.ofFrame g.settings.encoding time.wall bytes).count := by
  cases hreception : Reception.ofFrame g.settings.encoding time.wall bytes with
  | heard =>
      unfold Reception.ofFrame at hreception
      cases hdecode : Message.decode g.settings.encoding bytes with
      | error error =>
          rw [hdecode] at hreception
          cases hreception
      | ok message =>
          rw [hdecode] at hreception
          rw [onFrame_of_decode link time hdecode]
          exact tally_onMessage_of_heard link g.countFrame time hreception
  | rejected =>
      rw [onFrame_of_isInert link g time (by rw [hreception]; rfl), hreception]
      rfl
  | unhandled =>
      rw [onFrame_of_isInert link g time (by rw [hreception]; rfl), hreception]
      rfl

/-! ## Items -/

@[simp] theorem tally_onConnect (g : Gateway World) (caller : Nat) :
    (g.onConnect caller).tally = g.tally := by
  unfold onConnect
  split
  · exact tally_openSession _
  · rfl

@[simp] theorem tally_onSubscribe (link : Link World) (g : Gateway World) (asset : Asset)
    (sink : SinkId) (declared : List Capability) :
    (g.onSubscribe link asset sink declared).tally = g.tally := by
  unfold onSubscribe
  rcases g.subscriptions.subscribe asset sink declared with ⟨subscribed, subscriptions⟩
  dsimp only
  split
  · exact tally_requestFeed link _ asset
  · rfl

@[simp] theorem tally_onSessionReady (link : Link World) (g : Gateway World)
    (generation writer : Nat) : (g.onSessionReady link generation writer).tally = g.tally := by
  unfold onSessionReady
  split
  · exact (tally_of_writes (writes_installWriter link g writer)).trans rfl
  · exact tally_of_writes (writes_closeLine link g writer)

@[simp] theorem tally_onPong (g : Gateway World) (time : Reading) :
    (g.onPong time).tally = g.tally := by
  unfold onPong
  rcases g.heartbeat.onPong time.wall with ⟨beat, heartbeat⟩
  dsimp only
  split <;> rfl

@[simp] theorem tally_probe (link : Link World) (g : Gateway World) :
    (g.probe link).tally = g.tally := by
  have hping := tally_of_writes (writes_ping link g)
  unfold probe
  split <;> rename_i next heq <;> rw [heq] at hping
  · exact hping
  · exact hping
  · exact hping

@[simp] theorem tally_onTick (link : Link World) (g : Gateway World) (time : Reading)
    (generation : Nat) : (g.onTick link time generation).tally = g.tally := by
  unfold onTick
  split
  · split
    · exact tally_onLost link g time
    · exact tally_probe link g
  · rfl

@[simp] theorem tally_onReconnect (g : Gateway World) (generation : Nat) :
    (g.onReconnect generation).tally = g.tally := by
  unfold onReconnect
  split
  · exact tally_openSession g
  · rfl

/-- Only a frame of the current session is counted. -/
theorem tally_handle (link : Link World) (g : Gateway World) (time : Reading) {item : Item}
    (hframe : ∀ bytes, item ≠ .transport g.life.generation (.frame bytes)) :
    (g.handle link time item).tally = g.tally := by
  cases item with
  | connect caller => exact tally_onConnect g caller
  | close caller => exact tally_shut link g time
  | subscribe asset sink declared => exact tally_onSubscribe link g asset sink declared
  | unsubscribe asset sink => rfl
  | shutdown =>
      have hstop : ∀ g' : Gateway World, { g' with running := false }.tally = g'.tally :=
        fun _ => rfl
      simp only [handle, onShutdown, hstop, tally_answer, tally_shut]
  | sessionReady generation writer => exact tally_onSessionReady link g generation writer
  | connectFailed generation error =>
      simp only [handle]
      split
      · exact tally_onConnectFailed g time error
      · rfl
  | transport generation event =>
      simp only [handle]
      split <;> rename_i hcurrent
      · obtain rfl := (Connection.Lifecycle.isCurrent_iff _ _).mp hcurrent
        cases event with
        | opened => exact (tally_sendAll link _ _).trans rfl
        | frame bytes => exact absurd rfl (hframe bytes)
        | error text => rfl
        | closed reason => exact tally_onLost link g time
        | pong => exact tally_onPong g time
      · rfl
  | heartbeatTick generation => exact tally_onTick link g time generation
  | expirySweep => exact tally_expire g time _
  | reconnect generation => exact tally_onReconnect g generation

end TerminalGateway.Gateway
