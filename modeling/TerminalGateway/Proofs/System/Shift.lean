import TerminalGateway.Proofs.System.Moves

/-!
# A gateway in a changed world

What a gateway does depends on the world only through what its writers answer, and on what it has
counted not at all.  So a gateway in a world that was changed behind its back, but not for its
writer, goes on as it would have gone on without the change, and so does one that has counted
more.  This module says so for each operation of a gateway.

Main definitions:

- `Link.Carries`: a change of the world that makes no difference to a writer.
- `Link.IsSeparate`: connections that have nothing to do with each other.
- `Gateway.shift`: a gateway in a changed world, with more counted.

Main results:

- Theorem `Gateway.step_shift`: an item does the same to a gateway and to a shifted one.
- Theorem `Submission.step_shift`, `Gateway.sendRaw_shift`: so does what goes beside the queue.
- Theorem `System.step?_shift`: a turn does the same to systems with such gateways.
-/

namespace TerminalGateway

namespace Gateway

variable {World : Type} {link : Link World} {change : World → World}

/-! ## Changes behind a writer's back -/

/-- A change of the world makes no difference to a writer: whatever is done through it comes to
the same before and after the change. -/
structure Link.Carries (link : Link World) (change : World → World) (writer : Nat) : Prop where
  send : ∀ world text, link.send (change world) writer text =
    ((link.send world writer text).1, change (link.send world writer text).2)
  ping : ∀ world, link.ping (change world) writer =
    ((link.ping world writer).1, change (link.ping world writer).2)
  close : ∀ world, link.close (change world) writer = change (link.close world writer)

/-- A change of the world makes no difference to the writer of a gateway, if it has one. -/
def Link.CarriesAll (link : Link World) (change : World → World) (writer : Option Nat) : Prop :=
  ∀ current, writer = some current → link.Carries change current

/-- To close one connection makes no difference to the writer of another. -/
def Link.IsSeparate (link : Link World) : Prop :=
  ∀ writer other, writer ≠ other → link.Carries (link.close · other) writer

/-- Closes connections in order. -/
def Link.closeAll (link : Link World) (writers : List Nat) (world : World) : World :=
  writers.foldl link.close world

theorem Link.carries_id (link : Link World) (writer : Nat) : link.Carries id writer where
  send _ _ := rfl
  ping _ := rfl
  close _ := rfl

theorem Link.Carries.comp {first second : World → World} {writer : Nat}
    (hsecond : link.Carries second writer) (hfirst : link.Carries first writer) :
    link.Carries (second ∘ first) writer where
  send world text := by simp [hsecond.send, hfirst.send]
  ping world := by simp [hsecond.ping, hfirst.ping]
  close world := by simp [hsecond.close, hfirst.close]

/-- To close several connections makes no difference to the writer of another. -/
theorem Link.IsSeparate.carries_closeAll (hseparate : link.IsSeparate) {writer : Nat}
    {writers : List Nat} (hnew : writer ∉ writers) :
    link.Carries (link.closeAll writers) writer := by
  induction writers with
  | nil => exact link.carries_id writer
  | cons other rest ih =>
      rw [List.mem_cons, not_or] at hnew
      exact (ih hnew.2).comp (hseparate writer other hnew.1)

/-! ## Shifted gateways -/

/-- Counts, taken together. -/
instance : Add Counters where
  add first second :=
    ⟨first.frames + second.frames, first.decodeErrors + second.decodeErrors,
      first.unhandled + second.unhandled, first.reconnects + second.reconnects⟩

theorem Counters.add_def (first second : Counters) :
    first + second =
      ⟨first.frames + second.frames, first.decodeErrors + second.decodeErrors,
        first.unhandled + second.unhandled, first.reconnects + second.reconnects⟩ :=
  rfl

/-- The same gateway in a changed world, with more counted. -/
def shift (change : World → World) (more : Counters) (g : Gateway World) : Gateway World :=
  { g with world := change g.world, counters := g.counters + more }

variable {more : Counters} {g : Gateway World}

@[simp] theorem outline_shift (g : Gateway World) : (g.shift change more).outline = g.outline :=
  rfl

/-! ## Events and triggers -/

@[simp] theorem record_shift (effect : Effect) :
    (g.shift change more).record effect = (g.record effect).shift change more :=
  rfl

@[simp] theorem publish_shift (event : Event) :
    (g.shift change more).publish event = (g.publish event).shift change more :=
  rfl

@[simp] theorem publishAll_shift (events : List Event) :
    (g.shift change more).publishAll events = (g.publishAll events).shift change more := by
  induction events generalizing g with
  | nil => rfl
  | cons event rest ih => exact ih (g := g.publish event)

@[simp] theorem trigger_shift (trigger : Connection.Trigger) :
    (g.shift change more).trigger trigger = (g.trigger trigger).shift change more := by
  have hlife : (g.shift change more).life = g.life := rfl
  unfold Gateway.trigger
  rw [hlife]
  rcases g.life.apply trigger with ⟨after, life⟩
  dsimp only
  split <;> rfl

@[simp] theorem nextGeneration_shift :
    (g.shift change more).nextGeneration = g.nextGeneration.shift change more :=
  rfl

@[simp] theorem answer_shift (result : Except GatewayError Unit) :
    (g.shift change more).answer result = (g.answer result).shift change more := by
  have hcaller : (g.shift change more).caller = g.caller := rfl
  unfold answer
  rw [hcaller]
  cases g.caller <;> rfl

/-! ## Writing -/

section Writing

variable (h : link.CarriesAll change g.outline.core.writer)

include h

theorem send_shift (text : String) :
    (g.shift change more).send link text =
      ((g.send link text).1, (g.send link text).2.shift change more) := by
  have hwriter : (g.shift change more).writer = g.writer := rfl
  have hworld : (g.shift change more).world = change g.world := rfl
  cases hcurrent : g.writer with
  | none => simp only [Gateway.send, hwriter, hcurrent]
  | some writer =>
      simp only [Gateway.send, hwriter, hworld, hcurrent, (h writer hcurrent).send]
      rfl

theorem sendAll_shift (texts : List String) :
    (g.shift change more).sendAll link texts = (g.sendAll link texts).shift change more := by
  induction texts generalizing g with
  | nil => rfl
  | cons text rest ih =>
      have houtline := outline_send link g text
      simp only [sendAll, send_shift h]
      rcases hsent : g.send link text with ⟨result, next⟩
      rw [hsent] at houtline
      cases result with
      | ok _ => exact ih (houtline ▸ h)
      | error _ => rfl

theorem ping_shift :
    (g.shift change more).ping link = ((g.ping link).1, (g.ping link).2.shift change more) := by
  have hwriter : (g.shift change more).writer = g.writer := rfl
  have hworld : (g.shift change more).world = change g.world := rfl
  cases hcurrent : g.writer with
  | none => simp only [Gateway.ping, hwriter, hcurrent]
  | some writer =>
      simp only [Gateway.ping, hwriter, hworld, hcurrent, (h writer hcurrent).ping]
      rfl

omit h in
theorem closeLine_shift {writer : Nat} (hwriter : link.Carries change writer) :
    (g.shift change more).closeLine link writer = (g.closeLine link writer).shift change more := by
  have hworld : (g.shift change more).world = change g.world := rfl
  unfold closeLine
  rw [hworld, hwriter.close]
  rfl

theorem closeWriter_shift :
    (g.shift change more).closeWriter link = (g.closeWriter link).shift change more := by
  have hwriter : (g.shift change more).writer = g.writer := rfl
  unfold closeWriter
  rw [hwriter]
  cases hcurrent : g.writer with
  | none => rfl
  | some writer => exact closeLine_shift (g := { g with writer := none }) (h writer hcurrent)

theorem installWriter_shift (writer : Nat) :
    (g.shift change more).installWriter link writer =
      (g.installWriter link writer).shift change more := by
  have hwriter : (g.shift change more).writer = g.writer := rfl
  unfold installWriter
  rw [hwriter]
  cases hcurrent : g.writer with
  | none => rfl
  | some previous =>
      exact closeLine_shift (g := { g with writer := some writer }) (h previous hcurrent)

theorem onOpened_shift :
    (g.shift change more).onOpened link = (g.onOpened link).shift change more :=
  sendAll_shift (g := { g with stage := .auth }) h _

theorem requestFeed_shift (asset : Asset) :
    (g.shift change more).requestFeed link asset =
      (g.requestFeed link asset).shift change more := by
  have hsettings : (g.shift change more).settings = g.settings := rfl
  unfold requestFeed
  rw [hsettings]
  split
  · exact sendAll_shift h _
  · rfl

theorem replay_shift :
    (g.shift change more).replay link = (g.replay link).shift change more := by
  have hassets : (g.shift change more).subscriptions.assets = g.subscriptions.assets := rfl
  unfold replay
  rw [hassets]
  induction g.subscriptions.assets generalizing g with
  | nil => rfl
  | cons asset rest ih =>
      rw [List.foldl_cons, List.foldl_cons, requestFeed_shift h]
      exact ih (by simpa using h) rfl

theorem sayGoodbye_shift :
    (g.shift change more).sayGoodbye link = (g.sayGoodbye link).shift change more := by
  have hstage : (g.shift change more).stage = g.stage := rfl
  unfold sayGoodbye
  rw [hstage]
  split
  · exact sendAll_shift h _
  · rfl

theorem sendRaw_shift (text : String) :
    (g.shift change more).sendRaw link text =
      ((g.sendRaw link text).1, (g.sendRaw link text).2.shift change more) := by
  have hstate : (g.shift change more).state = g.state := rfl
  unfold sendRaw
  rw [hstate]
  split
  · exact send_shift h text
  · rfl

end Writing

/-! ## Transactions, probes and tasks -/

@[simp] theorem expire_shift (time : Reading) (bound : Nat) :
    (g.shift change more).expire time bound = (g.expire time bound).shift change more := by
  have hpending : (g.shift change more).pending = g.pending := rfl
  unfold expire
  rw [hpending]
  rcases g.pending.expire time.now bound with ⟨ended, pending⟩
  exact publishAll_shift (g := { g with
    pending := pending
    journal := g.journal ++ ended.map fun e => .settled e.issuer e.resolution }) _

@[simp] theorem expireAll_shift (time : Reading) :
    (g.shift change more).expireAll time = (g.expireAll time).shift change more :=
  expire_shift time 0

@[simp] theorem onReply_shift (reply : Message.Reply) :
    (g.shift change more).onReply reply = (g.onReply reply).shift change more := by
  have hpending : (g.shift change more).pending = g.pending := rfl
  unfold onReply
  rw [hpending]
  rcases g.pending.resolve reply with ⟨decision, pending⟩
  cases decision <;> rfl

@[simp] theorem startTicker_shift :
    (g.shift change more).startTicker = g.startTicker.shift change more :=
  rfl

@[simp] theorem stopTicker_shift :
    (g.shift change more).stopTicker = g.stopTicker.shift change more := by
  have hticker : (g.shift change more).ticker = g.ticker := rfl
  unfold stopTicker
  rw [hticker]
  cases g.ticker <;> rfl

@[simp] theorem stopTasks_shift :
    (g.shift change more).stopTasks = g.stopTasks.shift change more := by
  have hsession : (g.stopTicker.shift change more).session = g.stopTicker.session := rfl
  unfold stopTasks
  simp only [stopTicker_shift, hsession]
  cases g.stopTicker.session <;> rfl

@[simp] theorem onPong_shift (time : Reading) :
    (g.shift change more).onPong time = (g.onPong time).shift change more := by
  have hheartbeat : (g.shift change more).heartbeat = g.heartbeat := rfl
  unfold onPong
  rw [hheartbeat]
  rcases g.heartbeat.onPong time.wall with ⟨beat, heartbeat⟩
  dsimp only
  split <;> rename_i hstate
  · exact (if_pos hstate).symm ▸ rfl
  · exact (if_neg hstate).symm ▸ rfl

/-! ## The beginning and the end of a session -/

@[simp] theorem openSession_shift :
    (g.shift change more).openSession = g.openSession.shift change more := by
  have hopen : ∀ g' : Gateway World, g'.openSession =
      { (g'.trigger .connect).nextGeneration with
        stage := .transport
        session := some (g'.trigger .connect).nextGeneration.life.generation }.record
          (.startSession (g'.trigger .connect).nextGeneration.life.generation) := fun _ => rfl
  rw [hopen, hopen, trigger_shift]
  rfl

@[simp] theorem retry_shift (time : Reading) :
    (g.shift change more).retry time = (g.retry time).shift change more := by
  have hlife : (g.shift change more).life = g.life := rfl
  have hcounted : ∀ life, { g.shift change more with
        life := life
        counters := { (g.shift change more).counters with
          reconnects := (g.shift change more).counters.reconnects + 1 } } =
      { g with
        life := life
        counters := { g.counters with
          reconnects := g.counters.reconnects + 1 } }.shift change more := by
    intro life
    simp only [shift, Counters.add_def, Nat.add_right_comm]
  unfold retry
  rw [hlife]
  rcases g.life.scheduleRetry with ⟨_ | delay, life⟩
  · exact expireAll_shift (g := { g with life := life }) time
  · dsimp only
    rw [hcounted]
    split
    · exact openSession_shift
    · rfl

@[simp] theorem answerOrRetry_shift (time : Reading) (error : ConnectError) :
    (g.shift change more).answerOrRetry time error =
      (g.answerOrRetry time error).shift change more := by
  have hcaller : (g.shift change more).caller = g.caller := rfl
  unfold answerOrRetry
  rw [hcaller]
  split
  · exact answer_shift _
  · exact retry_shift time

@[simp] theorem onConnectFailed_shift (time : Reading) (error : ConnectError) :
    (g.shift change more).onConnectFailed time error =
      (g.onConnectFailed time error).shift change more := by
  have hidle : { g.shift change more with session := none, stage := .idle } =
      { g with session := none, stage := .idle }.shift change more := rfl
  unfold onConnectFailed
  rw [hidle, trigger_shift, answerOrRetry_shift]

section Session

variable (h : link.CarriesAll change g.outline.core.writer)

include h

theorem onSessionOpen_shift :
    (g.shift change more).onSessionOpen link = (g.onSessionOpen link).shift change more := by
  have hreset : ∀ g' : Gateway World, { g'.shift change more with
        life := (g'.shift change more).life.resetRetries
        heartbeat := (g'.shift change more).heartbeat.resetProbes } =
      { g' with
        life := g'.life.resetRetries
        heartbeat := g'.heartbeat.resetProbes }.shift change more := fun _ => rfl
  have hstage : { g.shift change more with stage := .established } =
      { g with stage := .established }.shift change more := rfl
  have hwriter : link.CarriesAll change
      ({ g with stage := .established }.trigger .sessionOpened).outline.core.writer := by
    rw [outline_trigger]
    exact h
  unfold onSessionOpen
  simp only [hstage, trigger_shift, hreset]
  rw [replay_shift (by exact hwriter), trigger_shift, startTicker_shift, answer_shift]

theorem closeSession_shift :
    (g.shift change more).closeSession link = (g.closeSession link).shift change more := by
  unfold closeSession
  simp only [stopTasks_shift]
  rw [sayGoodbye_shift (by simpa using h), closeWriter_shift (by simpa using h)]
  rfl

theorem disconnect_shift :
    (g.shift change more).disconnect link = (g.disconnect link).shift change more := by
  have hstate : (g.shift change more).state = g.state := rfl
  unfold disconnect
  rw [hstate]
  split
  · rfl
  · rw [trigger_shift, answer_shift, closeSession_shift (by simpa using h), trigger_shift]

theorem shut_shift (time : Reading) :
    (g.shift change more).shut link time = (g.shut link time).shift change more := by
  unfold shut
  rw [disconnect_shift h, expireAll_shift]

theorem onRefused_shift (time : Reading) (error : AuthError) :
    (g.shift change more).onRefused link time error =
      (g.onRefused link time error).shift change more := by
  unfold onRefused
  simp only [trigger_shift]
  rw [closeSession_shift (by simpa using h), trigger_shift, expireAll_shift, answer_shift]

theorem onLost_shift (time : Reading) :
    (g.shift change more).onLost link time = (g.onLost link time).shift change more := by
  have hstate : (g.shift change more).state = g.state := rfl
  have hidle : ∀ g' : Gateway World, { (g'.shift change more).nextGeneration with stage := .idle } =
      { g'.nextGeneration with stage := .idle }.shift change more := fun _ => rfl
  unfold onLost
  rw [hstate]
  split
  · rfl
  · simp only [stopTasks_shift]
    rw [closeWriter_shift (by simpa using h), hidle, trigger_shift, answerOrRetry_shift]

end Session

/-! ## Messages -/

@[simp] theorem countDecodeError_shift :
    (g.shift change more).countDecodeError = g.countDecodeError.shift change more := by
  simp only [countDecodeError, shift, Counters.add_def, Nat.add_right_comm]

/-- A frame that cannot be read is counted, and counted as an error. -/
theorem onFrame_of_decode_error (link : Link World) (time : Reading) {bytes : List UInt8}
    {error : DecodeError} (hdecode : Message.decode g.settings.encoding bytes = .error error) :
    g.onFrame link time bytes = g.countFrame.countDecodeError := by
  simp only [onFrame, hdecode]
  rfl

@[simp] theorem countFrame_shift :
    (g.shift change more).countFrame = g.countFrame.shift change more := by
  simp only [countFrame, shift, Counters.add_def, Nat.add_right_comm]

@[simp] theorem publishRead_shift (read : Except DecodeError (List Event)) :
    (g.shift change more).publishRead read = (g.publishRead read).shift change more := by
  cases read with
  | ok events => exact publishAll_shift events
  | error _ => exact countDecodeError_shift

section Items

variable (h : link.CarriesAll change g.outline.core.writer)

include h

theorem onLogin_shift (time : Reading) (payload : Json.Value) :
    (g.shift change more).onLogin link time payload =
      (g.onLogin link time payload).shift change more := by
  have hstage : (g.shift change more).stage = g.stage := rfl
  have hsettings : (g.shift change more).settings = g.settings := rfl
  unfold onLogin
  rw [hstage, hsettings]
  split
  · split
    · exact onRefused_shift h time _
    · split
      · exact onSessionOpen_shift h
      · rfl
  · rfl

theorem onTradeSession_shift (time : Reading) (payload : Json.Value) :
    (g.shift change more).onTradeSession link time payload =
      (g.onTradeSession link time payload).shift change more := by
  have hstage : (g.shift change more).stage = g.stage := rfl
  unfold onTradeSession
  rw [hstage]
  split
  · split
    · exact onRefused_shift h time _
    · exact onSessionOpen_shift h
  · rfl

theorem onMessage_shift (time : Reading) (message : Message) :
    (g.shift change more).onMessage link time message =
      (g.onMessage link time message).shift change more := by
  unfold onMessage
  split
  · rename_i kind _
    cases kind with
    | auth => exact onLogin_shift h time message.payload
    | sessionOpen => exact onTradeSession_shift h time message.payload
    | connectionStatus => rfl
    | feedAnswer => rfl
  · exact publishRead_shift _
  · exact publishRead_shift _
  · exact onReply_shift _
  · simp only [shift, Counters.add_def, Nat.add_right_comm]

theorem onFrame_shift (time : Reading) (bytes : List UInt8) :
    (g.shift change more).onFrame link time bytes =
      (g.onFrame link time bytes).shift change more := by
  cases hdecode : Message.decode g.settings.encoding bytes with
  | ok message =>
      have hshifted : Message.decode (g.shift change more).settings.encoding bytes = .ok message :=
        hdecode
      rw [onFrame_of_decode link time hdecode, onFrame_of_decode link time hshifted,
        countFrame_shift]
      exact onMessage_shift (g := g.countFrame) h time message
  | error error =>
      have hshifted : Message.decode (g.shift change more).settings.encoding bytes = .error error :=
        hdecode
      rw [onFrame_of_decode_error link time hdecode, onFrame_of_decode_error link time hshifted,
        countFrame_shift, countDecodeError_shift]

theorem onTransport_shift (time : Reading) (event : Transport.Event) :
    (g.shift change more).onTransport link time event =
      (g.onTransport link time event).shift change more := by
  cases event with
  | opened => exact onOpened_shift h
  | frame bytes => exact onFrame_shift h time bytes
  | error text => rfl
  | closed reason => exact onLost_shift h time
  | pong => exact onPong_shift time

theorem onSubscribe_shift (asset : Asset) (sink : SinkId) (declared : List Capability) :
    (g.shift change more).onSubscribe link asset sink declared =
      (g.onSubscribe link asset sink declared).shift change more := by
  have hsubscriptions : (g.shift change more).subscriptions = g.subscriptions := rfl
  have hstate : ∀ subscriptions, { g.shift change more with subscriptions := subscriptions }.state =
      { g with subscriptions := subscriptions }.state := fun _ => rfl
  unfold onSubscribe
  rw [hsubscriptions]
  rcases g.subscriptions.subscribe asset sink declared with ⟨subscribed, subscriptions⟩
  dsimp only
  rw [hstate]
  split
  · exact requestFeed_shift (g := { g with subscriptions := subscriptions }) h asset
  · rfl

theorem onSessionReady_shift (generation : Nat) {writer : Nat}
    (hwriter : link.Carries change writer) :
    (g.shift change more).onSessionReady link generation writer =
      (g.onSessionReady link generation writer).shift change more := by
  have hlife : (g.shift change more).life = g.life := rfl
  unfold onSessionReady
  rw [hlife]
  split
  · exact installWriter_shift h writer
  · exact closeLine_shift hwriter

theorem probe_shift : (g.shift change more).probe link = (g.probe link).shift change more := by
  unfold probe
  rw [ping_shift h]
  rcases g.ping link with ⟨result, next⟩
  cases result with
  | ok liveness => cases liveness <;> rfl
  | error _ => rfl

theorem onTick_shift (time : Reading) (generation : Nat) :
    (g.shift change more).onTick link time generation =
      (g.onTick link time generation).shift change more := by
  have hlife : (g.shift change more).life = g.life := rfl
  have hstate : (g.shift change more).state = g.state := rfl
  have hheartbeat : (g.shift change more).heartbeat = g.heartbeat := rfl
  have hsettings : (g.shift change more).settings = g.settings := rfl
  unfold onTick
  rw [hlife, hstate, hheartbeat, hsettings]
  split
  · split
    · exact onLost_shift h time
    · exact probe_shift h
  · rfl

theorem onShutdown_shift (time : Reading) :
    (g.shift change more).onShutdown link time = (g.onShutdown link time).shift change more := by
  unfold onShutdown
  rw [shut_shift h, answer_shift]
  rfl

end Items

@[simp] theorem onConnect_shift (caller : Nat) :
    (g.shift change more).onConnect caller = (g.onConnect caller).shift change more := by
  have hstate : (g.shift change more).state = g.state := rfl
  unfold onConnect
  rw [hstate]
  split
  · exact openSession_shift (g := { g with caller := some caller })
  · rfl

@[simp] theorem onReconnect_shift (generation : Nat) :
    (g.shift change more).onReconnect generation =
      (g.onReconnect generation).shift change more := by
  have hlife : (g.shift change more).life = g.life := rfl
  have hstate : (g.shift change more).state = g.state := rfl
  unfold onReconnect
  rw [hlife, hstate]
  split
  · exact openSession_shift
  · rfl

/-! ## Items and submissions -/

/-- A change of the world makes no difference to a writer that an item hands over. -/
def Link.CarriesNew (link : Link World) (change : World → World) (item : Item) : Prop :=
  ∀ generation writer, item = .sessionReady generation writer → link.Carries change writer

theorem handle_shift (h : link.CarriesAll change g.outline.core.writer) (time : Reading)
    {item : Item} (hnew : link.CarriesNew change item) :
    (g.shift change more).handle link time item = (g.handle link time item).shift change more := by
  have hlife : (g.shift change more).life = g.life := rfl
  cases item with
  | connect caller => exact onConnect_shift caller
  | close caller => exact congrArg (record · _) (shut_shift h time)
  | subscribe asset sink declared => exact onSubscribe_shift h asset sink declared
  | unsubscribe asset sink => rfl
  | shutdown => exact onShutdown_shift h time
  | sessionReady generation writer =>
      exact onSessionReady_shift h generation (hnew generation writer rfl)
  | connectFailed generation error =>
      simp only [handle, hlife]
      split
      · exact onConnectFailed_shift time error
      · rfl
  | transport generation event =>
      simp only [handle, hlife]
      split
      · exact onTransport_shift h time event
      · rfl
  | heartbeatTick generation => exact onTick_shift h time generation
  | expirySweep => exact expire_shift time _
  | reconnect generation => exact onReconnect_shift generation

/-- An item does the same to a gateway and to a shifted one. -/
theorem step_shift (h : link.CarriesAll change g.outline.core.writer) (time : Reading)
    {item : Item} (hnew : link.CarriesNew change item) :
    (g.shift change more).step link time item = (g.step link time item).shift change more := by
  have hrunning : (g.shift change more).running = g.running := rfl
  unfold Gateway.step
  rw [hrunning]
  split
  · exact handle_shift (g := { g with journal := [] }) h time hnew
  · rfl

end Gateway

namespace Submission

open Gateway

variable {World : Type} {link : Link World} {change : World → World} {more : Counters}
  {g : Gateway World}

/-- A step of a submission does the same to a gateway and to a shifted one. -/
theorem step_shift (h : link.CarriesAll change g.outline.core.writer) (time : Reading)
    (submission : Submission) :
    submission.step link time (g.shift change more) =
      ((submission.step link time g).1, (submission.step link time g).2.shift change more) := by
  cases submission with
  | waiting issuer intent =>
      have hstate : (g.shift change more).state = g.state := rfl
      simp only [step, hstate]
      split <;> rfl
  | admitted issuer intent =>
      have hframes : Command.transaction (g.shift change more).settings.dialect
          (g.shift change more).pending.takeId.1 (g.shift change more).settings.account intent =
            Command.transaction g.settings.dialect g.pending.takeId.1 g.settings.account intent :=
        rfl
      simp only [step, hframes]
      split <;> rfl
  | writing transactionId frames =>
      cases frames with
      | nil => rfl
      | cons frame frames =>
          simp only [step, send_shift h]
          rcases g.send link frame with ⟨result, next⟩
          cases result <;> rfl
  | _ => rfl

end Submission

/-! ## Turns -/

namespace System

open Gateway

variable {World : Type} {link : Link World} {change : World → World} {more : Counters}

/-- A turn does the same to a system and to one with a shifted gateway. -/
theorem step?_shift {s kept next : System World} {turn : Turn} {keptTasks : Tasks}
    (hgateway : s.cleared = kept.cleared.shift change more)
    (hsubmissions : s.submissions = kept.submissions)
    (hwriter : link.CarriesAll change kept.gateway.writer)
    (hnew : ∀ time item, turn = .item time item → link.CarriesNew change item)
    (htake : kept.tasks.take? turn = some keptTasks) (hstep : s.step? link turn = some next) :
    ∃ tasks submissions g, s.tasks.take? turn = some tasks ∧
      next = { s with tasks := tasks, submissions := submissions }.leave (g.shift change more) ∧
      kept.step? link turn =
        some ({ kept with tasks := keptTasks, submissions := submissions }.leave g) := by
  cases turn with
  | item time item =>
      rcases Option.map_eq_some_iff.mp hstep with ⟨tasks, hitem, rfl⟩
      have hstepped : s.gateway.step link time item =
          (kept.gateway.step link time item).shift change more := by
        have hcleared : s.gateway.step link time item = s.cleared.step link time item := rfl
        rw [hcleared, hgateway]
        exact step_shift (g := kept.cleared) hwriter time (hnew time item rfl)
      refine ⟨tasks, s.submissions, kept.gateway.step link time item, hitem, ?_, ?_⟩
      · rw [hstepped]
      · rw [hsubmissions]
        exact Option.map_eq_some_iff.mpr ⟨keptTasks, htake, rfl⟩
  | submit issuer intent =>
      cases hstep
      cases htake
      refine ⟨s.tasks, s.submissions ++ [.waiting issuer intent], kept.cleared, rfl, ?_, ?_⟩
      · rw [hgateway]
      · rw [hsubmissions]
        rfl
  | advance time number =>
      rcases Option.map_eq_some_iff.mp hstep with ⟨submission, hsubmission, rfl⟩
      cases htake
      rw [hsubmissions] at hsubmission
      let stepped := submission.step link time kept.cleared
      refine ⟨s.tasks, s.submissions.set number stepped.1, stepped.2, rfl, ?_, ?_⟩
      · rw [hgateway, Submission.step_shift (g := kept.cleared) hwriter]
      · rw [hsubmissions]
        exact Option.map_eq_some_iff.mpr ⟨submission, hsubmission, rfl⟩
  | raw text =>
      cases hstep
      cases htake
      refine ⟨s.tasks, s.submissions, (kept.cleared.sendRaw link text).2, rfl, ?_, ?_⟩
      · rw [hgateway, sendRaw_shift (g := kept.cleared) hwriter]
      · rw [hsubmissions]
        rfl

end System

end TerminalGateway
