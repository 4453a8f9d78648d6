import TerminalGateway.Proofs.System.Basic
import TerminalGateway.Proofs.System.Writing

/-!
# Tickers

A gateway starts a ticker when a session is open, and never changes its settings.  So every ticker
that it starts has the interval of the settings that it was started with.

Main definitions:

- `Effect.isTicker`, `Paced`: a gateway whose tickers have an interval.

Main results:

- Theorem `Paced.handle`: an item starts no other ticker.
- Theorem `System.tickers_of_run`: no other ticker is started along any run.
-/

namespace TerminalGateway.Gateway

open TerminalGateway.Message (LifecycleKind Reply)

variable {World : Type}

/-- A ticker is started. -/
def Effect.isTicker : Effect → Bool
  | .startTicker _ _ => true
  | _ => false

/-- The tickers of a gateway have an interval, those in its journal and those to come. -/
def Paced (interval : Nat) (g : Gateway World) : Prop :=
  g.settings.probeInterval = interval ∧
    ∀ generation other, .startTicker generation other ∈ g.journal → other = interval

namespace Paced

variable {interval : Nat} {g next : Gateway World}

/-! ## Effects -/

/-- Only the settings and the journal matter. -/
theorem same (h : g.Paced interval) (hsettings : next.settings = g.settings)
    (hjournal : next.journal = g.journal) : next.Paced interval := by
  unfold Paced
  rw [hsettings, hjournal]
  exact h

/-- Effects that start no ticker may be added. -/
theorem append (h : g.Paced interval) {effects : List Effect}
    (hnone : ∀ effect ∈ effects, effect.isTicker = false) :
    { g with journal := g.journal ++ effects }.Paced interval := by
  refine ⟨h.1, fun generation other hmem => ?_⟩
  rcases List.mem_append.mp hmem with hold | hnew
  · exact h.2 generation other hold
  · exact nomatch hnone _ hnew

theorem record (h : g.Paced interval) {effect : Effect} (hnone : effect.isTicker = false) :
    (g.record effect).Paced interval :=
  h.append fun _ hmem => List.mem_singleton.mp hmem ▸ hnone

theorem publish (h : g.Paced interval) (event : Event) : (g.publish event).Paced interval := by
  refine h.append fun effect hmem => ?_
  rcases List.mem_map.mp hmem with ⟨sink, -, rfl⟩
  rfl

theorem publishAll (h : g.Paced interval) (events : List Event) :
    (g.publishAll events).Paced interval := by
  induction events generalizing g with
  | nil => exact h
  | cons event rest ih => exact ih (h.publish event)

theorem trigger (h : g.Paced interval) (trigger : Connection.Trigger) :
    (g.trigger trigger).Paced interval := by
  unfold Gateway.trigger
  rcases g.life.apply trigger with ⟨after, life⟩
  have hchanged : ({ g with life := life }.record (.triggered trigger after)).Paced interval :=
    record h rfl
  dsimp only
  split
  · exact hchanged
  · exact hchanged.publish _

theorem answer (h : g.Paced interval) (result : Except GatewayError Unit) :
    (g.answer result).Paced interval := by
  unfold Gateway.answer
  split
  · exact record h rfl
  · exact h

theorem writes (h : g.Paced interval) (hwrites : Writes g next) : next.Paced interval := by
  rcases hwrites with ⟨world, effects, rfl, hwriting⟩
  refine append h fun effect hmem => ?_
  have heffect := hwriting effect hmem
  cases effect <;> first | rfl | cases heffect

theorem closeWriter (h : g.Paced interval) (link : Link World) :
    (g.closeWriter link).Paced interval :=
  writes (g := { g with writer := none }) h (writes_closeWriter link g)

/-- The ticker that is started has the interval of the settings. -/
theorem startTicker (h : g.Paced interval) : g.startTicker.Paced interval := by
  refine ⟨h.1, fun generation other hmem => ?_⟩
  rcases List.mem_append.mp hmem with hold | hnew
  · exact h.2 generation other hold
  · cases List.mem_singleton.mp hnew
    exact h.1

theorem stopTasks (h : g.Paced interval) : g.stopTasks.Paced interval := by
  have hticker : g.stopTicker.Paced interval := by
    unfold stopTicker
    split
    · exact record h rfl
    · exact h
  unfold Gateway.stopTasks
  dsimp only
  split
  · exact record hticker rfl
  · exact hticker

theorem expire (h : g.Paced interval) (time : Reading) (bound : Nat) :
    (g.expire time bound).Paced interval := by
  unfold Gateway.expire
  rcases g.pending.expire time.now bound with ⟨ended, pending⟩
  have hkept : { g with pending := pending }.Paced interval := h.same rfl rfl
  refine publishAll (hkept.append fun effect hmem => ?_) _
  rcases List.mem_map.mp hmem with ⟨completed, -, rfl⟩
  rfl

/-! ## Sessions -/

theorem openSession (h : g.Paced interval) : g.openSession.Paced interval := by
  have hopened := h.trigger .connect
  unfold Gateway.openSession
  generalize g.trigger .connect = opened at hopened ⊢
  exact record (hopened.same rfl rfl) rfl

theorem onSessionOpen (h : g.Paced interval) (link : Link World) :
    (g.onSessionOpen link).Paced interval := by
  have hstage : { g with stage := .established }.Paced interval := h.same rfl rfl
  unfold Gateway.onSessionOpen
  refine ((trigger (writes ?_ (writes_replay link _)) .replayDone).startTicker).answer _
  exact same (hstage.trigger .sessionOpened) rfl rfl

theorem closeSession (h : g.Paced interval) (link : Link World) :
    (g.closeSession link).Paced interval :=
  ((h.stopTasks.writes (writes_sayGoodbye link _)).closeWriter link).same rfl rfl

theorem disconnect (h : g.Paced interval) (link : Link World) :
    (g.disconnect link).Paced interval := by
  unfold Gateway.disconnect
  split
  · exact h
  · exact (((h.trigger .close).answer _).closeSession link).trigger .closed

theorem shut (h : g.Paced interval) (link : Link World) (time : Reading) :
    (g.shut link time).Paced interval :=
  (h.disconnect link).expire time 0

theorem onRefused (h : g.Paced interval) (link : Link World) (time : Reading)
    (error : AuthError) : (g.onRefused link time error).Paced interval :=
  ((((h.trigger .authFailed).closeSession link).trigger .closed).expire time 0).answer _

theorem answerOrRetry (h : g.Paced interval) (time : Reading) (error : ConnectError) :
    (g.answerOrRetry time error).Paced interval := by
  unfold Gateway.answerOrRetry
  split
  · exact h.answer _
  · unfold retry
    rcases g.life.scheduleRetry with ⟨_ | delay, life⟩
    · have hkept : { g with life := life }.Paced interval := h.same rfl rfl
      exact hkept.expire time 0
    · have hcounted : { g with
          life := life
          counters := { g.counters with
            reconnects := g.counters.reconnects + 1 } }.Paced interval := h.same rfl rfl
      dsimp only
      split
      · exact hcounted.openSession
      · exact hcounted.record rfl

theorem onConnectFailed (h : g.Paced interval) (time : Reading) (error : ConnectError) :
    (g.onConnectFailed time error).Paced interval := by
  have hidle : { g with session := none, stage := .idle }.Paced interval := h.same rfl rfl
  exact (hidle.trigger .connectFailed).answerOrRetry time error

theorem onLost (h : g.Paced interval) (link : Link World) (time : Reading) :
    (g.onLost link time).Paced interval := by
  unfold Gateway.onLost
  split
  · exact h
  · have hclosed := h.stopTasks.closeWriter link
    dsimp only
    generalize g.stopTasks.closeWriter link = closed at hclosed ⊢
    have hidle : { closed.nextGeneration with stage := .idle }.Paced interval :=
      hclosed.same rfl rfl
    exact (hidle.trigger .unexpectedClose).answerOrRetry time _

/-! ## Messages -/

theorem onReply (h : g.Paced interval) (reply : Reply) : (g.onReply reply).Paced interval := by
  unfold Gateway.onReply
  rcases g.pending.resolve reply with ⟨decision, pending⟩
  have hkept : { g with pending := pending }.Paced interval := h.same rfl rfl
  cases decision with
  | completed ended => exact (hkept.record rfl).publish _
  | unrecognized _ => exact hkept.publish _
  | nothing => exact hkept

theorem onLifecycle (h : g.Paced interval) (link : Link World) (time : Reading)
    (kind : LifecycleKind) (payload : Json.Value) :
    (g.onLifecycle link time kind payload).Paced interval := by
  cases kind with
  | auth =>
      simp only [Gateway.onLifecycle, onLogin]
      split
      · split
        · exact h.onRefused link time _
        · split
          · exact h.onSessionOpen link
          · exact h
      · exact h
  | sessionOpen =>
      simp only [Gateway.onLifecycle, onTradeSession]
      split
      · split
        · exact h.onRefused link time _
        · exact h.onSessionOpen link
      · exact h
  | connectionStatus => exact h
  | feedAnswer => exact h

theorem onMessage (h : g.Paced interval) (link : Link World) (time : Reading)
    (message : Message) : (g.onMessage link time message).Paced interval := by
  have hread : ∀ read : Except DecodeError (List Event), (g.publishRead read).Paced interval := by
    intro read
    cases read with
    | ok events => exact h.publishAll events
    | error _ => exact h
  unfold Gateway.onMessage
  split
  · exact h.onLifecycle link time _ _
  · exact hread _
  · exact hread _
  · exact h.onReply _
  · exact h

theorem onFrame (h : g.Paced interval) (link : Link World) (time : Reading)
    (bytes : List UInt8) : (g.onFrame link time bytes).Paced interval := by
  have hcounted : { g with
      counters := { g.counters with frames := g.counters.frames + 1 } }.Paced interval := h
  unfold Gateway.onFrame
  dsimp only
  split
  · exact hcounted.onMessage link time _
  · exact h

/-! ## Items -/

theorem onSubscribe (h : g.Paced interval) (link : Link World) (asset : Asset) (sink : SinkId)
    (declared : List Capability) : (g.onSubscribe link asset sink declared).Paced interval := by
  unfold Gateway.onSubscribe
  rcases g.subscriptions.subscribe asset sink declared with ⟨subscribed, subscriptions⟩
  dsimp only
  split
  · exact writes (g := { g with subscriptions := subscriptions }) h
      (writes_requestFeed link _ asset)
  · exact h

theorem onSessionReady (h : g.Paced interval) (link : Link World) (generation writer : Nat) :
    (g.onSessionReady link generation writer).Paced interval := by
  unfold Gateway.onSessionReady
  split
  · exact writes (g := { g with writer := some writer }) h (writes_installWriter link g writer)
  · exact h.writes (writes_closeLine link g writer)

theorem probe (h : g.Paced interval) (link : Link World) : (g.probe link).Paced interval := by
  have hping := h.writes (writes_ping link g)
  unfold Gateway.probe
  split <;> rename_i next heq <;> rw [heq] at hping
  · exact hping
  · exact record (g := next.countProbe) hping rfl
  · exact hping

theorem onTransport (h : g.Paced interval) (link : Link World) (time : Reading)
    (event : Transport.Event) : (g.onTransport link time event).Paced interval := by
  cases event with
  | opened => exact writes (g := { g with stage := .auth }) h (writes_sendAll link _ _)
  | frame bytes => exact h.onFrame link time bytes
  | error text => exact h
  | closed reason => exact h.onLost link time
  | pong =>
      simp only [Gateway.onTransport, onPong]
      split
      · exact publish h _
      · exact h

/-- An item starts no ticker of another interval. -/
theorem handle (h : g.Paced interval) (link : Link World) (time : Reading) (item : Item) :
    (g.handle link time item).Paced interval := by
  cases item with
  | connect caller =>
      simp only [Gateway.handle, onConnect]
      split
      · exact openSession h
      · exact h.record rfl
  | close caller => exact (h.shut link time).record rfl
  | subscribe asset sink declared => exact h.onSubscribe link asset sink declared
  | unsubscribe asset sink => exact h
  | shutdown => exact (h.shut link time).answer _
  | sessionReady generation writer => exact h.onSessionReady link generation writer
  | connectFailed generation error =>
      simp only [Gateway.handle]
      split
      · exact h.onConnectFailed time error
      · exact h
  | transport generation event =>
      simp only [Gateway.handle]
      split
      · exact h.onTransport link time event
      · exact h
  | heartbeatTick generation =>
      simp only [Gateway.handle, onTick]
      split
      · split
        · exact h.onLost link time
        · exact h.probe link
      · exact h
  | expirySweep => exact h.expire time _
  | reconnect generation =>
      simp only [Gateway.handle, onReconnect]
      split
      · exact openSession h
      · exact h

theorem step (h : g.Paced interval) (link : Link World) (time : Reading) (item : Item) :
    (g.step link time item).Paced interval := by
  have hcleared : { g with journal := [] }.Paced interval := ⟨h.1, fun _ _ hmem => nomatch hmem⟩
  unfold Gateway.step
  split
  · exact hcleared.handle link time item
  · exact hcleared

end Paced

end TerminalGateway.Gateway

namespace TerminalGateway.System

open TerminalGateway.Gateway (Effect Link Paced)

variable {World : Type} {link : Link World}

/-- The tickers that were started along a run have an interval. -/
structure Ticks (interval : Nat) (s : System World) : Prop where
  paced : s.gateway.Paced interval
  tickers : ∀ generation other, .startTicker generation other ∈ s.log → other = interval

/-- A turn starts no ticker of another interval. -/
theorem Ticks.step {interval : Nat} {s next : System World} {turn : Turn}
    (h : s.Ticks interval) (hstep : s.step? link turn = some next) : next.Ticks interval := by
  have hcleared : s.cleared.Paced interval := ⟨h.paced.1, fun _ _ hmem => nomatch hmem⟩
  have hpaced : next.gateway.Paced interval := by
    cases turn with
    | item time item =>
        rcases Option.map_eq_some_iff.mp hstep with ⟨tasks, -, rfl⟩
        exact h.paced.step link time item
    | submit issuer intent =>
        cases hstep
        exact hcleared
    | advance time number =>
        rcases Option.map_eq_some_iff.mp hstep with ⟨submission, -, rfl⟩
        have hfiled : { s.cleared with
            pending := submission.filed time s.cleared.pending }.Paced interval :=
          hcleared.same rfl rfl
        exact hfiled.writes (submission.writes_step link time s.cleared)
    | raw text =>
        cases hstep
        exact hcleared.writes (Gateway.writes_sendRaw link _ text)
  rcases of_step hstep with ⟨-, -, -, hlog⟩
  refine ⟨hpaced, fun generation other hmem => ?_⟩
  rw [hlog] at hmem
  exact (List.mem_append.mp hmem).elim (h.tickers generation other) (hpaced.2 generation other)

/-- Every ticker along a run has the interval of the settings. -/
theorem tickers_of_run {settings : Settings} {world : World} {turns : List Turn}
    {s : System World} (hrun : (start settings world).run? link turns = some s) :
    s.Ticks settings.probeInterval := by
  have hsettings : (start settings world).gateway.settings = settings := rfl
  have hstart : (start settings world).Ticks settings.probeInterval :=
    ⟨⟨congrArg Settings.probeInterval hsettings, fun _ _ hmem => nomatch hmem⟩,
      fun _ _ hmem => nomatch hmem⟩
  refine run_induction (motive := fun _ s => s.Ticks settings.probeInterval) hstart ?_ hrun
  intro turns turn middle next hmiddle hticks hstep
  exact hticks.step hstep

end TerminalGateway.System
