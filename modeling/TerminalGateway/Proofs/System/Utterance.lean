import TerminalGateway.Proofs.System.Endings
import TerminalGateway.Proofs.Subscription.History

/-!
# What items make a gateway say

A gateway logs in when its connection is open, says goodbye before an open session is closed, and
asks for market data: of every asset with a sink while it enters a session, and of an asset that
is given its first sink while it is connected.  No other item makes it say anything.

Main definitions:

- `Gateway.utterance`: what a gateway says when it takes up an item.
- `Utters`: gateways that differ by what is said and by who is subscribed.

Main results:

- Theorem `utters_disconnect`, `utters_onSessionOpen`, `utters_onFrame`, `utters_onSubscribe`: the
  operations that say something.
- Theorem `utters_handle`: an item makes a gateway say what it should, and changes who is
  subscribed as it should.
-/

namespace TerminalGateway.Gateway

open TerminalGateway.Subscriptions (Call)

variable {World : Type}

/-! ## Texts for items -/

/-- The goodbye of a gateway whose session is open. -/
def goodbye (g : Gateway World) : List String :=
  if g.stage = .established then (Command.logout g.settings.dialect).toList else []

/-- What a gateway says on a verdict: on the entry into a session it asks for the market data of
every asset with a sink. -/
def verdictUtterance (g : Gateway World) : Option Verdict → List String
  | some .enter => g.subscriptions.assets.flatMap (feedFrames g.settings)
  | _ => []

/-- What a gateway says when it takes up an item. -/
def utterance (g : Gateway World) : Item → List String
  | .close _ => g.goodbye
  | .shutdown => g.goodbye
  | .subscribe asset sink declared =>
      if (g.subscriptions.subscribe asset sink declared).1.firstForAsset ∧ g.state = .connected then
        feedFrames g.settings asset
      else []
  | .transport generation .opened =>
      if generation = g.life.generation then
        Command.handshake g.settings.dialect g.settings.credentials.login
          g.settings.credentials.password g.settings.clientVersion
      else []
  | .transport generation (.frame bytes) =>
      if generation = g.life.generation then g.verdictUtterance (g.outline.core.verdict? bytes)
      else []
  | _ => []

/-- The call that an item makes to the subscriptions. -/
def Item.call? : Item → Option Call
  | .subscribe asset sink declared => some (.subscribe asset sink declared)
  | .unsubscribe asset sink => some (.unsubscribe asset sink)
  | _ => none

/-- The subscriptions after an item. -/
def heeded (g : Gateway World) (item : Item) : Subscriptions :=
  item.call?.elim g.subscriptions g.subscriptions.call

/-- The second gateway is the first after it has said some texts, with these subscriptions. -/
def Utters (subscriptions : Subscriptions) (texts : List String) (g next : Gateway World) : Prop :=
  ∃ effects, next.speech = ⟨subscriptions, g.speech.texts ++ effects⟩ ∧
    (Unfailing effects → effects = written g.writer texts)

/-- What leaves the speech of a gateway as it is says nothing. -/
theorem utters_of_speech_eq {g next : Gateway World} (h : next.speech = g.speech) :
    Utters g.subscriptions [] g next := by
  refine ⟨[], ?_, fun _ => (written_nil g.writer).symm⟩
  rw [h, List.append_nil]
  rfl

/-- What writes some texts says these. -/
theorem Sends.utters {g next : Gateway World} {texts : List String} (h : Sends texts g next) :
    Utters g.subscriptions texts g next := by
  rcases h.speech with ⟨effects, -, hspeech, hspoken⟩
  exact ⟨effects, hspeech, hspoken⟩

namespace Utters

variable {subscriptions : Subscriptions} {texts : List String} {g middle next last : Gateway World}

/-- What goes before a speech without saying anything does not matter to it. -/
theorem of_middle (h : Utters subscriptions texts middle next)
    (hspeech : middle.speech = g.speech) (hwriter : middle.writer = g.writer) :
    Utters subscriptions texts g next := by
  rcases h with ⟨effects, hnext, hspoken⟩
  exact ⟨effects, hspeech ▸ hnext, hwriter ▸ hspoken⟩

/-- What comes after a speech without saying anything does not matter to it. -/
theorem of_next (h : Utters subscriptions texts g next) (hspeech : last.speech = next.speech) :
    Utters subscriptions texts g last := by
  rcases h with ⟨effects, hnext, hspoken⟩
  exact ⟨effects, hspeech.trans hnext, hspoken⟩

end Utters

/-- The end of a session is preceded by the goodbye. -/
theorem utters_closeSession (link : Link World) (g : Gateway World) :
    Utters g.subscriptions g.goodbye g (g.closeSession link) := by
  have houtline := outline_stopTasks g
  have hwriter : g.stopTasks.writer = g.writer := congrArg (fun o => o.core.writer) houtline
  have hsettings : g.stopTasks.settings = g.settings :=
    congrArg (fun o => o.core.settings) houtline
  have hstage : g.stopTasks.stage = g.stage := congrArg (fun o => o.core.stage) houtline
  have hspeech : g.stopTasks.speech = g.speech := speech_stopTasks g
  have hgoodbye : Sends g.goodbye g.stopTasks (g.stopTasks.sayGoodbye link) := by
    unfold goodbye
    rw [← hstage, ← hsettings]
    exact sends_sayGoodbye link g.stopTasks
  have hsubscriptions : g.stopTasks.subscriptions = g.subscriptions :=
    congrArg Speech.subscriptions hspeech
  have hclosed : (g.closeSession link).speech = (g.stopTasks.sayGoodbye link).speech :=
    speech_closeWriter link _
  exact hsubscriptions ▸ (hgoodbye.utters.of_middle hspeech hwriter).of_next hclosed

/-- Closing a gateway takes leave of the terminal. -/
theorem utters_disconnect (link : Link World) (g : Gateway World)
    (hidle : g.state = .disconnected → g.stage = .idle) :
    Utters g.subscriptions g.goodbye g (g.disconnect link) := by
  unfold disconnect
  split <;> rename_i hstate
  · have hnothing : g.goodbye = [] := by simp [goodbye, hidle hstate]
    rw [hnothing]
    exact utters_of_speech_eq rfl
  · have houtline := outline_answer (g.trigger .close) (.error .closed)
    rw [outline_trigger] at houtline
    have hspeech : ((g.trigger .close).answer (.error .closed)).speech = g.speech := by simp
    generalize (g.trigger .close).answer (.error .closed) = middle at houtline hspeech
    have hwriter : middle.writer = g.writer := congrArg (fun o => o.core.writer) houtline
    have hgoodbye : middle.goodbye = g.goodbye := by
      have hsettings : middle.settings = g.settings :=
        congrArg (fun o => o.core.settings) houtline
      have hstage : middle.stage = g.stage := congrArg (fun o => o.core.stage) houtline
      rw [goodbye, goodbye, hsettings, hstage]
    have hsubscriptions : middle.subscriptions = g.subscriptions :=
      congrArg Speech.subscriptions hspeech
    have hclose := utters_closeSession link middle
    rw [hsubscriptions, hgoodbye] at hclose
    exact (hclose.of_middle hspeech hwriter).of_next (speech_trigger _ _)

/-- A refusal of a session that is not open takes no leave. -/
theorem utters_onRefused (link : Link World) (g : Gateway World) (time : Reading)
    (error : AuthError) (hstage : g.stage ≠ .established) :
    Utters g.subscriptions [] g (g.onRefused link time error) := by
  have houtline := outline_trigger g .authFailed
  have hspeech : (g.trigger .authFailed).speech = g.speech := speech_trigger g .authFailed
  have hlast : (g.onRefused link time error).speech =
      ((g.trigger .authFailed).closeSession link).speech := by
    unfold onRefused
    simp
  generalize g.trigger .authFailed = middle at houtline hspeech hlast
  have hwriter : middle.writer = g.writer := congrArg (fun o => o.core.writer) houtline
  have hgoodbye : middle.goodbye = [] := by
    have hkept : middle.stage = g.stage := congrArg (fun o => o.core.stage) houtline
    rw [goodbye, hkept, if_neg hstage]
  have hsubscriptions : middle.subscriptions = g.subscriptions :=
    congrArg Speech.subscriptions hspeech
  have hclose := utters_closeSession link middle
  rw [hsubscriptions, hgoodbye] at hclose
  exact (hclose.of_middle hspeech hwriter).of_next hlast

/-- The entry into a session asks for the market data of every asset with a sink. -/
theorem utters_onSessionOpen (link : Link World) (g : Gateway World) :
    Utters g.subscriptions (g.subscriptions.assets.flatMap (feedFrames g.settings)) g
      (g.onSessionOpen link) := by
  let busy := { g with stage := .established }.trigger .sessionOpened
  let ready := { busy with
    life := busy.life.resetRetries, heartbeat := busy.heartbeat.resetProbes }
  have hopen : g.onSessionOpen link =
      (((ready.replay link).trigger .replayDone).startTicker).answer (.ok ()) := rfl
  rcases kept_trigger { g with stage := .established } .sessionOpened with
    ⟨-, hwriter, hsettings, hsubscriptions⟩
  have hspeech : ready.speech = g.speech := speech_trigger { g with stage := .established } _
  have hsame : ready.settings = g.settings ∧ ready.subscriptions = g.subscriptions :=
    ⟨hsettings, hsubscriptions⟩
  have hreplay := (sends_replay link ready).utters
  rw [hsame.1, hsame.2] at hreplay
  refine (hreplay.of_middle hspeech hwriter).of_next ?_
  rw [hopen, speech_answer, speech_startTicker, speech_trigger]

/-- A message that decides no login says nothing. -/
theorem speech_onMessage (link : Link World) (g : Gateway World) (time : Reading)
    {message : Message} (hverdict : g.outline.core.verdictOn? message = none) :
    (g.onMessage link time message).speech = g.speech := by
  cases hkind : message.kind with
  | lifecycle kind => rw [onMessage_of_lifecycle link g time hkind, hverdict]; rfl
  | market kind => simp [onMessage, hkind]
  | account kind => simp [onMessage, hkind]
  | reply reply => simp [onMessage, hkind]
  | unhandled =>
      simp only [onMessage, hkind]
      rfl

/-- A frame that decides no login says nothing. -/
theorem speech_onFrame (link : Link World) (g : Gateway World) (time : Reading)
    {bytes : List UInt8} (hverdict : g.outline.core.verdict? bytes = none) :
    (g.onFrame link time bytes).speech = g.speech := by
  unfold Core.verdict? at hverdict
  cases hdecode : Message.decode g.settings.encoding bytes with
  | ok message =>
      have hcore : g.outline.core.settings = g.settings := rfl
      rw [hcore, hdecode] at hverdict
      rw [onFrame_of_decode link time hdecode]
      exact speech_onMessage link g.countFrame time hverdict
  | error _ =>
      simp only [onFrame, hdecode]
      rfl

/-- A frame says nothing but on the entry into a session. -/
theorem utters_onFrame (link : Link World) (g : Gateway World) (time : Reading)
    (bytes : List UInt8) :
    Utters g.subscriptions (g.verdictUtterance (g.outline.core.verdict? bytes)) g
      (g.onFrame link time bytes) := by
  cases hverdict : g.outline.core.verdict? bytes with
  | none => exact utters_of_speech_eq (speech_onFrame link g time hverdict)
  | some verdict =>
      rw [System.onFrame_of_verdict? link time hverdict]
      cases verdict with
      | proceed => exact utters_of_speech_eq rfl
      | enter => exact utters_onSessionOpen link g.countFrame
      | refuse error =>
          refine utters_onRefused link g.countFrame time error fun hstage => ?_
          have hcore : g.outline.core.stage = .established := hstage
          simpa [hcore] using stage_of_verdict? hverdict

/-- Only the first sink of an asset makes a gateway ask for its market data, if connected. -/
theorem utters_onSubscribe (link : Link World) (g : Gateway World) (asset : Asset)
    (sink : SinkId) (declared : List Capability) :
    Utters (g.subscriptions.subscribe asset sink declared).2
      (if (g.subscriptions.subscribe asset sink declared).1.firstForAsset ∧ g.state = .connected
        then feedFrames g.settings asset else []) g
      (g.onSubscribe link asset sink declared) := by
  unfold onSubscribe
  rcases g.subscriptions.subscribe asset sink declared with ⟨subscribed, subscriptions⟩
  dsimp only
  have hstate : { g with subscriptions := subscriptions }.state = g.state := rfl
  rw [hstate]
  split
  · exact (sends_requestFeed link { g with subscriptions := subscriptions } asset).utters
  · exact utters_of_speech_eq (g := { g with subscriptions := subscriptions }) rfl

/-- What the connection of the current session reports makes a gateway say what it should. -/
theorem utters_onTransport (link : Link World) (g : Gateway World) (time : Reading)
    (event : Transport.Event) :
    Utters g.subscriptions (g.utterance (.transport g.life.generation event)) g
      (g.onTransport link time event) := by
  cases event with
  | opened =>
      simp only [utterance, if_pos]
      exact (sends_sendAll link { g with stage := .auth } _).utters
  | frame bytes =>
      simp only [utterance, if_pos]
      exact utters_onFrame link g time bytes
  | error text => exact utters_of_speech_eq rfl
  | closed reason => exact utters_of_speech_eq (speech_onLost link g time)
  | pong => exact utters_of_speech_eq (speech_onPong g time)

/-- An item makes a gateway say what it should, and changes who is subscribed as it should. -/
theorem utters_handle (link : Link World) (g : Gateway World) (time : Reading) (item : Item)
    (hidle : g.state = .disconnected → g.stage = .idle) :
    Utters (g.heeded item) (g.utterance item) g (g.handle link time item) := by
  cases item with
  | connect caller => exact utters_of_speech_eq (speech_onConnect g caller)
  | close caller =>
      have hlast : (g.handle link time (.close caller)).speech = (g.disconnect link).speech :=
        (speech_record _ rfl).trans (speech_expireAll _ time)
      exact (utters_disconnect link g hidle).of_next hlast
  | shutdown =>
      have hlast : (g.handle link time .shutdown).speech = (g.disconnect link).speech :=
        (speech_answer _ _).trans (speech_expireAll _ time)
      exact (utters_disconnect link g hidle).of_next hlast
  | subscribe asset sink declared => exact utters_onSubscribe link g asset sink declared
  | unsubscribe asset sink =>
      exact utters_of_speech_eq
        (g := { g with subscriptions := (g.subscriptions.unsubscribe asset sink).2 }) rfl
  | sessionReady generation writer =>
      exact utters_of_speech_eq (speech_onSessionReady link g generation writer)
  | connectFailed generation error =>
      refine utters_of_speech_eq ?_
      simp only [handle]
      split
      · exact speech_onConnectFailed g time error
      · rfl
  | transport generation event =>
      by_cases hcurrent : generation = g.life.generation
      · subst hcurrent
        have htransport : g.handle link time (.transport g.life.generation event) =
            g.onTransport link time event := by
          simp [handle]
        rw [htransport]
        exact utters_onTransport link g time event
      · have hnothing : g.utterance (.transport generation event) = [] := by
          cases event <;> simp [utterance, hcurrent]
        rw [hnothing]
        refine utters_of_speech_eq ?_
        simp [handle, hcurrent]
  | heartbeatTick generation => exact utters_of_speech_eq (speech_onTick link g time generation)
  | expirySweep => exact utters_of_speech_eq (speech_expire g time _)
  | reconnect generation => exact utters_of_speech_eq (speech_onReconnect g generation)

end TerminalGateway.Gateway
