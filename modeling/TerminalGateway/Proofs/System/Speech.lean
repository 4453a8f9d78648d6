import TerminalGateway.Proofs.System.Outline
import Mathlib.Data.List.Induction

/-!
# What a gateway says

The texts that a gateway writes to its connection.  Few operations write any: the login, the
requests for market data, and the goodbye.  Texts are written one by one up to the first that
fails, so if none fails all of them are written.

Main definitions:

- `Effect.isText`, `Speech`, `speech`: what is subscribed to, and the texts in the journal.
- `Unfailing`: a log in which every text was written.
- `Sends`: gateways that differ by texts.
- `feedFrames`: the texts that ask for the market data of an asset.

Main results:

- Theorem `sends_sendAll`, `sends_requestFeed`, `sends_replay`, `sends_sayGoodbye`: what is said.
- Theorem `speech_onLost`, `speech_onConnectFailed`, `speech_onConnect`: the operations that say nothing.
- Theorem `journal_onSessionOpen`: all requests come before the connection is open.
-/

namespace TerminalGateway.Gateway

variable {World : Type}

/-- A text that is written, or is tried to be. -/
def Effect.isText : Effect → Bool
  | .wrote _ _ _ => true
  | _ => false

/-- What a gateway says, and what it says it for. -/
structure Speech where
  subscriptions : Subscriptions
  /-- The texts in the journal. -/
  texts : List Effect

/-- The speech of a gateway. -/
def speech (g : Gateway World) : Speech where
  subscriptions := g.subscriptions
  texts := g.journal.filter Effect.isText

/-- A text that could not be written. -/
def Effect.isFailure : Effect → Bool
  | .wrote _ _ (.error _) => true
  | _ => false

/-- Every text was written. -/
def Unfailing (log : List Effect) : Prop :=
  ∀ effect ∈ log, effect.isFailure = false

instance (log : List Effect) : Decidable (Unfailing log) :=
  inferInstanceAs (Decidable (∀ effect ∈ log, effect.isFailure = false))

theorem unfailing_append {first second : List Effect} :
    Unfailing (first ++ second) ↔ Unfailing first ∧ Unfailing second :=
  List.forall_mem_append

/-- What is left by texts that are all written; nothing can be where there is no writer. -/
def written (writer : Option Nat) (texts : List String) : List Effect :=
  match writer with
  | some writer => texts.map fun text => .wrote writer text (.ok ())
  | none => []

theorem written_nil (writer : Option Nat) : written writer [] = [] := by
  cases writer <;> rfl

theorem written_append (writer : Option Nat) (first second : List String) :
    written writer (first ++ second) = written writer first ++ written writer second := by
  cases writer <;> simp [written]

/-- The second gateway is the first after it has written texts, all of them unless there is no
writer or one fails. -/
def Sends (texts : List String) (g next : Gateway World) : Prop :=
  ∃ world effects, next = { g with world := world, journal := g.journal ++ effects } ∧
    (∀ effect ∈ effects, effect.isText = true) ∧
    (Unfailing effects → effects = written g.writer texts)

/-! ## Texts -/

section

variable {g middle next : Gateway World} {first second texts : List String}

theorem Sends.refl (g : Gateway World) : Sends [] g g :=
  ⟨g.world, [], by simp, by simp, fun _ => (written_nil g.writer).symm⟩

theorem Sends.trans (hfirst : Sends first g middle) (hsecond : Sends second middle next) :
    Sends (first ++ second) g next := by
  rcases hfirst with ⟨_, early, rfl, hearly, hfirst⟩
  rcases hsecond with ⟨world, late, rfl, hlate, hsecond⟩
  refine ⟨world, early ++ late, by simp, fun effect heffect => ?_, fun hunfailing => ?_⟩
  · exact (List.mem_append.mp heffect).elim (hearly effect) (hlate effect)
  · rw [unfailing_append] at hunfailing
    rw [hfirst hunfailing.1, hsecond hunfailing.2, written_append]

/-- What is said leaves the rest of the gateway as it is. -/
theorem Sends.kept (h : Sends texts g next) :
    next.writer = g.writer ∧ next.settings = g.settings ∧ next.life = g.life := by
  rcases h with ⟨_, _, rfl, _⟩
  exact ⟨rfl, rfl, rfl⟩

/-- What is said comes last in the journal. -/
theorem Sends.speech (h : Sends texts g next) :
    ∃ effects, next.journal = g.journal ++ effects ∧
      next.speech = { g.speech with texts := g.speech.texts ++ effects } ∧
      (Unfailing effects → effects = written g.writer texts) := by
  rcases h with ⟨_, effects, rfl, htexts, hspoken⟩
  refine ⟨effects, rfl, ?_, hspoken⟩
  simp [Gateway.speech, List.filter_eq_self.mpr htexts]

end

/-- A text is written with the writer of the session. -/
theorem send_of_writer (link : Link World) {g : Gateway World} {w : Nat}
    (hwriter : g.writer = some w) (text : String) :
    g.send link text = ((link.send g.world w text).1,
      { g with world := (link.send g.world w text).2 }.record
        (.wrote w text (link.send g.world w text).1)) := by
  simp only [send, hwriter]

/-- Texts are written one by one, up to the first that fails. -/
theorem sends_sendAll (link : Link World) (g : Gateway World) (texts : List String) :
    Sends texts g (g.sendAll link texts) := by
  induction texts generalizing g with
  | nil => exact .refl g
  | cons text rest ih =>
      unfold sendAll
      cases hwriter : g.writer with
      | none =>
          simp only [send, hwriter]
          exact ⟨g.world, [], by simp, by simp, fun _ => by rw [hwriter]; rfl⟩
      | some w =>
          rw [send_of_writer link hwriter]
          rcases link.send g.world w text with ⟨result, world⟩
          cases result with
          | ok _ =>
              have hone : Sends [text] g
                  ({ g with world := world }.record (.wrote w text (.ok ()))) := by
                refine ⟨world, [.wrote w text (.ok ())], rfl, by simp [Effect.isText], fun _ => ?_⟩
                rw [hwriter]
                rfl
              exact hone.trans (ih _)
          | error error =>
              refine ⟨world, [.wrote w text (.error error)], rfl, by simp [Effect.isText], ?_⟩
              intro hunfailing
              exact absurd (hunfailing _ List.mem_cons_self) (by simp [Effect.isFailure])

/-- The texts that ask for the market data of an asset; none for the wildcard. -/
def feedFrames (settings : Settings) (asset : Asset) : List String :=
  match Command.feedRequest settings.dialect asset settings.feed.period settings.feed.depth with
  | .ok frames => frames
  | .error _ => []

/-- An asset other than the wildcard can always be asked for. -/
theorem feedRequest_of_ne_any (settings : Settings) {asset : Asset} (hasset : asset ≠ .any) :
    Command.feedRequest settings.dialect asset settings.feed.period settings.feed.depth =
      .ok (feedFrames settings asset) ∧ feedFrames settings asset ≠ [] := by
  cases asset with
  | any => exact absurd rfl hasset
  | instrument classCode secCode =>
      unfold feedFrames
      cases settings.dialect with
      | web => exact ⟨rfl, by simp [Command.feedRequest, Command.quotesRequest,
          Command.bookRequest, Command.codesOf, Asset.codes?, bind, Except.bind, pure,
          Except.pure]⟩
      | bridge => exact ⟨rfl, by simp [Command.feedRequest, Command.tradesRequest,
          Command.codesOf, Asset.codes?, bind, Except.bind, pure, Except.pure]⟩

/-- The market data of an asset is asked for. -/
theorem sends_requestFeed (link : Link World) (g : Gateway World) (asset : Asset) :
    Sends (feedFrames g.settings asset) g (g.requestFeed link asset) := by
  unfold requestFeed feedFrames
  cases Command.feedRequest g.settings.dialect asset g.settings.feed.period
      g.settings.feed.depth with
  | ok frames => exact sends_sendAll link g frames
  | error _ => exact .refl g

/-- The market data of every asset with a sink is asked for, in the order of the assets. -/
theorem sends_replay (link : Link World) (g : Gateway World) :
    Sends (g.subscriptions.assets.flatMap (feedFrames g.settings)) g (g.replay link) := by
  have hall : ∀ assets : List Asset, Sends (assets.flatMap (feedFrames g.settings)) g
      (assets.foldl (fun g asset => g.requestFeed link asset) g) := by
    intro assets
    induction assets using List.reverseRecOn with
    | nil => exact .refl g
    | append_singleton assets asset ih =>
        rw [List.foldl_append, List.flatMap_append, List.flatMap_singleton]
        have hlast := sends_requestFeed link
          (assets.foldl (fun g asset => g.requestFeed link asset) g) asset
        rw [ih.kept.2.1] at hlast
        exact ih.trans hlast
  exact hall _

/-- An open session is left with a goodbye, where the dialect has one. -/
theorem sends_sayGoodbye (link : Link World) (g : Gateway World) :
    Sends (if g.stage = .established then (Command.logout g.settings.dialect).toList else [])
      g (g.sayGoodbye link) := by
  unfold sayGoodbye
  split
  · exact sends_sendAll link g _
  · exact .refl g

/-! ## Operations that say nothing -/

theorem speech_record (g : Gateway World) {effect : Effect} (h : effect.isText = false) :
    (g.record effect).speech = g.speech := by
  simp [speech, record, h]

@[simp] theorem speech_publish (g : Gateway World) (event : Event) :
    (g.publish event).speech = g.speech := by
  simp [speech, publish, Effect.isText]

@[simp] theorem speech_publishAll (g : Gateway World) (events : List Event) :
    (g.publishAll events).speech = g.speech := by
  induction events generalizing g with
  | nil => rfl
  | cons event rest ih => exact (ih (g.publish event)).trans (speech_publish g event)

@[simp] theorem speech_trigger (g : Gateway World) (trigger : Connection.Trigger) :
    (g.trigger trigger).speech = g.speech := by
  unfold Gateway.trigger
  rcases g.life.apply trigger with ⟨after, life⟩
  dsimp only
  split
  · exact speech_record _ rfl
  · exact (speech_publish _ _).trans (speech_record _ rfl)

@[simp] theorem speech_nextGeneration (g : Gateway World) : g.nextGeneration.speech = g.speech :=
  rfl

@[simp] theorem speech_answer (g : Gateway World) (result : Except GatewayError Unit) :
    (g.answer result).speech = g.speech := by
  unfold answer
  split
  · exact speech_record _ rfl
  · rfl

@[simp] theorem speech_closeLine (link : Link World) (g : Gateway World) (writer : Nat) :
    (g.closeLine link writer).speech = g.speech :=
  speech_record _ rfl

@[simp] theorem speech_closeWriter (link : Link World) (g : Gateway World) :
    (g.closeWriter link).speech = g.speech := by
  unfold closeWriter
  split
  · rfl
  · exact speech_closeLine link _ _

@[simp] theorem speech_installWriter (link : Link World) (g : Gateway World) (writer : Nat) :
    (g.installWriter link writer).speech = g.speech := by
  unfold installWriter
  split
  · rfl
  · exact speech_closeLine link _ _

@[simp] theorem speech_expire (g : Gateway World) (time : Reading) (bound : Nat) :
    (g.expire time bound).speech = g.speech := by
  unfold expire
  rcases g.pending.expire time.now bound with ⟨ended, pending⟩
  dsimp only
  rw [speech_publishAll]
  simp [speech, Effect.isText]

@[simp] theorem speech_expireAll (g : Gateway World) (time : Reading) :
    (g.expireAll time).speech = g.speech :=
  speech_expire g time 0

@[simp] theorem speech_openSession (g : Gateway World) : g.openSession.speech = g.speech :=
  (speech_record _ rfl).trans (speech_trigger g .connect)

@[simp] theorem speech_stopTicker (g : Gateway World) : g.stopTicker.speech = g.speech := by
  unfold stopTicker
  split
  · exact speech_record _ rfl
  · rfl

@[simp] theorem speech_stopTasks (g : Gateway World) : g.stopTasks.speech = g.speech := by
  unfold stopTasks
  dsimp only
  split
  · exact (speech_record _ rfl).trans (speech_stopTicker g)
  · exact speech_stopTicker g

@[simp] theorem speech_startTicker (g : Gateway World) : g.startTicker.speech = g.speech :=
  speech_record _ rfl

@[simp] theorem speech_answerOrRetry (g : Gateway World) (time : Reading) (error : ConnectError) :
    (g.answerOrRetry time error).speech = g.speech := by
  unfold answerOrRetry
  split
  · exact speech_answer g _
  · unfold retry
    split
    · exact speech_expireAll _ time
    · dsimp only
      split
      · exact speech_openSession _
      · exact speech_record _ rfl

@[simp] theorem speech_onConnectFailed (g : Gateway World) (time : Reading)
    (error : ConnectError) : (g.onConnectFailed time error).speech = g.speech :=
  (speech_answerOrRetry _ time error).trans (speech_trigger _ _)

@[simp] theorem speech_onLost (link : Link World) (g : Gateway World) (time : Reading) :
    (g.onLost link time).speech = g.speech := by
  have hstage : ∀ g' : Gateway World, { g' with stage := .idle }.speech = g'.speech := fun _ => rfl
  unfold onLost
  split
  · rfl
  · simp [hstage]

@[simp] theorem speech_onReply (g : Gateway World) (reply : Message.Reply) :
    (g.onReply reply).speech = g.speech := by
  unfold onReply
  rcases g.pending.resolve reply with ⟨decision, pending⟩
  cases decision with
  | nothing => rfl
  | completed ended => exact (speech_publish _ _).trans (speech_record _ rfl)
  | unrecognized id => exact speech_publish _ _

@[simp] theorem speech_publishRead (g : Gateway World) (read : Except DecodeError (List Event)) :
    (g.publishRead read).speech = g.speech := by
  cases read with
  | ok events => exact speech_publishAll g events
  | error _ => rfl

@[simp] theorem speech_onConnect (g : Gateway World) (caller : Nat) :
    (g.onConnect caller).speech = g.speech := by
  unfold onConnect
  split
  · exact speech_openSession _
  · exact speech_record _ rfl

@[simp] theorem speech_onSessionReady (link : Link World) (g : Gateway World)
    (generation writer : Nat) : (g.onSessionReady link generation writer).speech = g.speech := by
  unfold onSessionReady
  split
  · exact speech_installWriter link g writer
  · exact speech_closeLine link g writer

@[simp] theorem speech_onPong (g : Gateway World) (time : Reading) :
    (g.onPong time).speech = g.speech := by
  unfold onPong
  rcases g.heartbeat.onPong time.wall with ⟨beat, heartbeat⟩
  dsimp only
  split
  · exact speech_publish _ _
  · rfl

@[simp] theorem speech_probe (link : Link World) (g : Gateway World) :
    (g.probe link).speech = g.speech := by
  have hping : (g.ping link).2.speech = g.speech := by
    unfold ping
    split
    · rfl
    · exact speech_record _ rfl
  unfold probe
  split <;> rename_i next heq <;> rw [heq] at hping
  · exact hping
  · exact (speech_record _ rfl).trans hping
  · exact hping

@[simp] theorem speech_onTick (link : Link World) (g : Gateway World) (time : Reading)
    (generation : Nat) : (g.onTick link time generation).speech = g.speech := by
  unfold onTick
  split
  · split
    · exact speech_onLost link g time
    · exact speech_probe link g
  · rfl

@[simp] theorem speech_onReconnect (g : Gateway World) (generation : Nat) :
    (g.onReconnect generation).speech = g.speech := by
  unfold onReconnect
  split
  · exact speech_openSession g
  · rfl

/-! ## The entry into an open session -/

/-- A trigger is followed by nothing but calls of sinks. -/
theorem journal_trigger (g : Gateway World) (trigger : Connection.Trigger) :
    ∃ calls, (g.trigger trigger).journal =
        g.journal ++ .triggered trigger (g.life.apply trigger).1 :: calls ∧
      ∀ effect ∈ calls, effect.isText = false ∧ effect.isMark = false := by
  unfold Gateway.trigger
  rcases g.life.apply trigger with ⟨after, life⟩
  dsimp only
  split
  · exact ⟨[], rfl, by simp⟩
  · refine ⟨(g.subscriptions.publish (.state life.state)).called.map fun sink =>
      .called sink (.state life.state), by simp [publish, record], fun effect heffect => ?_⟩
    rcases List.mem_map.mp heffect with ⟨sink, -, rfl⟩
    exact ⟨rfl, rfl⟩

/-- A trigger changes the life of the connection only. -/
theorem kept_trigger (g : Gateway World) (trigger : Connection.Trigger) :
    (g.trigger trigger).life = (g.life.apply trigger).2 ∧
      (g.trigger trigger).writer = g.writer ∧ (g.trigger trigger).settings = g.settings ∧
      (g.trigger trigger).subscriptions = g.subscriptions := by
  unfold Gateway.trigger
  rcases g.life.apply trigger with ⟨after, life⟩
  dsimp only
  split <;> exact ⟨rfl, rfl, rfl, rfl⟩

/-- An answer adds one effect at most, and it is no text. -/
theorem journal_answer (g : Gateway World) (result : Except GatewayError Unit) :
    (g.answer result).journal =
      g.journal ++ (g.caller.map (Effect.answered · result)).toList := by
  cases hcaller : g.caller with
  | none => simp [answer, hcaller]
  | some caller => simp [answer, hcaller, record]

/-- While a session is entered, the market data of every asset with a sink is asked for before
the connection is open and the caller who waits is answered. -/
theorem journal_onSessionOpen (link : Link World) {g : Gateway World}
    (hstate : g.life.state = .connecting) :
    ∃ calls requests later, (g.onSessionOpen link).journal =
        g.journal ++ .triggered .sessionOpened (some .busy) :: calls ++ requests ++
          .triggered .replayDone (some .connected) :: later ∧
      (∀ effect ∈ calls, effect.isText = false ∧ effect.isMark = false) ∧
      (∀ effect ∈ requests, effect.isText = true) ∧
      (∀ effect ∈ later, effect.isText = false) ∧
      (Unfailing requests →
        requests = written g.writer (g.subscriptions.assets.flatMap (feedFrames g.settings))) := by
  let busy := { g with stage := .established }.trigger .sessionOpened
  let ready := { busy with
    life := busy.life.resetRetries, heartbeat := busy.heartbeat.resetProbes }
  let opened := ((ready.replay link).trigger .replayDone).startTicker
  have hopen : g.onSessionOpen link = opened.answer (.ok ()) := rfl
  rcases kept_trigger { g with stage := .established } .sessionOpened with
    ⟨hlife, hwriter, hsettings, hsubscriptions⟩
  rcases journal_trigger { g with stage := .established } .sessionOpened with
    ⟨calls, hjournal, hcalls⟩
  have hbusy : g.life.apply .sessionOpened = (some .busy, { g.life with state := .busy }) := by
    simp [Connection.Lifecycle.apply, Connection.next?, hstate]
  rw [hbusy] at hlife hjournal
  rcases sends_replay link ready with ⟨world, requests, hreplay, hrequests, hspoken⟩
  rcases journal_trigger (ready.replay link) .replayDone with ⟨news, hnews, hsilent⟩
  have hdone : ((ready.replay link).life.apply .replayDone).1 = some .connected := by
    have hstill : (ready.replay link).life.state = .busy := by
      rw [hreplay]
      exact congrArg Connection.Lifecycle.state hlife
    simp [Connection.Lifecycle.apply, Connection.next?, hstill]
  rw [hdone] at hnews
  let ticker : Effect := .startTicker opened.life.generation opened.settings.probeInterval
  refine ⟨calls, requests,
    news ++ ticker :: (opened.caller.map (Effect.answered · (.ok ()))).toList, ?_, hcalls,
    hrequests, ?_, ?_⟩
  · have hticker : opened.journal =
        ((ready.replay link).trigger .replayDone).journal ++ [ticker] := rfl
    have hready : (ready.replay link).journal = busy.journal ++ requests := by rw [hreplay]
    rw [hopen, journal_answer, hticker, hnews, hready, hjournal]
    simp
  · intro effect heffect
    simp only [List.mem_append, List.mem_cons] at heffect
    rcases heffect with hmem | rfl | hmem
    · exact (hsilent effect hmem).1
    · rfl
    · rcases Option.map_eq_some_iff.mp (Option.mem_toList.mp hmem) with ⟨caller, -, rfl⟩
      rfl
  · intro hunfailing
    have hsame : ready.writer = g.writer ∧ ready.settings = g.settings ∧
        ready.subscriptions = g.subscriptions := ⟨hwriter, hsettings, hsubscriptions⟩
    rw [hspoken hunfailing, hsame.1, hsame.2.1, hsame.2.2]

end TerminalGateway.Gateway
