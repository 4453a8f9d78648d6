import TerminalGateway.Proofs.Subscription.Delivery
import TerminalGateway.Proofs.System.Closing
import TerminalGateway.Proofs.System.Pulse
import Mathlib.Data.List.DropRight

/-!
# Watching over a session

An open session is probed at regular times, and one that leaves too many probes unanswered is taken
for lost.  A gateway only keeps a count of the probes, which outlives the session; what the count
should be is read here off the history of a run, as the probes that were sent in the current session
since it was opened, or since the last answer.

Main definitions:

- `System.Pulse`, `System.pulses`: the answers, the openings of sessions and the probes of a run.
- `System.outstanding`: the probes of a session that are unanswered by a history.
- `Gateway.Core.decided`: the one decision that is made after a session that nobody waits for.
- `System.Loses`, `System.Watches`: a session is lost, and how a gateway watches over a session.
- `System.heard`: the counts of answers that a sink was told.

Main results:

- Theorem `System.lives_of_step`: what a turn does to the counts, with the effects that go with it.
- Theorem `System.attentive_of_run`: the counts are those of the history.
- Theorem `System.watches_of_run`: a session is lost exactly when too many probes are unanswered.
-/

namespace TerminalGateway

namespace Gateway

variable {World : Type}

/-! ## The loss of a session that nobody waits for -/

/-- The one decision on another attempt to connect that is made when a session ended without being
asked to: to make it at once, after a delay, or never. -/
def Core.decided (c : Core) : Outline :=
  match c.life.policy.delay? c.life.attempts with
  | none => ⟨c, []⟩
  | some 0 => ⟨c.counted.opening, c.counted.openingMarks⟩
  | some delay => ⟨c.counted, [.retryAfter c.life.generation delay]⟩

/-- Whatever is decided, there is no open session. -/
theorem Core.state_decided {c : Core} (hstate : c.life.state = .disconnected) :
    c.decided.core.life.state ≠ .connected := by
  unfold decided
  split
  · simp [hstate]
  · simp [opening]
  · simp [counted, hstate]

/-- Where nobody waits, the one decision is made. -/
theorem outline_answerOrRetry_of_no_caller {g : Gateway World} (time : Reading)
    (error : ConnectError) (hstate : g.outline.core.life.state = .disconnected)
    (hcaller : g.caller = none) :
    (g.answerOrRetry time error).outline =
      ⟨g.outline.core.decided.core, g.outline.marks ++ g.outline.core.decided.marks⟩ := by
  have hlife : g.outline.core.life = g.life := rfl
  have hretry : g.answerOrRetry time error = g.retry time := by
    simp only [answerOrRetry, hcaller]
  rw [hretry, Core.decided, hlife]
  unfold retry Connection.Lifecycle.scheduleRetry
  cases g.life.policy.delay? g.life.attempts with
  | none =>
      dsimp only
      rw [outline_expireAll, List.append_nil]
  | some delay =>
      dsimp only
      cases delay with
      | zero =>
          rw [if_pos rfl, outline_openSession (by exact hstate)]
          rfl
      | succ delay =>
          rw [if_neg (Nat.succ_ne_zero delay), outline_record_of_isMark _ rfl]
          rfl

theorem effects_answerOrRetry (g : Gateway World) (time : Reading) (error : ConnectError) :
    (g.answerOrRetry time error).dealings.effects = g.dealings.effects := by
  have hopen : ∀ g' : Gateway World, g'.openSession.dealings.effects = g'.dealings.effects := by
    intro g'
    have hstart : g'.openSession.dealings.effects =
        (g'.trigger .connect).dealings.effects := by
      simp [openSession, nextGeneration, record, dealings, Effect.isDealing]
    rw [hstart, dealings_trigger]
  unfold answerOrRetry
  split
  · rw [dealings_answer]
  · unfold retry
    split
    · rw [dealings_expireAll]
      rfl
    · dsimp only
      split
      · exact hopen _
      · rw [dealings_record_of_not_isDealing _ rfl]
        rfl

/-- A session that is lost is left without a goodbye. -/
theorem effects_onLost (link : Link World) (g : Gateway World) (time : Reading)
    (hopen : ¬ (g.state = .disconnected ∨ g.state = .disconnecting)) :
    (g.onLost link time).dealings.effects =
      g.dealings.effects ++ (g.ticker.map Effect.stopTicker).toList ++
        (g.session.map Effect.stopSession).toList ++ (g.writer.map Effect.closed).toList := by
  have hlost : ({ ((g.stopTasks).closeWriter link).nextGeneration with
      stage := .idle }.trigger .unexpectedClose).dealings.effects =
        ((g.stopTasks).closeWriter link).journal.filter Effect.isDealing := by
    rw [dealings_trigger]
    rfl
  unfold onLost
  rw [if_neg hopen]
  dsimp only
  rw [effects_answerOrRetry, hlost, closeWriter_eq, stopTasks_eq]
  cases g.ticker <;> cases g.session <;> cases g.writer <;> simp [dealings, Effect.isDealing]

end Gateway

namespace System

open TerminalGateway.Gateway

variable {World : Type} {link : Link World}

/-! ## The history of probes and answers -/

/-- What matters for the probes of a session. -/
inductive Pulse where
  /-- The session of a number is open. -/
  | entry (generation : Nat)
  /-- An answer of the current session was taken up. -/
  | answer
  /-- A probe was sent in the session of a number. -/
  | probe (generation : Nat)
deriving DecidableEq

/-- What it means to try a probe in the session of a number: one that was not sent is of no
account. -/
def Pulse.ofProbe (generation : Nat) : Except SendError Transport.Liveness → List Pulse
  | .ok _ => [.probe generation]
  | .error _ => []

/-- What an effect in the session of a number tells about probes. -/
def Pulse.ofEffect? (generation : Nat) : Effect → Option Pulse
  | .triggered .sessionOpened _ => some (.entry generation)
  | .probed _ (.ok _) => some (.probe generation)
  | _ => none

/-- In this turn an answer of the current session is taken up. -/
def isAnswer (s : System World) : Turn → Bool
  | .item _ (.transport generation .pong) =>
      s.gateway.running && generation = s.gateway.life.generation
  | _ => false

/-- What a turn with these effects means for the probes of a session. -/
def beats (s : System World) (turn : Turn) (effects : List Effect) : List Pulse :=
  (if s.isAnswer turn then [.answer] else []) ++
    effects.filterMap (Pulse.ofEffect? s.gateway.life.generation)

/-- What a run means for the probes of sessions. -/
def pulses (link : Link World) : System World → List Turn → List Pulse
  | _, [] => []
  | s, turn :: rest =>
      match s.step? link turn with
      | some next => s.beats turn next.gateway.journal ++ pulses link next rest
      | none => []

theorem pulses_concat {s middle next : System World} {turns : List Turn} {turn : Turn}
    (hrun : s.run? link turns = some middle) (hstep : middle.step? link turn = some next) :
    pulses link s (turns ++ [turn]) =
      pulses link s turns ++ middle.beats turn next.gateway.journal := by
  induction turns generalizing s with
  | nil =>
      cases hrun
      simp [pulses, hstep]
  | cons first rest ih =>
      rcases Option.bind_eq_some_iff.mp hrun with ⟨after, hfirst, hrest⟩
      simp only [List.cons_append, pulses, hfirst, ih hrest, List.append_assoc]

/-- The probes that were sent in a session since it was opened, or since the last answer. -/
def outstanding (generation : Nat) (history : List Pulse) : Nat :=
  (history.rtakeWhile fun pulse => pulse ≠ .answer ∧ pulse ≠ .entry generation).count
    (.probe generation)

theorem outstanding_concat_answer (generation : Nat) (history : List Pulse) :
    outstanding generation (history ++ [.answer]) = 0 := by
  simp [outstanding]

theorem outstanding_concat_entry (generation : Nat) (history : List Pulse) :
    outstanding generation (history ++ [.entry generation]) = 0 := by
  simp [outstanding]

theorem outstanding_concat_probe (generation : Nat) (history : List Pulse) :
    outstanding generation (history ++ [.probe generation]) =
      outstanding generation history + 1 := by
  simp [outstanding]

/-! ## Turns -/

/-- What a turn may do to the counts of probes and answers, with the effects that go with it and
with what it means for probes. -/
inductive Lives (link : Link World) (s : System World) : Turn → Vitals → List Pulse → Prop where
  | calm {turn} (hanswer : s.isAnswer turn = false) :
      Lives link s turn ⟨s.gateway.heartbeat, []⟩ []
  /-- The session is open. -/
  | enter {time bytes state} (hrunning : s.gateway.running = true) :
      Lives link s (.item time (.transport s.gateway.life.generation (.frame bytes)))
        ⟨s.gateway.heartbeat.resetProbes, [.triggered .sessionOpened state]⟩
        [.entry s.gateway.life.generation]
  /-- A probe was answered. -/
  | answer {time} (hrunning : s.gateway.running = true) :
      Lives link s (.item time (.transport s.gateway.life.generation .pong))
        ⟨(s.gateway.heartbeat.onPong time.wall).2,
          if s.gateway.state = .connected then
            tellBeat s.gateway.subscriptions ⟨s.gateway.heartbeat.count + 1, time.wall⟩
          else []⟩ [.answer]
  /-- A probe is tried. -/
  | probe {time writer} (hrunning : s.gateway.running = true)
      (hstate : s.gateway.state = .connected) (hwriter : s.gateway.writer = some writer)
      (hdue : s.gateway.heartbeat.isOverdue s.gateway.settings.probing.limit = false) :
      Lives link s (.item time (.heartbeatTick s.gateway.life.generation))
        ⟨s.gateway.countedProbe (link.ping s.gateway.world writer).1,
          [.probed writer (link.ping s.gateway.world writer).1]⟩
        (Pulse.ofProbe s.gateway.life.generation (link.ping s.gateway.world writer).1)

/-- What sinks are told of an answer tells nothing else. -/
theorem filterMap_tellBeat {α : Type} {read : Effect → Option α}
    (h : ∀ sink beat, read (.called sink (.heartbeat beat)) = none)
    (subscriptions : Subscriptions) (beat : Connection.Beat) :
    (tellBeat subscriptions beat).filterMap read = [] := by
  refine List.filterMap_eq_nil_iff.mpr fun effect heffect => ?_
  rcases List.mem_map.mp heffect with ⟨sink, -, rfl⟩
  exact h sink beat

/-- A turn that may do something to the counts, with what it means for probes. -/
def LivesBy (link : Link World) (s : System World) (turn : Turn) (v : Vitals) : Prop :=
  Lives link s turn v (s.beats turn v.effects)

/-- A reminder in an open session finds it lost or tries a probe. -/
theorem handle_tick {s : System World} {writer : Nat} (hstate : s.gateway.state = .connected)
    (hwriter : s.gateway.writer = some writer) (time : Reading) :
    s.cleared.handle link time (.heartbeatTick s.gateway.life.generation) =
      if s.gateway.heartbeat.isOverdue s.gateway.settings.probing.limit then
        s.cleared.onLost link time
      else s.cleared.tried link writer := by
  have hcurrent : s.cleared.life.isCurrent s.gateway.life.generation = true ∧
      s.cleared.state = .connected := ⟨decide_eq_true rfl, hstate⟩
  have hprobe : s.cleared.probe link = s.cleared.tried link writer := probe_eq link hwriter
  rw [handle, onTick, if_pos hcurrent, hprobe]
  rfl

/-- Any other reminder does nothing. -/
theorem handle_tick_of_other {s : System World} {generation : Nat}
    (hother : generation ≠ s.gateway.life.generation ∨ s.gateway.state ≠ .connected)
    (time : Reading) : s.cleared.handle link time (.heartbeatTick generation) = s.cleared := by
  have hidle : ¬ (s.cleared.life.isCurrent generation = true ∧ s.cleared.state = .connected) := by
    rintro ⟨hcurrent, hstate⟩
    have hsame : generation = s.gateway.life.generation :=
      (Connection.Lifecycle.isCurrent_iff _ _).mp hcurrent
    exact hother.elim (fun h => h hsame) fun h => h hstate
  rw [handle, onTick, if_neg hidle]

section

variable {s next : System World} {time : Reading}

/-- A turn that is no answer may leave the counts as they are. -/
theorem livesBy_calm {turn : Turn} (hanswer : s.isAnswer turn = false) :
    LivesBy link s turn s.cleared.vitals := by
  have hnothing : s.beats turn [] = [] := by simp [beats, hanswer]
  unfold LivesBy
  exact hnothing ▸ Lives.calm hanswer

theorem livesBy_tick (hrunning : s.gateway.running = true)
    (hwriter : s.gateway.state = .connected → s.gateway.writer ≠ none) (generation : Nat) :
    LivesBy link s (.item time (.heartbeatTick generation))
      (s.cleared.handle link time (.heartbeatTick generation)).vitals := by
  by_cases hprobed : generation = s.gateway.life.generation ∧ s.gateway.state = .connected
  · rcases hprobed with ⟨rfl, hstate⟩
    rcases Option.ne_none_iff_exists'.mp (hwriter hstate) with ⟨writer, hsome⟩
    rw [handle_tick hstate hsome]
    cases hdue : s.gateway.heartbeat.isOverdue s.gateway.settings.probing.limit with
    | true =>
        rw [if_pos rfl, vitals_onLost]
        exact livesBy_calm rfl
    | false =>
        have hprobe : ∀ result, s.beats
            (.item time (.heartbeatTick s.gateway.life.generation)) [.probed writer result] =
              Pulse.ofProbe s.gateway.life.generation result := by
          intro result
          cases result <;> rfl
        rw [if_neg Bool.false_ne_true, vitals_tried, LivesBy]
        exact hprobe _ ▸ Lives.probe hrunning hstate hsome hdue
  · rw [handle_tick_of_other (not_and_or.mp hprobed)]
    exact livesBy_calm rfl

theorem livesBy_pong (hrunning : s.gateway.running = true) :
    LivesBy link s (.item time (.transport s.gateway.life.generation .pong))
      (s.cleared.onPong time).vitals := by
  have htold : (if s.gateway.state = .connected then
      tellBeat s.gateway.subscriptions ⟨s.gateway.heartbeat.count + 1, time.wall⟩
      else []).filterMap (Pulse.ofEffect? s.gateway.life.generation) = [] := by
    split
    · exact filterMap_tellBeat (fun _ _ => rfl) _ _
    · rfl
  have hanswer : s.beats (.item time (.transport s.gateway.life.generation .pong))
      (if s.gateway.state = .connected then
        tellBeat s.gateway.subscriptions ⟨s.gateway.heartbeat.count + 1, time.wall⟩
      else []) = [.answer] := by
    rw [beats, htold]
    simp [isAnswer, hrunning]
  rw [vitals_onPong, LivesBy]
  exact hanswer ▸ Lives.answer hrunning

theorem livesBy_report (hrunning : s.gateway.running = true) (event : Transport.Event) :
    LivesBy link s (.item time (.transport s.gateway.life.generation event))
      (s.cleared.onTransport link time event).vitals := by
  cases event with
  | opened =>
      have hopened : (s.cleared.onTransport link time .opened).vitals = s.cleared.vitals :=
        (vitals_of_sends (sends_sendAll link { s.cleared with stage := .auth } _)).trans rfl
      rw [hopened]
      exact livesBy_calm rfl
  | frame bytes =>
      rw [onTransport, vitals_onFrame]
      cases s.cleared.outline.core.verdict? bytes with
      | none => exact livesBy_calm rfl
      | some verdict =>
          cases verdict with
          | enter => exact Lives.enter hrunning
          | proceed => exact livesBy_calm rfl
          | refuse error => exact livesBy_calm rfl
  | error text => exact livesBy_calm rfl
  | closed reason =>
      rw [onTransport, vitals_onLost]
      exact livesBy_calm rfl
  | pong => exact livesBy_pong hrunning

theorem livesBy_item (hrunning : s.gateway.running = true)
    (hwriter : s.gateway.state = .connected → s.gateway.writer ≠ none) (item : Item) :
    LivesBy link s (.item time item) (s.cleared.handle link time item).vitals := by
  have hcalm : item.isVital s.gateway.life.generation = false →
      s.isAnswer (.item time item) = false →
      LivesBy link s (.item time item) (s.cleared.handle link time item).vitals := by
    intro hitem hanswer
    rw [vitals_handle link s.cleared time hitem]
    exact livesBy_calm hanswer
  cases item with
  | heartbeatTick generation => exact livesBy_tick hrunning hwriter generation
  | transport generation event =>
      by_cases hcurrent : generation = s.gateway.life.generation
      · obtain rfl := hcurrent
        have hreport : s.cleared.handle link time
            (.transport s.gateway.life.generation event) =
              s.cleared.onTransport link time event := if_pos (decide_eq_true rfl)
        rw [hreport]
        exact livesBy_report hrunning event
      · refine hcalm ?_ ?_
        · cases event <;> simp [Item.isVital, hcurrent]
        · cases event <;> simp [isAnswer, hcurrent]
  | _ => exact hcalm rfl rfl

/-- What a turn means for probes is told by the effects that go with the counts. -/
theorem beats_filter_isVital (s : System World) (turn : Turn) (effects : List Effect) :
    s.beats turn (effects.filter Effect.isVital) = s.beats turn effects := by
  unfold beats
  refine congrArg _ (filterMap_filter_effects (fun effect heffect => ?_) effects)
  unfold Effect.isVital at heffect
  unfold Pulse.ofEffect?
  split <;> simp_all

/-- What a turn does to the counts, with the effects that go with it and with what it means for
probes. -/
theorem lives_of_step {turn : Turn}
    (hwriter : s.gateway.state = .connected → s.gateway.writer ≠ none)
    (hstep : s.step? link turn = some next) :
    Lives link s turn next.gateway.vitals (s.beats turn next.gateway.journal) := by
  have hcalm : next.gateway.vitals = s.cleared.vitals → s.isAnswer turn = false →
      LivesBy link s turn next.gateway.vitals := by
    intro hvitals hanswer
    rw [hvitals]
    exact livesBy_calm hanswer
  rw [← beats_filter_isVital]
  change LivesBy link s turn next.gateway.vitals
  cases turn with
  | item time item =>
      cases hrunning : s.gateway.running with
      | false =>
          refine hcalm (congrArg vitals (gateway_of_stopped hrunning hstep)) ?_
          unfold isAnswer
          split <;> simp [hrunning]
      | true =>
          rw [gateway_of_item hstep, Gateway.step, if_pos hrunning]
          exact livesBy_item hrunning hwriter item
  | submit issuer intent =>
      cases hstep
      exact hcalm rfl rfl
  | advance time number =>
      rcases Option.map_eq_some_iff.mp hstep with ⟨submission, -, rfl⟩
      exact hcalm (vitals_submissionStep link time s.cleared submission) rfl
  | raw text =>
      cases hstep
      exact hcalm (vitals_sendRaw link s.cleared text) rfl

end

/-! ## Runs -/

/-- A session is open after a turn if it was before, or if it was opened in the turn. -/
theorem Move.connected {c : Core} {turn : Turn} {o : Outline} (hmove : Move c turn o)
    (hstate : o.core.life.state = .connected) :
    o.core.life.generation = c.life.generation ∧
      (c.life.state = .connected ∨ .triggered .sessionOpened (some .busy) ∈ o.marks) := by
  have hafter : ∀ {error : ConnectError} {d core : Core} {marks : List Effect},
      Aftermath error d marks core → d.life.state = .disconnected →
        core.life.state ≠ .connected := by
    intro error d core marks hafter hrest
    cases hafter <;> simp [Core.opening, Core.counted, hrest]
  cases hmove with
  | connect _ _ => simp [Core.opening] at hstate
  | reconnect _ _ => simp [Core.opening] at hstate
  | enter _ _ _ => exact ⟨rfl, .inr (by simp)⟩
  | refuse _ _ _ => simp [Core.ended] at hstate
  | idle _ _ hrest => simp [Connection.Lifecycle.nextGeneration, hrest] at hstate
  | close _ _ _ => simp [Core.ended] at hstate
  | fail _ _ haftermath => exact absurd hstate (hafter haftermath rfl)
  | lose _ _ _ haftermath => exact absurd hstate (hafter haftermath rfl)
  | _ => exact ⟨rfl, .inl hstate⟩

/-- The counts of a gateway are those of the history. -/
structure Attentive (history : List Pulse) (s : System World) : Prop where
  answers : s.gateway.heartbeat.count = history.count .answer
  /-- Probes of earlier sessions are of no account. -/
  probes : s.gateway.state = .connected →
    s.gateway.heartbeat.unanswered = outstanding s.gateway.life.generation history

/-- A turn keeps the counts of the history. -/
theorem Attentive.step {s next : System World} {turn : Turn} {history : List Pulse}
    (h : Attentive history s) (hsound : s.IsSound)
    (hwriter : s.gateway.state = .connected → s.gateway.writer ≠ none)
    (hstep : s.step? link turn = some next) :
    Attentive (history ++ s.beats turn next.gateway.journal) next := by
  -- Probes of earlier sessions stay in the count until a session is opened, which starts it anew.
  have hopen : next.gateway.state = .connected →
      next.gateway.life.generation = s.gateway.life.generation ∧
        (s.gateway.state = .connected ∨
          .triggered .sessionOpened (some .busy) ∈ next.gateway.vitals.effects) := by
    intro hstate
    rcases (move_of_step hsound hstep).connected hstate with ⟨hgeneration, hbefore⟩
    refine ⟨hgeneration, hbefore.imp_right fun hmark => ?_⟩
    exact List.mem_filter.mpr ⟨List.mem_of_mem_filter hmark, rfl⟩
  have hlives := lives_of_step hwriter hstep
  have hheartbeat : next.gateway.vitals.heartbeat = next.gateway.heartbeat := rfl
  generalize s.beats turn next.gateway.journal = pulses at hlives ⊢
  generalize next.gateway.vitals = v at hlives hheartbeat hopen
  cases hlives with
  | calm hanswer =>
      rw [List.append_nil]
      refine ⟨hheartbeat ▸ h.answers, fun hstate => ?_⟩
      rcases hopen hstate with ⟨hgeneration, hbefore | hmark⟩
      · rw [← hheartbeat, hgeneration]
        exact h.probes hbefore
      · simp at hmark
  | enter hrunning =>
      refine ⟨?_, fun hstate => ?_⟩
      · rw [← hheartbeat, List.count_append]
        exact h.answers
      · rw [(hopen hstate).1, outstanding_concat_entry, ← hheartbeat]
        rfl
  | answer hrunning =>
      refine ⟨?_, fun _ => ?_⟩
      · rw [← hheartbeat, List.count_append, ← h.answers]
        rfl
      · rw [outstanding_concat_answer, ← hheartbeat]
        rfl
  | @probe time writer hrunning hconnected hsome hdue =>
      generalize (link.ping s.gateway.world writer).1 = result at hheartbeat ⊢
      rcases result with error | liveness
      · rw [Pulse.ofProbe, List.append_nil]
        refine ⟨hheartbeat ▸ h.answers, fun hstate => ?_⟩
        rw [(hopen hstate).1, ← hheartbeat]
        exact h.probes hconnected
      · refine ⟨?_, fun hstate => ?_⟩
        · rw [← hheartbeat, Pulse.ofProbe, List.count_append]
          exact h.answers
        · rw [(hopen hstate).1, Pulse.ofProbe, outstanding_concat_probe, ← hheartbeat,
            ← h.probes hconnected]
          rfl

/-- Along every run the counts are those of the history. -/
theorem attentive_of_run {settings : Settings} {world : World} {turns : List Turn}
    {s : System World} (hrun : (start settings world).run? link turns = some s) :
    Attentive (pulses link (start settings world) turns) s := by
  refine run_induction (motive := fun turns s =>
    Attentive (pulses link (start settings world) turns) s) ?_ ?_ hrun
  · exact ⟨rfl, fun hstate => by cases hstate⟩
  · intro turns turn middle next hmiddle h hstep
    rw [pulses_concat hmiddle hstep]
    exact h.step ((isSound_start settings world).run hmiddle) (writer_of_connected hmiddle) hstep

/-! ## What sinks are told of answers -/

/-- The counts of answers that a sink was told, oldest first. -/
def countsTold (sink : SinkId) (log : List Effect) : List Nat :=
  log.filterMap fun
    | .called other (.heartbeat beat) => if other = sink then some beat.count else none
    | _ => none

theorem countsTold_append (sink : SinkId) (first second : List Effect) :
    countsTold sink (first ++ second) = countsTold sink first ++ countsTold sink second :=
  List.filterMap_append

theorem countsTold_filter_isVital (sink : SinkId) (log : List Effect) :
    countsTold sink (log.filter Effect.isVital) = countsTold sink log := by
  refine filterMap_filter_effects (fun effect heffect => ?_) log
  cases effect with
  | called other event => cases event <;> simp [Effect.isVital] at heffect ⊢
  | _ => rfl

/-- A sink is told of an answer at most once. -/
theorem countsTold_tellBeat {history : List Subscriptions.Call} {subscriptions : Subscriptions}
    (h : Subscriptions.Reflects history subscriptions) (sink : SinkId) (beat : Connection.Beat) :
    countsTold sink (tellBeat subscriptions beat) = [] ∨
      countsTold sink (tellBeat subscriptions beat) = [beat.count] := by
  have hbroadcast := h.goesToAll_broadcast (.heartbeat beat)
  have hnodup := hbroadcast.sublist.nodup hbroadcast.nodup
  unfold countsTold tellBeat
  rw [List.filterMap_map]
  generalize (subscriptions.broadcast (.heartbeat beat)).called = called at hnodup ⊢
  induction called with
  | nil => exact .inl rfl
  | cons other rest ih =>
      rcases List.nodup_cons.mp hnodup with ⟨hother, hrest⟩
      by_cases hsame : other = sink
      · have hnone : (rest.filterMap fun later =>
            if later = sink then some beat.count else none) = [] :=
          List.filterMap_eq_nil_iff.mpr fun later hlater =>
            if_neg (hsame ▸ ne_of_mem_of_not_mem hlater hother)
        exact .inr (by simpa [hsame] using hnone)
      · simpa [hsame] using ih hrest

/-- The counts that a sink was told rise, up to the count of answers. -/
structure Rising (sink : SinkId) (s : System World) : Prop where
  rises : (countsTold sink s.log).Pairwise (· < ·)
  bounded : ∀ count ∈ countsTold sink s.log, count ≤ s.gateway.heartbeat.count

theorem Rising.step {sink : SinkId} {s next : System World} {turn : Turn}
    (h : Rising sink s) {history : List Subscriptions.Call}
    (hreflects : Subscriptions.Reflects history s.gateway.subscriptions)
    (hwriter : s.gateway.state = .connected → s.gateway.writer ≠ none)
    (hstep : s.step? link turn = some next) : Rising sink next := by
  rcases of_step hstep with ⟨-, -, -, hlog⟩
  have htold : countsTold sink next.log =
      countsTold sink s.log ++ countsTold sink next.gateway.vitals.effects := by
    rw [hlog, countsTold_append, ← countsTold_filter_isVital sink next.gateway.journal]
    rfl
  have hlives := lives_of_step hwriter hstep
  have hheartbeat : next.gateway.vitals.heartbeat = next.gateway.heartbeat := rfl
  generalize s.beats turn next.gateway.journal = pulses at hlives
  generalize next.gateway.vitals = v at hlives hheartbeat htold
  have hkeeps : countsTold sink v.effects = [] → v.heartbeat.count = s.gateway.heartbeat.count →
      Rising sink next := by
    intro hnothing hcount
    rw [hnothing, List.append_nil] at htold
    refine ⟨htold ▸ h.rises, fun count hmem => ?_⟩
    rw [← hheartbeat, hcount]
    exact h.bounded count (htold ▸ hmem)
  cases hlives with
  | calm hanswer => exact hkeeps rfl rfl
  | enter hrunning => exact hkeeps rfl rfl
  | @probe time writer hrunning hstate hsome hdue =>
      refine hkeeps rfl ?_
      cases (link.ping s.gateway.world writer).1 <;> rfl
  | @answer time hrunning =>
      have hcount : next.gateway.heartbeat.count = s.gateway.heartbeat.count + 1 := by
        rw [← hheartbeat]
        rfl
      have hone : countsTold sink (if s.gateway.state = .connected then
          tellBeat s.gateway.subscriptions ⟨s.gateway.heartbeat.count + 1, time.wall⟩ else []) = [] ∨
          countsTold sink (if s.gateway.state = .connected then
            tellBeat s.gateway.subscriptions ⟨s.gateway.heartbeat.count + 1, time.wall⟩ else []) =
              [s.gateway.heartbeat.count + 1] := by
        split
        · exact countsTold_tellBeat hreflects sink _
        · exact .inl rfl
      rcases hone with hnothing | hlast
      · rw [hnothing, List.append_nil] at htold
        refine ⟨htold ▸ h.rises, fun count hmem => ?_⟩
        exact hcount ▸ Nat.le_succ_of_le (h.bounded count (htold ▸ hmem))
      · rw [hlast] at htold
        refine ⟨?_, fun count hmem => ?_⟩
        · rw [htold]
          refine List.pairwise_append.mpr ⟨h.rises, List.pairwise_singleton _ _, ?_⟩
          intro count hmem later hlater
          rw [List.mem_singleton.mp hlater]
          exact Nat.lt_succ_of_le (h.bounded count hmem)
        · rw [htold] at hmem
          rcases List.mem_append.mp hmem with hbefore | hnow
          · exact hcount ▸ Nat.le_succ_of_le (h.bounded count hbefore)
          · rw [List.mem_singleton.mp hnow, hcount]

theorem rising_of_run {settings : Settings} {world : World} {turns : List Turn}
    {s : System World} (hrun : (start settings world).run? link turns = some s) (sink : SinkId) :
    Rising sink s := by
  refine run_induction (motive := fun _ s => Rising sink s) ?_ ?_ hrun
  · exact ⟨List.Pairwise.nil, fun count hmem => by cases hmem⟩
  · intro turns turn middle next hmiddle h hstep
    rcases reflects_of_run hmiddle with ⟨history, hreflects⟩
    exact h.step hreflects (writer_of_connected hmiddle) hstep

/-! ## Reminders -/

/-- A session is lost: it is taken down without a goodbye, and one decision is made on another
attempt to connect. -/
structure Loses (s next : System World) : Prop where
  outline : next.gateway.outline =
    ⟨(s.core.ended .disconnected).decided.core,
      .triggered .unexpectedClose (some .disconnected) ::
        (s.core.ended .disconnected).decided.marks⟩
  dealings : next.gateway.journal.filter Effect.isDealing =
    (s.gateway.ticker.map Effect.stopTicker).toList ++
      (s.gateway.session.map Effect.stopSession).toList ++
      (s.gateway.writer.map Effect.closed).toList

/-- How a gateway with these settings watches over its session, after a history of answers,
openings and probes. -/
structure Watches (link : Link World) (settings : Settings) (history : List Pulse)
    (s : System World) : Prop where
  /-- A reminder finds an open session lost exactly when too many of its probes are unanswered;
  otherwise one probe is tried, and nothing else is done. -/
  reminder : s.gateway.state = .connected → ∀ time, ∃ next,
    s.step? link (.item time (.heartbeatTick s.gateway.life.generation)) = some next ∧
      (s.Loses next ↔ 0 < settings.probing.limit ∧
        settings.probing.limit < outstanding s.gateway.life.generation history) ∧
      (¬ s.Loses next → ∃ writer, s.gateway.writer = some writer ∧
        next.gateway = s.cleared.tried link writer)
  /-- A reminder of another session, or without an open one, does nothing. -/
  otherReminder : ∀ time generation,
    generation ≠ s.gateway.life.generation ∨ s.gateway.state ≠ .connected →
      s.step? link (.item time (.heartbeatTick generation)) = some { s with gateway := s.cleared }
  /-- An answer is counted, and while the gateway is connected sinks are told the count. -/
  answer : s.gateway.running = true → ∀ time, ∃ next,
    s.step? link (.item time (.transport s.gateway.life.generation .pong)) = some next ∧
      next.gateway = { s.gateway with
        heartbeat := ⟨some time.wall, s.gateway.heartbeat.count + 1, 0⟩
        journal := if s.gateway.state = .connected then
            tellBeat s.gateway.subscriptions ⟨s.gateway.heartbeat.count + 1, time.wall⟩
          else [] }
  /-- An answer of another session does nothing. -/
  otherAnswer : ∀ time generation, generation ≠ s.gateway.life.generation →
    s.step? link (.item time (.transport generation .pong)) = some { s with gateway := s.cleared }
  /-- Nothing but answers is counted. -/
  count : s.gateway.heartbeat.count = history.count .answer
  /-- The counts that a sink is told rise. -/
  told : ∀ sink, (countsTold sink s.log).Pairwise (· < ·)

/-- In an open session a gateway that finds it lost loses it. -/
theorem loses_of_onLost {s next : System World} (hsound : s.IsSound)
    (hstate : s.gateway.state = .connected) {time : Reading}
    (hnext : next.gateway = s.cleared.onLost link time) : s.Loses next := by
  have hopen : ¬ (s.cleared.state = .disconnected ∨ s.cleared.state = .disconnecting) := by
    have hcleared : s.cleared.state = .connected := hstate
    simp [hcleared]
  have hconnected : s.cleared.outline.core.life.state = .connected := hstate
  have hcaller : s.gateway.caller = none := by
    have hwaiting := hsound.standing.phase.2.2
    have hcore : s.core.life.state = .connected := hstate
    rw [hcore] at hwaiting
    exact Option.not_isSome_iff_eq_none.mp fun h => by simpa using hwaiting h
  refine ⟨?_, ?_⟩
  · have hlost := outline_lost link (.inr hconnected)
    have hnobody : ({ ((s.cleared.stopTasks).closeWriter link).nextGeneration with
        stage := .idle }.trigger .unexpectedClose).caller = none :=
      (congrArg (fun o => o.core.caller) hlost).trans hcaller
    rw [hnext, onLost, if_neg hopen,
      outline_answerOrRetry_of_no_caller time _ (by rw [hlost]; rfl) hnobody, hlost]
    rfl
  · rw [hnext]
    exact effects_onLost link s.cleared time hopen

/-- A session that is lost is not open any more. -/
theorem Loses.state {s next : System World} (h : s.Loses next) :
    next.gateway.state ≠ .connected := by
  have hdecided := Core.state_decided (c := s.core.ended .disconnected) rfl
  have hcore := congrArg (fun o => o.core.life.state) h.outline
  exact fun hstate => hdecided (hcore.symm.trans hstate)

/-- An item that does nothing leaves the system as it is. -/
theorem step_of_nothing {s : System World} {time : Reading} {item : Item}
    (hyield : s.tasks.yield? item = some s.tasks)
    (hnothing : s.gateway.step link time item = s.cleared) :
    s.step? link (.item time item) = some { s with gateway := s.cleared } := by
  rw [step?, hyield, Option.map_some, hnothing]
  simp [leave, cleared]

/-- A gateway with an open session goes on. -/
theorem IsSound.running_of_connected {s : System World} (hsound : s.IsSound)
    (hstate : s.gateway.state = .connected) : s.gateway.running = true := by
  by_contra hstopped
  have hcore : s.core.life.state = .connected := hstate
  have hrest := (hsound.standing.of_stopped (Bool.eq_false_iff.mpr hstopped)).1
  rw [hcore] at hrest
  cases hrest

/-- A gateway with an open session handles every item. -/
theorem IsSound.gateway_of_connected {s next : System World} (hsound : s.IsSound)
    (hstate : s.gateway.state = .connected) {time : Reading} {item : Item}
    (hstep : s.step? link (.item time item) = some next) :
    next.gateway = s.cleared.handle link time item :=
  (gateway_of_item hstep).trans (if_pos (hsound.running_of_connected hstate))

/-- Along every run a reminder finds an open session lost exactly when the settings have a limit
and more probes than that were sent since the session was opened, or since the last answer.  Probes,
answers and reminders of other sessions are of no account, every answer of the current session is
counted, and the counts that sinks are told rise. -/
theorem watches_of_run {settings : Settings} {world : World} {turns : List Turn}
    {s : System World} (hrun : (start settings world).run? link turns = some s) :
    Watches link settings (pulses link (start settings world) turns) s := by
  have hsound := (isSound_start settings world).run hrun
  have hattentive := attentive_of_run hrun
  have hsettings : s.gateway.settings = settings := (onItsWay_of_run hrun).settings
  refine ⟨?_, ?_, ?_, ?_, hattentive.answers, fun sink => (rising_of_run hrun sink).rises⟩
  · intro hstate time
    rcases Option.ne_none_iff_exists'.mp (writer_of_connected hrun hstate) with ⟨writer, hwriter⟩
    obtain ⟨next, hstep⟩ : ∃ next, s.step? link
        (.item time (.heartbeatTick s.gateway.life.generation)) = some next := ⟨_, rfl⟩
    have hnext := hsound.gateway_of_connected hstate hstep
    have hoverdue : s.gateway.heartbeat.isOverdue s.gateway.settings.probing.limit = true ↔
        0 < settings.probing.limit ∧ settings.probing.limit <
          outstanding s.gateway.life.generation (pulses link (start settings world) turns) := by
      rw [← hattentive.probes hstate, hsettings]
      simp [Connection.Heartbeat.isOverdue]
    rw [handle_tick hstate hwriter] at hnext
    refine ⟨next, hstep, ?_⟩
    rw [← hoverdue]
    by_cases hdue : s.gateway.heartbeat.isOverdue s.gateway.settings.probing.limit = true
    · rw [if_pos hdue] at hnext
      have hloses := loses_of_onLost hsound hstate hnext
      exact ⟨iff_of_true hloses hdue, fun h => absurd hloses h⟩
    · rw [if_neg hdue] at hnext
      have hstays : next.gateway.state = .connected := by
        rw [hnext]
        exact hstate
      exact ⟨iff_of_false (fun h => h.state hstays) hdue, fun _ => ⟨writer, hwriter, hnext⟩⟩
  · intro time generation hother
    refine step_of_nothing rfl ?_
    unfold Gateway.step
    split
    · exact handle_tick_of_other hother time
    · rfl
  · intro hrunning time
    refine ⟨_, rfl, ?_⟩
    have hpong : s.gateway.step link time (.transport s.gateway.life.generation .pong) =
        s.cleared.onPong time :=
      (if_pos hrunning).trans (if_pos (decide_eq_true rfl))
    refine hpong.trans ?_
    by_cases hstate : s.gateway.state = .connected
    · rw [if_pos hstate]
      exact if_pos hstate
    · rw [if_neg hstate]
      exact if_neg hstate
  · intro time generation hother
    exact step_of_nothing rfl (step_of_other_session link s time .pong hother)

/-- The settings for a bridge that may leave a single probe unanswered. -/
def strictSettings : Settings :=
  { bridgeSettings with probing := { bridgeSettings.probing with limit := 1 } }

/-- It is time for a probe in the first session. -/
def reminder : Turn :=
  .item midnight (.heartbeatTick 1)

/-- The third reminder finds the session lost, as two probes are unanswered. -/
theorem watches_of_run_reminders :
    ∃ first second last,
      (start strictSettings ()).run? openLink (bridgeLogin ++ [reminder]) = some first ∧
        first.step? openLink reminder = some second ∧
        second.gateway.journal = [.probed 7 (.ok .awaitPong)] ∧
        second.step? openLink reminder = some last ∧ second.Loses last := by
  have hfacts : ∀ turns ∈ [[reminder], [reminder, reminder]],
      ((start strictSettings ()).run? openLink (bridgeLogin ++ turns)).map (fun s =>
        decide (s.gateway.state = .connected ∧ s.gateway.life.generation = 1 ∧
          s.gateway.writer = some 7 ∧
          outstanding 1 (pulses openLink (start strictSettings ()) (bridgeLogin ++ turns)) =
            turns.length)) = some true := by
    decide +kernel
  rcases Option.map_eq_some_iff.mp (hfacts [reminder] (by simp)) with ⟨first, hfirst, hstands⟩
  rcases of_decide_eq_true hstands with ⟨hstate, hgeneration, hwriter, houtstanding⟩
  have hwatches := watches_of_run hfirst
  rcases hwatches.reminder hstate midnight with ⟨second, hsecond, hloses, hprobes⟩
  rw [hgeneration] at hsecond hloses
  rw [houtstanding] at hloses
  have hnot : ¬ first.Loses second := fun h => absurd (hloses.mp h) (by decide)
  rcases hprobes hnot with ⟨writer, hsome, hprobed⟩
  obtain rfl : 7 = writer := Option.some.inj (hwriter.symm.trans hsome)
  have hrun : (start strictSettings ()).run? openLink (bridgeLogin ++ [reminder, reminder]) =
      some second := by
    have hboth := run?_concat_of_eq hfirst hsecond
    rw [List.append_assoc] at hboth
    exact hboth
  rcases Option.map_eq_some_iff.mp (hfacts [reminder, reminder] (by simp)) with
    ⟨same, hsame, hstands⟩
  obtain rfl : second = same := Option.some.inj (hrun.symm.trans hsame)
  rcases of_decide_eq_true hstands with ⟨hstate, hgeneration, -, houtstanding⟩
  rcases (watches_of_run hrun).reminder hstate midnight with ⟨last, hlast, hloses, -⟩
  rw [hgeneration] at hlast hloses
  rw [houtstanding] at hloses
  refine ⟨first, second, last, hfirst, hsecond, ?_, hlast, hloses.mpr (by decide)⟩
  rw [hprobed]
  rfl

end System

end TerminalGateway
