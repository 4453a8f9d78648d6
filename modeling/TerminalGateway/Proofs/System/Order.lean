import TerminalGateway.Proofs.System.Course

/-!
# A gateway in order

Between any two turns a gateway is in order: the state of its connection and the stage of its
session agree, its writer and its probes are those of the current session, and nobody waits for a
session that is not being opened.  No trigger is ever out of place, not even within a turn.

Main definitions:

- `System.Orderly`: a gateway in order.

Main results:

- Theorem `System.Orderly.step`: a turn leaves a gateway in order.
- Theorem `System.orderly_of_run`: so does every run.
-/

namespace TerminalGateway.System

open TerminalGateway.Gateway

variable {World : Type} {link : Link World}

/-- A gateway in order after some turns. -/
structure Orderly (turns : List Turn) (s : System World) : Prop where
  /-- State and stage agree; a connection is neither busy nor disconnecting between turns. -/
  phase :
    (s.gateway.state = .disconnected ∧ s.gateway.stage = .idle) ∨
      (s.gateway.state = .connecting ∧
        (s.gateway.stage = .transport ∨ s.gateway.stage = .auth ∨
          s.gateway.stage = .sessionOpen)) ∨
      (s.gateway.state = .connected ∧ s.gateway.stage = .established)
  /-- The writer was handed over by the task of the current session. -/
  writer : ∀ writer, s.gateway.writer = some writer →
    s.gateway.state ≠ .disconnected ∧
      ∃ time, .item time (.sessionReady s.gateway.life.generation writer) ∈ turns
  /-- The current session is probed exactly while the gateway is connected. -/
  ticker : s.gateway.ticker =
    if s.gateway.state = .connected then some s.gateway.life.generation else none
  /-- A caller waits only while a session is being opened. -/
  caller : s.gateway.caller.isSome → s.gateway.state = .connecting
  /-- No trigger was out of place. -/
  triggers : ∀ trigger, .triggered trigger none ∉ s.log

/-! ## Triggers -/

theorem triggered_notMem_answerMarks (c : Core) (result : Except GatewayError Unit)
    (trigger : Connection.Trigger) (state : Option Connection.State) :
    .triggered trigger state ∉ c.answerMarks result := by
  cases hcaller : c.caller <;> simp [Core.answerMarks, hcaller]

/-- No trigger is out of place after a session that ended without being asked to. -/
theorem triggered_none_notMem_of_aftermath {error : ConnectError} {c core : Core}
    {marks : List Effect} (hafter : Aftermath error c marks core) (trigger : Connection.Trigger) :
    .triggered trigger none ∉ marks := by
  cases hafter <;> simp [Core.openingMarks]

/-- No trigger of a move is out of place. -/
theorem Move.triggered_none_notMem {c : Core} {turn : Turn} {o : Outline}
    (hmove : Move c turn o) (trigger : Connection.Trigger) :
    .triggered trigger none ∉ o.marks := by
  cases hmove with
  | stay hquiet => simp
  | present hrunning hstate => simp
  | connect hrunning hstate => simp [Core.openingMarks]
  | reconnect hrunning hstate => simp [Core.openingMarks]
  | ready hrunning => simp
  | opened hrunning => simp
  | proceed hrunning hverdict => simp
  | enter hrunning hstate hverdict => simp [triggered_notMem_answerMarks]
  | refuse hrunning hstate hverdict => simp [triggered_notMem_answerMarks]
  | idle hrunning hends hstate => simp
  | close hrunning hends hstate => simp [triggered_notMem_answerMarks]
  | fail hrunning hstate hafter => simp [triggered_none_notMem_of_aftermath hafter]
  | lose hrunning hitem hstate hafter => simp [triggered_none_notMem_of_aftermath hafter]

/-! ## Writers -/

/-- A writer after a move was that of the same session before it, or it is handed over now. -/
theorem Move.writer {c : Core} {turn : Turn} {o : Outline} (hmove : Move c turn o)
    (hidle : c.life.state = .disconnected → c.writer = none)
    (hdialing : ∀ time error, turn = .item time (.connectFailed c.life.generation error) →
      c.writer = none) {writer : Nat} (hwriter : o.core.writer = some writer) :
    (o.core.life.generation = c.life.generation ∧ c.writer = some writer) ∨
      ∃ time, turn = .item time (.sessionReady o.core.life.generation writer) := by
  cases hmove with
  | stay hquiet => exact .inl ⟨rfl, hwriter⟩
  | present hrunning hstate => exact .inl ⟨rfl, hwriter⟩
  | connect hrunning hstate => simp [Core.opening, hidle hstate] at hwriter
  | reconnect hrunning hstate => simp [Core.opening, hidle hstate] at hwriter
  | ready hrunning =>
      cases hwriter
      exact .inr ⟨_, rfl⟩
  | opened hrunning => exact .inl ⟨rfl, hwriter⟩
  | proceed hrunning hverdict => exact .inl ⟨rfl, hwriter⟩
  | enter hrunning hstate hverdict => exact .inl ⟨rfl, hwriter⟩
  | refuse hrunning hstate hverdict => simp [Core.ended] at hwriter
  | idle hrunning hends hstate => simp [hidle hstate] at hwriter
  | close hrunning hends hstate => simp [Core.ended] at hwriter
  | fail hrunning hstate hafter =>
      simp [hafter.kept.2, Core.failed, hdialing _ _ rfl] at hwriter
  | lose hrunning hitem hstate hafter =>
      simp [hafter.kept.2, Core.ended] at hwriter

/-! ## Turns and runs -/

/-- How a connection stands tells its state and its stage, and who and what it has. -/
theorem Standing.phase {c : Core} {progress : Progress} {delays : Nat}
    (h : Standing c progress delays) :
    ((c.life.state = .disconnected ∧ c.stage = .idle) ∨
        (c.life.state = .connecting ∧
          (c.stage = .transport ∨ c.stage = .auth ∨ c.stage = .sessionOpen)) ∨
        (c.life.state = .connected ∧ c.stage = .established)) ∧
      c.ticker = (if c.life.state = .connected then some c.life.generation else none) ∧
      (c.caller.isSome → c.life.state = .connecting) := by
  cases h with
  | resting hstate hstage hwriter hcaller hticker => simp [hstate, hstage, hcaller, hticker]
  | dialing hrunning hstate hstage hwriter hticker => simp [hstate, hstage, hticker]
  | dialed hrunning hstate hstage hticker => simp [hstate, hstage, hticker]
  | greeting hrunning hstate hstage hticker => simp [hstate, hstage, hticker]
  | serving hrunning hstate hstage hcaller hticker => simp [hstate, hstage, hcaller, hticker]

/-- A connected gateway has an open session. -/
theorem IsSound.stage_of_connected {s : System World} (hsound : s.IsSound)
    (hstate : s.gateway.state = .connected) : s.gateway.stage = .established := by
  have hcore : s.core.life.state = .connected := hstate
  have hphase := hsound.standing.phase.1
  simp only [hcore, reduceCtorEq, false_and, true_and, false_or] at hphase
  exact hphase

/-- A gateway is not busy between turns. -/
theorem IsSound.state_ne_busy {s : System World} (hsound : s.IsSound) :
    s.gateway.state ≠ .busy := by
  intro hstate
  have hcore : s.core.life.state = .busy := hstate
  have hphase := hsound.standing.phase.1
  simp [hcore] at hphase

theorem triggered_mem_marks {g : Gateway World} {trigger : Connection.Trigger}
    {state : Option Connection.State} (h : .triggered trigger state ∈ g.journal) :
    .triggered trigger state ∈ g.outline.marks :=
  List.mem_filter.mpr ⟨h, rfl⟩

/-- A turn leaves a gateway in order. -/
theorem Orderly.step {s next : System World} {turns : List Turn} {turn : Turn}
    (horder : Orderly turns s) (hsound : s.IsSound) (hstep : s.step? link turn = some next) :
    Orderly (turns ++ [turn]) next := by
  have hmove := move_of_step hsound hstep
  have hnext := (hsound.step hstep).standing
  rcases of_step hstep with ⟨tasks, htake, -, hlog⟩
  rcases hnext.phase with ⟨hphase, hticker, hcaller⟩
  refine ⟨hphase, ?_, hticker, hcaller, ?_⟩
  · intro writer hwriter
    refine ⟨fun hstate => ?_, ?_⟩
    · have hnone : next.gateway.writer = none := (hnext.of_disconnected hstate).2.1
      simp [hnone] at hwriter
    · have hidle : s.core.life.state = .disconnected → s.core.writer = none :=
        fun hstate => (hsound.standing.of_disconnected hstate).2.1
      have hdialing : ∀ time error,
          turn = .item time (.connectFailed s.core.life.generation error) →
            s.core.writer = none := by
        rintro time error rfl
        exact ((Tasks.of_pass? htake).1 ▸ hsound.standing).of_connecting.2.2.1
      rcases hmove.writer hidle hdialing hwriter with ⟨hgeneration, hsame⟩ | ⟨time, rfl⟩
      · rcases (horder.writer writer hsame).2 with ⟨time, htime⟩
        have hcurrent : next.gateway.life.generation = s.gateway.life.generation := hgeneration
        exact ⟨time, List.mem_append_left _ (hcurrent ▸ htime)⟩
      · exact ⟨time, List.mem_append_right _ (List.mem_singleton_self _)⟩
  · intro trigger hmem
    rw [hlog, List.mem_append] at hmem
    rcases hmem with hmem | hmem
    · exact horder.triggers trigger hmem
    · exact hmove.triggered_none_notMem trigger (triggered_mem_marks hmem)

/-- A run leaves a gateway in order. -/
theorem Orderly.run {s last : System World} {before turns : List Turn}
    (horder : Orderly before s) (hsound : s.IsSound) (hrun : s.run? link turns = some last) :
    Orderly (before ++ turns) last := by
  refine run_induction (motive := fun turns last => Orderly (before ++ turns) last) ?_ ?_ hrun
  · rw [List.append_nil]
    exact horder
  · intro turns turn middle next hmiddle hordered hstep
    rw [← List.append_assoc]
    exact hordered.step (hsound.run hmiddle) hstep

theorem orderly_start (settings : Settings) (world : World) :
    Orderly [] (start settings world) where
  phase := .inl ⟨rfl, rfl⟩
  writer writer hwriter := by simp [start, Gateway.start] at hwriter
  ticker := rfl
  caller hcaller := by simp [start, Gateway.start] at hcaller
  triggers trigger hmem := by simp [start] at hmem

/-- Every run from the start leaves a gateway in order. -/
theorem orderly_of_run {settings : Settings} {world : World} {turns : List Turn}
    {s : System World} (hrun : (start settings world).run? link turns = some s) :
    Orderly turns s :=
  (orderly_start settings world).run (isSound_start settings world) hrun

/-! ## A login with the bridge -/

/-- A link on which everything can be written. -/
def openLink : Link Unit where
  send _ _ _ := (.ok (), ())
  ping _ _ := (.ok .awaitPong, ())
  close _ _ := ()

/-- The settings for a bridge on this machine. -/
def bridgeSettings : Settings :=
  Settings.ofEndpoint (.socket "127.0.0.1" "127.0.0.1" 5000)

/-- The start of the clocks. -/
def midnight : Reading :=
  ⟨0, .epoch⟩

/-- A frame with this text is taken up. -/
def hear (generation : Nat) (text : String) : Turn :=
  .item midnight (.transport generation (.frame (Text.Utf8.encode text.toList)))

/-- A caller asks for a session, and its connection is made and opened. -/
def connection : List Turn :=
  [.item midnight (.connect 0), .item midnight (.sessionReady 1 7),
    .item midnight (.transport 1 .opened)]

/-- The bridge takes the password. -/
def bridgeLogin : List Turn :=
  connection ++ [hear 1 "\x7b\"id\":\"msg_auth\",\"result\":[true]\x7d"]

/-- A login with the bridge leaves the gateway connected and in order. -/
theorem orderly_bridgeLogin :
    ∃ s, (start bridgeSettings ()).run? openLink bridgeLogin = some s ∧
      s.gateway.state = .connected ∧ Orderly bridgeLogin s := by
  have hconnected : ((start bridgeSettings ()).run? openLink bridgeLogin).map
      (fun s => s.gateway.state) = some .connected := by decide +kernel
  rcases Option.map_eq_some_iff.mp hconnected with ⟨s, hrun, hstate⟩
  exact ⟨s, hrun, hstate, orderly_of_run hrun⟩

end TerminalGateway.System
