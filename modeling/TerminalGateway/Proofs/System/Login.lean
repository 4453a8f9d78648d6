import TerminalGateway.Proofs.System.Order

/-!
# Logins

A gateway is connected only after its current session was opened, its login was accepted and,
where the dialect asks for it, its trade session was opened, in this order and each at the stage
that waits for it.  Messages of other sessions do nothing, and neither do answers that nobody
waits for.

Main definitions:

- `System.Meets`: milestones that a run passes in order.
- `System.milestones`: the way to an open session.

Main results:

- Theorem `System.onItsWay_of_run`: a run has passed the milestones of the stage that it led to.
- Theorem `System.login_before_connection`: what came before a connection, and what does not
  touch it.
-/

namespace TerminalGateway.System

open TerminalGateway.Gateway
open TerminalGateway.Json (Value)
open TerminalGateway.Message (LifecycleKind)

variable {World : Type} {link : Link World}

/-! ## Milestones -/

/-- A run passes milestones in order: each is a turn of the run, told by the turn and by the
system that takes it up. -/
def Meets (link : Link World) :
    List (System World → Turn → Prop) → System World → List Turn → Prop
  | [], _, _ => True
  | milestone :: rest, s, turns =>
      ∃ before turn after middle next, turns = before ++ turn :: after ∧
        s.run? link before = some middle ∧ milestone middle turn ∧
        middle.step? link turn = some next ∧ Meets link rest next after

/-- Milestones that are passed stay passed. -/
theorem Meets.append {milestones : List (System World → Turn → Prop)} {s : System World}
    {turns : List Turn} (h : Meets link milestones s turns) (more : List Turn) :
    Meets link milestones s (turns ++ more) := by
  induction milestones generalizing s turns with
  | nil => trivial
  | cons milestone rest ih =>
      rcases h with ⟨before, turn, after, middle, next, rfl, hbefore, hmilestone, hstep, hrest⟩
      exact ⟨before, turn, after ++ more, middle, next, by simp, hbefore, hmilestone, hstep,
        ih hrest⟩

/-- A run that has passed some milestones may pass another with its next turn. -/
theorem Meets.concat {milestones : List (System World → Turn → Prop)}
    {milestone : System World → Turn → Prop} {s middle next : System World} {turns : List Turn}
    {turn : Turn} (h : Meets link milestones s turns) (hrun : s.run? link turns = some middle)
    (hmilestone : milestone middle turn) (hstep : middle.step? link turn = some next) :
    Meets link (milestones ++ [milestone]) s (turns ++ [turn]) := by
  induction milestones generalizing s turns with
  | nil => exact ⟨turns, turn, [], middle, next, rfl, hrun, hmilestone, hstep, trivial⟩
  | cons first rest ih =>
      rcases h with ⟨before, passed, after, start, later, rfl, hbefore, hfirst, hpassed, hrest⟩
      have hafter : later.run? link after = some middle := by
        rw [run?_append, hbefore] at hrun
        simpa [run?, hpassed] using hrun
      exact ⟨before, passed, after ++ [turn], start, later, by simp, hbefore, hfirst, hpassed,
        ih hrest hafter⟩

/-- In this turn the connection of a session is open, and its login is sent. -/
def Opens (generation : Nat) (s : System World) (turn : Turn) : Prop :=
  s.gateway.running = true ∧ s.gateway.life.generation = generation ∧
    s.gateway.stage = .transport ∧ ∃ time, turn = .item time (.transport generation .opened)

/-- In this turn a message about a session is taken up at a stage of it. -/
def Hears (generation : Nat) (stage : Stage) (kind : LifecycleKind) (payload : Value)
    (s : System World) (turn : Turn) : Prop :=
  s.gateway.running = true ∧ s.gateway.life.generation = generation ∧
    s.gateway.stage = stage ∧
    ∃ time bytes message, turn = .item time (.transport generation (.frame bytes)) ∧
      Message.decode s.gateway.settings.encoding bytes = .ok message ∧
      message.kind = .lifecycle kind ∧ message.payload = payload

/-- In this turn the login of a session is accepted. -/
def LogsIn (generation : Nat) (s : System World) (turn : Turn) : Prop :=
  ∃ payload, Hears generation .auth .auth payload s turn ∧
    loginError? s.gateway.settings.dialect payload = none

/-- In this turn the trade session of a session is opened. -/
def OpensTrade (generation : Nat) (s : System World) (turn : Turn) : Prop :=
  ∃ payload, Hears generation .sessionOpen .sessionOpen payload s turn ∧ resultCode payload = 0

/-- The way to an open session. -/
def milestones (dialect : Dialect) (generation : Nat) : List (System World → Turn → Prop) :=
  match dialect with
  | .bridge => [Opens generation, LogsIn generation]
  | .web => [Opens generation, LogsIn generation, OpensTrade generation]

/-- The part of the way that leads to a stage. -/
def passed (dialect : Dialect) (generation : Nat) : Stage → List (System World → Turn → Prop)
  | .idle => []
  | .transport => []
  | .auth => [Opens generation]
  | .sessionOpen => [Opens generation, LogsIn generation]
  | .established => milestones dialect generation

/-! ## Verdicts -/

/-- A frame decides what its message decides. -/
theorem of_verdict? {c : Core} {bytes : List UInt8} {verdict : Verdict}
    (h : c.verdict? bytes = some verdict) :
    ∃ message, Message.decode c.settings.encoding bytes = .ok message ∧
      c.verdictOn? message = some verdict := by
  unfold Core.verdict? at h
  split at h <;> rename_i hdecode
  · exact ⟨_, hdecode, h⟩
  · simp at h

/-- A login that leaves the trade session to be opened was accepted by the web server. -/
theorem of_verdictOn?_proceed {c : Core} {message : Message}
    (h : c.verdictOn? message = some .proceed) :
    message.kind = .lifecycle .auth ∧ c.stage = .auth ∧
      loginError? c.settings.dialect message.payload = none ∧ c.settings.dialect = .web := by
  unfold Core.verdictOn? at h
  split at h <;> rename_i hkind hstage
  · split at h <;> rename_i herror
    · simp at h
    · refine ⟨hkind, hstage, herror, ?_⟩
      cases hdialect : c.settings.dialect with
      | web => rfl
      | bridge => simp [hdialect, Dialect.authOpensSession] at h
  · split at h <;> simp at h
  · simp at h

/-- A session is open because the bridge accepted the login, or because the trade session is
open. -/
theorem of_verdictOn?_enter {c : Core} {message : Message}
    (h : c.verdictOn? message = some .enter) :
    (message.kind = .lifecycle .auth ∧ c.stage = .auth ∧
        loginError? c.settings.dialect message.payload = none ∧ c.settings.dialect = .bridge) ∨
      (message.kind = .lifecycle .sessionOpen ∧ c.stage = .sessionOpen ∧
        resultCode message.payload = 0) := by
  unfold Core.verdictOn? at h
  split at h <;> rename_i hkind hstage
  · split at h <;> rename_i herror
    · simp at h
    · refine .inl ⟨hkind, hstage, herror, ?_⟩
      cases hdialect : c.settings.dialect with
      | web => simp [hdialect, Dialect.authOpensSession] at h
      | bridge => rfl
  · split at h <;> rename_i herror
    · simp at h
    · refine .inr ⟨hkind, hstage, ?_⟩
      by_contra hcode
      simp [sessionError?, hcode] at herror
  · simp at h

/-! ## The way to a stage -/

/-- No move changes the settings. -/
theorem Move.settings {c : Core} {turn : Turn} {o : Outline} (hmove : Move c turn o) :
    o.core.settings = c.settings := by
  cases hmove with
  | fail hrunning hstate hafter => exact hafter.kept.1.trans rfl
  | lose hrunning hitem hstate hafter => exact hafter.kept.1.trans rfl
  | _ => rfl

/-- After a session that ended without being asked to, there is no session, or the connection of
a new one is being made. -/
theorem stage_of_aftermath {error : ConnectError} {c core : Core} {marks : List Effect}
    (hafter : Aftermath error c marks core) (hidle : c.stage = .idle) :
    core.stage = .idle ∨ core.stage = .transport := by
  cases hafter with
  | told caller hcaller => exact .inl hidle
  | again hcaller hdelay => exact .inr rfl
  | later delay hcaller hdelay => exact .inl hidle
  | never hcaller hdelay => exact .inl hidle

/-- A run has passed the milestones on the way to the stage of its session, and a trade session
is opened only with the web server. -/
structure OnItsWay (link : Link World) (origin : System World) (turns : List Turn) (c : Core) :
    Prop where
  settings : c.settings = origin.gateway.settings
  web : c.stage = .sessionOpen → c.settings.dialect = .web
  meets : Meets link (passed c.settings.dialect c.life.generation c.stage) origin turns

/-- Nothing is to be passed on the way to a session that is not opened yet. -/
theorem OnItsWay.of_stage {origin : System World} {turns : List Turn} {c : Core}
    (hsettings : c.settings = origin.gateway.settings)
    (hstage : c.stage = .idle ∨ c.stage = .transport) : OnItsWay link origin turns c := by
  rcases hstage with hstage | hstage
  · exact ⟨hsettings, by simp [hstage], by simp [hstage, passed, Meets]⟩
  · exact ⟨hsettings, by simp [hstage], by simp [hstage, passed, Meets]⟩

/-- A turn that keeps the session and its stage keeps the way to it. -/
theorem OnItsWay.keep {origin : System World} {turns : List Turn} {c next : Core}
    (h : OnItsWay link origin turns c) (turn : Turn) (hsettings : next.settings = c.settings)
    (hstage : next.stage = c.stage) (hgeneration : next.life.generation = c.life.generation) :
    OnItsWay link origin (turns ++ [turn]) next := by
  refine ⟨hsettings.trans h.settings, ?_, ?_⟩
  · rw [hsettings, hstage]
    exact h.web
  · rw [hsettings, hstage, hgeneration]
    exact h.meets.append [turn]

/-- A turn leads on along the way. -/
theorem OnItsWay.step {origin s next : System World} {turns : List Turn} {turn : Turn}
    (h : OnItsWay link origin turns s.core) (hsound : s.IsSound)
    (hrun : origin.run? link turns = some s) (hstep : s.step? link turn = some next) :
    OnItsWay link origin (turns ++ [turn]) next.core := by
  rcases of_step hstep with ⟨tasks, htake, -, -⟩
  have hmeets := h.meets
  -- Stated for any outline, so that the cases of a move can fix it.
  have hlead : ∀ {o}, Move s.core turn o → OnItsWay link origin (turns ++ [turn]) o.core := by
    intro o hmove
    have hsettings := hmove.settings.trans h.settings
    cases hmove with
    | stay hquiet => exact h.keep _ rfl rfl rfl
    | present hrunning hstate => exact h.keep _ rfl rfl rfl
    | connect hrunning hstate => exact .of_stage hsettings (.inr rfl)
    | reconnect hrunning hstate => exact .of_stage hsettings (.inr rfl)
    | ready hrunning => exact h.keep _ rfl rfl rfl
    | opened hrunning =>
        rcases ((Tasks.of_pass? htake).1 ▸ hsound.standing).of_ready with ⟨-, hstage, -⟩
        rw [hstage] at hmeets
        exact ⟨hsettings, by simp, hmeets.concat hrun ⟨hrunning, rfl, hstage, _, rfl⟩ hstep⟩
    | proceed hrunning hverdict =>
        rcases of_verdict? hverdict with ⟨message, hdecode, hmessage⟩
        rcases of_verdictOn?_proceed hmessage with ⟨hkind, hstage, haccepted, hweb⟩
        rw [hstage] at hmeets
        exact ⟨hsettings, fun _ => hweb, hmeets.concat hrun
          ⟨_, ⟨hrunning, rfl, hstage, _, _, message, rfl, hdecode, hkind, rfl⟩, haccepted⟩ hstep⟩
    | enter hrunning hstate hverdict =>
        rcases of_verdict? hverdict with ⟨message, hdecode, hmessage⟩
        refine ⟨hsettings, by simp [Core.established], ?_⟩
        change Meets link (milestones s.core.settings.dialect s.core.life.generation) origin _
        rcases of_verdictOn?_enter hmessage with
          ⟨hkind, hstage, haccepted, hbridge⟩ | ⟨hkind, hstage, hcode⟩
        · rw [hstage] at hmeets
          rw [hbridge]
          exact hmeets.concat hrun
            ⟨_, ⟨hrunning, rfl, hstage, _, _, message, rfl, hdecode, hkind, rfl⟩, haccepted⟩ hstep
        · rw [hstage] at hmeets
          rw [h.web hstage]
          exact hmeets.concat hrun
            ⟨_, ⟨hrunning, rfl, hstage, _, _, message, rfl, hdecode, hkind, rfl⟩, hcode⟩ hstep
    | refuse hrunning hstate hverdict => exact .of_stage hsettings (.inl rfl)
    | idle hrunning hends hstate =>
        exact .of_stage hsettings (.inl (hsound.standing.of_disconnected hstate).1)
    | close hrunning hends hstate => exact .of_stage hsettings (.inl rfl)
    | fail hrunning hstate hafter => exact .of_stage hsettings (stage_of_aftermath hafter rfl)
    | lose hrunning hitem hstate hafter =>
        exact .of_stage hsettings (stage_of_aftermath hafter rfl)
  exact hlead (move_of_step hsound hstep)

/-- Every run has passed the milestones on the way to the stage that it led to. -/
theorem onItsWay_of_run {settings : Settings} {world : World} {turns : List Turn}
    {s : System World} (hrun : (start settings world).run? link turns = some s) :
    OnItsWay link (start settings world) turns s.core := by
  refine run_induction (motive := fun turns s => OnItsWay link (start settings world) turns s.core)
    (.of_stage rfl (.inl rfl)) ?_ hrun
  intro turns turn middle next hmiddle hway hstep
  exact hway.step ((isSound_start settings world).run hmiddle) hmiddle hstep

/-! ## Connections -/

/-- Whatever becomes of a session that ended without being asked to, no session is open. -/
theorem triggered_notMem_of_aftermath {error : ConnectError} {c core : Core}
    {marks : List Effect} (hafter : Aftermath error c marks core)
    {trigger : Connection.Trigger} {state : Connection.State}
    (hstate : state = .busy ∨ state = .connected) : .triggered trigger (some state) ∉ marks := by
  rcases hstate with rfl | rfl <;> cases hafter <;> simp [Core.openingMarks]

/-- A move to an open session stays with the session and ends its way. -/
theorem Move.of_triggered {c : Core} {turn : Turn} {o : Outline} (hmove : Move c turn o)
    {trigger : Connection.Trigger} {state : Connection.State}
    (hstate : state = .busy ∨ state = .connected)
    (hmem : .triggered trigger (some state) ∈ o.marks) :
    o.core.stage = .established ∧ o.core.life.generation = c.life.generation := by
  have hother : ∀ {other : Connection.State}, other ≠ .busy → other ≠ .connected →
      state ≠ other := by
    rintro other hbusy hconnected rfl
    exact hstate.elim hbusy hconnected
  cases hmove with
  | enter hrunning hconnecting hverdict => exact ⟨rfl, rfl⟩
  | fail hrunning hconnecting hafter =>
      simp [triggered_notMem_of_aftermath hafter hstate, hother] at hmem
  | lose hrunning hitem hopen hafter =>
      simp [triggered_notMem_of_aftermath hafter hstate, hother] at hmem
  | _ => simp [Core.openingMarks, triggered_notMem_answerMarks, hother] at hmem

theorem gateway_of_item {s next : System World} {time : Reading} {item : Item}
    (hstep : s.step? link (.item time item) = some next) :
    next.gateway = s.gateway.step link time item := by
  rcases Option.map_eq_some_iff.mp hstep with ⟨tasks, htasks, rfl⟩
  rfl

/-- What another session reports is passed over. -/
theorem step_of_other_session (link : Link World) (s : System World) (time : Reading)
    {generation : Nat} (event : Transport.Event)
    (hgeneration : generation ≠ s.gateway.life.generation) :
    s.gateway.step link time (.transport generation event) = s.cleared := by
  unfold Gateway.step
  split
  · simp [handle, hgeneration, cleared]
  · rfl

/-- A frame that holds an answer for which no login waits is counted at most. -/
theorem step_of_unawaited (link : Link World) (s : System World) (time : Reading)
    (generation : Nat) {bytes : List UInt8} {message : Message}
    (hdecode : Message.decode s.gateway.settings.encoding bytes = .ok message)
    (hunawaited : (message.kind = .lifecycle .auth ∧ s.gateway.stage ≠ .auth) ∨
      (message.kind = .lifecycle .sessionOpen ∧ s.gateway.stage ≠ .sessionOpen)) :
    { s.gateway.step link time (.transport generation (.frame bytes)) with
      counters := s.gateway.counters } = s.cleared := by
  have hmessage : ∀ g : Gateway World, g.stage = s.gateway.stage →
      g.onMessage link time message = g := by
    intro g hstage
    rcases hunawaited with ⟨hkind, hother⟩ | ⟨hkind, hother⟩
    · simp [onMessage, hkind, onLifecycle, onLogin, hstage, hother]
    · simp [onMessage, hkind, onLifecycle, onTradeSession, hstage, hother]
  have hframe : s.cleared.onFrame link time bytes = s.cleared.countFrame := by
    rw [onFrame_of_decode (g := s.cleared) link time hdecode]
    exact hmessage s.cleared.countFrame rfl
  by_cases hgeneration : generation = s.gateway.life.generation
  · subst hgeneration
    by_cases hrunning : s.gateway.running = true
    · have hcounted : s.gateway.step link time
          (.transport s.gateway.life.generation (.frame bytes)) = s.cleared.countFrame :=
        (step_of_current link hrunning time _).trans hframe
      rw [hcounted]
      rfl
    · unfold Gateway.step
      rw [if_neg hrunning]
      rfl
  · rw [step_of_other_session link s time (.frame bytes) hgeneration]
    rfl

/-- Whenever a gateway becomes busy or connected, and as long as it is connected, the opening of
its current session, the acceptance of its login and, with the web server, the opening of its
trade session have been taken up before, in this order and each at the stage that waits for it.
What other sessions report does nothing; an answer about the session that is not awaited, as any
is not once the gateway is connected, changes nothing but what is counted, and nothing is done
for it. -/
theorem login_before_connection {settings : Settings} {world : World} {turns : List Turn}
    {s next : System World} {turn : Turn}
    (hrun : (start settings world).run? link turns = some s)
    (hstep : s.step? link turn = some next) :
    (∀ trigger state, .triggered trigger (some state) ∈ next.gateway.journal →
      state = .busy ∨ state = .connected →
      next.gateway.life.generation = s.gateway.life.generation ∧
        Meets link (milestones settings.dialect next.gateway.life.generation)
          (start settings world) (turns ++ [turn])) ∧
    (next.gateway.state = .busy ∨ next.gateway.state = .connected →
      Meets link (milestones settings.dialect next.gateway.life.generation)
        (start settings world) (turns ++ [turn])) ∧
    (∀ time generation event, turn = .item time (.transport generation event) →
      generation ≠ s.gateway.life.generation → next.gateway = s.cleared) ∧
    (∀ time generation bytes message, turn = .item time (.transport generation (.frame bytes)) →
      Message.decode settings.encoding bytes = .ok message →
      (message.kind = .lifecycle .auth ∧
          (s.gateway.stage ≠ .auth ∨ s.gateway.state = .connected)) ∨
        (message.kind = .lifecycle .sessionOpen ∧
          (s.gateway.stage ≠ .sessionOpen ∨ s.gateway.state = .connected)) →
      { next.gateway with counters := s.gateway.counters } = s.cleared) := by
  have hsound := (isSound_start settings world).run hrun
  have hway := onItsWay_of_run (run?_concat_of_eq hrun hstep)
  have hsettings : next.gateway.settings = settings := hway.settings
  have hmeets : next.gateway.stage = .established →
      Meets link (milestones settings.dialect next.gateway.life.generation)
        (start settings world) (turns ++ [turn]) := by
    intro hstage
    have hpassed := hway.meets
    rw [show next.core.stage = .established from hstage] at hpassed
    exact hsettings ▸ hpassed
  refine ⟨?_, ?_, ?_, ?_⟩
  · intro trigger state hmem hstate
    rcases (move_of_step hsound hstep).of_triggered hstate (triggered_mem_marks hmem) with
      ⟨hstage, hgeneration⟩
    exact ⟨hgeneration, hmeets hstage⟩
  · intro hstate
    exact hmeets ((hsound.step hstep).stage_of_connected
      (hstate.resolve_left (hsound.step hstep).state_ne_busy))
  · rintro time generation event rfl hgeneration
    rw [gateway_of_item hstep]
    exact step_of_other_session link s time event hgeneration
  · rintro time generation bytes message rfl hdecode hkind
    have hbefore : s.gateway.settings = settings := (onItsWay_of_run hrun).settings
    rw [gateway_of_item hstep]
    refine step_of_unawaited link s time generation (hbefore ▸ hdecode) ?_
    rcases hkind with ⟨hkind, hstage | hstate⟩ | ⟨hkind, hstage | hstate⟩
    · exact .inl ⟨hkind, hstage⟩
    · exact .inl ⟨hkind, by simp [hsound.stage_of_connected hstate]⟩
    · exact .inr ⟨hkind, hstage⟩
    · exact .inr ⟨hkind, by simp [hsound.stage_of_connected hstate]⟩

/-! ## A login with the web server -/

/-- The settings for a web server. -/
def webSettings : Settings :=
  Settings.ofEndpoint (.webSocket "wss://localhost/quik")

/-- The web server accepts the login. -/
def webLogin : List Turn :=
  connection ++ [hear 1 "\x7b\"msgid\":20006,\"resultCode\":0\x7d"]

/-- The web server opens the trade session. -/
def webEntry : Turn :=
  hear 1 "\x7b\"msgid\":20000,\"resultCode\":0\x7d"

/-- The opening of the trade session connects a gateway that has logged in. -/
theorem login_before_connection_webEntry :
    ∃ s next, (start webSettings ()).run? openLink webLogin = some s ∧
      s.step? openLink webEntry = some next ∧ next.gateway.state = .connected ∧
      Meets openLink (milestones .web next.gateway.life.generation) (start webSettings ())
        (webLogin ++ [webEntry]) := by
  have hconnected : ((start webSettings ()).run? openLink (webLogin ++ [webEntry])).map
      (fun s => s.gateway.state) = some .connected := by decide +kernel
  rcases Option.map_eq_some_iff.mp hconnected with ⟨next, hnext, hstate⟩
  rw [run?_concat, Option.bind_eq_some_iff] at hnext
  rcases hnext with ⟨s, hrun, hstep⟩
  exact ⟨s, next, hrun, hstep, hstate,
    (login_before_connection hrun hstep).2.1 (.inr hstate)⟩

end TerminalGateway.System
