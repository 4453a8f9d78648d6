import TerminalGateway.CommandLine.Runner
import TerminalGateway.Proofs.System.Feeds
import TerminalGateway.Proofs.Transaction.Refusal

/-!
# Logins that cannot be written

When the connection of a session is open, the gateway writes its login and waits for an answer,
whether the login could be written or not.  A text that the encoding has no bytes for is refused
without harm to the connection, and then nobody says anything any more: the attempt is left to a
terminal that waits for a login.

Main definitions:

- `System.Greeted`, `System.GivenUp`: a login that is sent, and an attempt that is over.
- `System.Undecided`: a run in which nothing ends the attempt under way.

Main results:

- Theorem `System.gateway_of_opened`: the opening of a connection changes the stage and no more.
- Theorem `System.Undecided.run`: an attempt goes on, and whoever waits goes on waiting.
- Theorem `System.greeted_or_givenUp_iff`: the attempt is as it should be if the login is written.
-/

namespace TerminalGateway

/-- The frames of a login. -/
def Settings.greeting (settings : Settings) : List String :=
  Command.handshake settings.dialect settings.credentials.login settings.credentials.password
    settings.clientVersion

/-- Every dialect logs in with one frame. -/
theorem Settings.exists_greeting (settings : Settings) :
    ∃ text, settings.greeting = [text] := by
  unfold greeting
  cases settings.dialect with
  | web => exact ⟨_, rfl⟩
  | bridge => exact ⟨_, rfl⟩

namespace System

open TerminalGateway.CommandLine (Runner)
open TerminalGateway.Gateway
open TerminalGateway.Transport (Outbox)

variable {World : Type} {link : Link World}

/-- Of a single text it makes no difference to the gateway whether it can be written. -/
theorem sendAll_singleton (link : Link World) (g : Gateway World) (text : String) :
    g.sendAll link [text] = (g.send link text).2 := by
  unfold sendAll
  rcases g.send link text with ⟨result, next⟩
  cases result <;> rfl

/-! ## The opening of a connection -/

/-- Every frame of the login was written to the session in the last turn. -/
def Greeted (next : System World) : Prop :=
  ∃ writer, next.gateway.writer = some writer ∧
    ∀ text ∈ next.gateway.settings.greeting,
      .wrote writer text (.ok ()) ∈ next.gateway.journal

/-- The attempt was given up in the last turn: there is no connection, and whoever waited was told
an error. -/
def GivenUp (s next : System World) : Prop :=
  next.gateway.state = .disconnected ∧ ∀ caller, s.gateway.caller = some caller →
    ∃ error, (caller, .error error) ∈ answers next.gateway.journal

/-- A connection that reports its opening belongs to an attempt, and has a writer. -/
theorem attempt_of_opened {settings : Settings} {world : World} {turns : List Turn}
    {s next : System World} {time : Reading}
    (hrun : (start settings world).run? link turns = some s)
    (hstep : s.step? link (.item time (.transport s.gateway.life.generation .opened)) =
      some next) :
    s.gateway.running = true ∧ s.gateway.state = .connecting ∧
      ∃ writer, s.gateway.writer = some writer := by
  have hsound := (isSound_start settings world).run hrun
  rcases of_step hstep with ⟨tasks, htake, -, -⟩
  have hready : s.tasks.session s.core.life.generation = .ready := (Tasks.of_pass? htake).1
  have hstate := (hready ▸ hsound.standing).of_ready.1
  exact ⟨hsound.running_of_connecting hstate, hstate,
    Option.ne_none_iff_exists'.mp (equipped_of_run hrun (.inl hready))⟩

/-- The opening of a connection leads to the stage in which the login is answered, and to no more,
whatever becomes of the login. -/
theorem gateway_of_opened {s next : System World} {time : Reading} {writer : Nat} {text : String}
    (hrunning : s.gateway.running = true) (hwriter : s.gateway.writer = some writer)
    (hgreeting : s.gateway.settings.greeting = [text])
    (hstep : s.step? link (.item time (.transport s.gateway.life.generation .opened)) =
      some next) :
    next.gateway = { s.gateway with
      stage := .auth
      world := (link.send s.gateway.world writer text).2
      journal := [.wrote writer text (link.send s.gateway.world writer text).1] } := by
  have hopened : next.gateway =
      { s.cleared with stage := .auth }.sendAll link s.gateway.settings.greeting := by
    rw [gateway_of_item hstep]
    exact step_of_current link hrunning time .opened
  rw [hopened, hgreeting, sendAll_singleton]
  simp only [Gateway.send, cleared, hwriter]
  rfl

section Opened

variable {s next : System World} {writer : Nat} {text : String}
  (hnext : next.gateway = { s.gateway with
    stage := .auth
    world := (link.send s.gateway.world writer text).2
    journal := [.wrote writer text (link.send s.gateway.world writer text).1] })

include hnext

/-- The login is sent if its frame could be written. -/
theorem greeted_iff (hwriter : s.gateway.writer = some writer)
    (hgreeting : s.gateway.settings.greeting = [text]) :
    Greeted next ↔ (link.send s.gateway.world writer text).1 = .ok () := by
  unfold Greeted
  rw [hnext]
  simp [hwriter, hgreeting, eq_comm]

/-- The opening of a connection gives no attempt up. -/
theorem not_givenUp (hstate : s.gateway.state = .connecting) : ¬ GivenUp s next := by
  rintro ⟨hrest, -⟩
  rw [hnext] at hrest
  exact absurd (hstate.symm.trans hrest) (by simp)

end Opened

/-! ## Attempts that nothing ends -/

/-- Nothing in a run ends the attempt that is under way. -/
def Undecided (link : Link World) : System World → List Turn → Prop
  | _, [] => True
  | s, turn :: rest =>
      s.ending? turn = none ∧
        ∀ next, s.step? link turn = some next → Undecided link next rest

/-- Callers who are told that there is a session, or an attempt, already. -/
def turnedDown (callers : List Nat) : List (Nat × Except GatewayError Unit) :=
  callers.map fun caller => (caller, .error (.connect .alreadyConnected))

/-- An attempt goes on in a turn that does not end it. -/
theorem attempt_goes_on {s next : System World} {turn : Turn} (hsound : s.IsSound)
    (hstate : s.gateway.state = .connecting) (hending : s.ending? turn = none)
    (hstep : s.step? link turn = some next) :
    next.gateway.life = s.gateway.life ∧ next.gateway.caller = s.gateway.caller ∧
      answers next.gateway.journal = turnedDown (s.request? turn).toList := by
  cases hrequest : s.request? turn with
  | some caller =>
      rw [gateway_of_request hrequest hstep (by simp [hstate])]
      exact ⟨rfl, rfl, rfl⟩
  | none =>
      have hattempt := attempt_of_step hsound hstep hstate hrequest
      rw [hending] at hattempt
      rw [← answers_marks]
      cases hattempt with
      | goesOn hlife hcaller hmarks => exact ⟨hlife, hcaller, by rw [hmarks]; rfl⟩

/-- An attempt goes on along a run in which nothing ends it, and whoever waits for it goes on
waiting; whoever else asks for a session is turned down. -/
theorem Undecided.run {s last : System World} {turns : List Turn}
    (h : Undecided link s turns) (hsound : s.IsSound) (hstate : s.gateway.state = .connecting)
    (hrun : s.run? link turns = some last) :
    last.gateway.life = s.gateway.life ∧ last.gateway.caller = s.gateway.caller ∧
      answers last.log = answers s.log ++ turnedDown (s.requests link turns) := by
  induction turns generalizing s with
  | nil =>
      cases hrun
      exact ⟨rfl, rfl, (List.append_nil _).symm⟩
  | cons turn rest ih =>
      rcases Option.bind_eq_some_iff.mp hrun with ⟨next, hstep, hrest⟩
      rcases attempt_goes_on hsound hstate h.1 hstep with ⟨hlife, hcaller, hanswers⟩
      rcases of_step hstep with ⟨-, -, -, hlog⟩
      have hconnecting : next.gateway.state = .connecting := by
        rw [Gateway.state, hlife]
        exact hstate
      rcases ih (h.2 next hstep) (hsound.step hstep) hconnecting hrest with
        ⟨hlast, hwaits, hlater⟩
      refine ⟨hlast.trans hlife, hwaits.trans hcaller, ?_⟩
      rw [hlater, hlog, answers_append, hanswers, List.append_assoc]
      simp [requests, hstep, turnedDown]

/-! ## Logins -/

/-- When its connection is open, a gateway writes its login, which is one frame, and waits for the
answer, whether the frame could be written or not.  If it was, the login is sent; if not, the
attempt is not given up either, and it goes on until something else ends it: the session stays the
same, whoever waits for it is not answered, and other callers are turned down. -/
theorem greeted_or_givenUp_iff {settings : Settings} {world : World} {turns : List Turn}
    {s next : System World} {time : Reading}
    (hrun : (start settings world).run? link turns = some s)
    (hstep : s.step? link (.item time (.transport s.gateway.life.generation .opened)) =
      some next) :
    ∃ writer text, s.gateway.state = .connecting ∧ s.gateway.writer = some writer ∧
      s.gateway.settings.greeting = [text] ∧
      next.gateway = { s.gateway with
        stage := .auth
        world := (link.send s.gateway.world writer text).2
        journal := [.wrote writer text (link.send s.gateway.world writer text).1] } ∧
      (Greeted next ∨ GivenUp s next ↔ (link.send s.gateway.world writer text).1 = .ok ()) ∧
      ∀ rest last, next.run? link rest = some last → Undecided link next rest →
        last.gateway.life = s.gateway.life ∧ last.gateway.caller = s.gateway.caller ∧
          answers last.log = answers s.log ++ turnedDown (next.requests link rest) := by
  rcases attempt_of_opened hrun hstep with ⟨hrunning, hstate, writer, hwriter⟩
  rcases s.gateway.settings.exists_greeting with ⟨text, hgreeting⟩
  have hnext := gateway_of_opened hrunning hwriter hgreeting hstep
  refine ⟨writer, text, hstate, hwriter, hgreeting, hnext, ?_, ?_⟩
  · rw [greeted_iff hnext hwriter hgreeting, or_iff_left (not_givenUp hnext hstate)]
  · intro rest last hrest hundecided
    have hsound := ((isSound_start settings world).run hrun).step hstep
    have hconnecting : next.gateway.state = .connecting := by
      rw [hnext]
      exact hstate
    rcases hundecided.run hsound hconnecting hrest with ⟨hlife, hcaller, hanswers⟩
    rcases of_step hstep with ⟨-, -, -, hlog⟩
    refine ⟨hlife.trans (by rw [hnext]), hcaller.trans (by rw [hnext]), ?_⟩
    rw [hanswers, hlog, answers_append, hnext]
    simp [answers]

/-! ## A password in another script -/

/-- A login with the bridge by a password for which its encoding has no bytes. -/
def foreignSettings : Settings :=
  { bridgeSettings with credentials := { password := "日本" } }

/-- A line to the bridge that takes texts in its encoding. -/
def bridgeLine : Outbox where
  encoding := foreignSettings.encoding
  splitter := {
    delimiter := Text.Utf8.encode Frame.defaultDelimiter.toList
    maxLength := Frame.defaultMaxLength
    delimiter_ne := by decide }
  current := some 7

/-- A caller asks for a session, and its connection is made. -/
def dialing : List Turn :=
  [.item midnight (.connect 0), .item midnight (.sessionReady 1 7)]

/-- The connection reports its opening. -/
def opening : Turn :=
  .item midnight (.transport 1 .opened)

/-- Another caller asks for a session, and pending transactions are looked through. -/
def meanwhile : List Turn :=
  [.item midnight (.connect 1), .item midnight .expirySweep]

/-- The login of the first caller could not be written.  A second one is turned down, and the
first one goes on waiting. -/
theorem greeted_or_givenUp_iff_foreign :
    ∃ s next last, (start foreignSettings bridgeLine).run? Runner.link dialing = some s ∧
      s.step? Runner.link (.item midnight (.transport s.gateway.life.generation .opened)) =
        some next ∧
      ¬ (Greeted next ∨ GivenUp s next) ∧
      next.run? Runner.link meanwhile = some last ∧ last.gateway.caller = some 0 ∧
      answers last.log = [(1, .error (.connect .alreadyConnected))] := by
  have hfirst : ((start foreignSettings bridgeLine).run? Runner.link dialing).map
      (fun s => (s.gateway.life.generation, s.gateway.caller, (answers s.log).isEmpty)) =
      some (1, some 0, true) := by decide +kernel
  have hsecond : ((start foreignSettings bridgeLine).run? Runner.link (dialing ++ [opening])).map
      (fun s => (arrived s.gateway.journal, s.requests Runner.link meanwhile,
        (s.run? Runner.link meanwhile).isSome)) = some ([], [1], true) := by decide +kernel
  rcases Option.map_eq_some_iff.mp hsecond with ⟨next, hwhole, hnext⟩
  simp only [Prod.mk.injEq] at hnext
  rcases hnext with ⟨hjournal, hrequests, hdue⟩
  rcases Option.isSome_iff_exists.mp hdue with ⟨last, hlast⟩
  rw [run?_concat, Option.bind_eq_some_iff] at hwhole
  rcases hwhole with ⟨s, hrun, hstep⟩
  rw [hrun] at hfirst
  simp only [Option.map_some, Option.some.injEq, Prod.mk.injEq, List.isEmpty_iff] at hfirst
  rcases hfirst with ⟨hgeneration, hcaller, hanswers⟩
  have hopened : s.step? Runner.link
      (.item midnight (.transport s.gateway.life.generation .opened)) = some next := by
    rw [hgeneration]
    exact hstep
  rcases greeted_or_givenUp_iff hrun hopened with
    ⟨writer, text, -, -, -, hgateway, hiff, hgoesOn⟩
  rcases hgoesOn meanwhile last hlast ⟨rfl, fun _ _ => ⟨rfl, fun _ _ => trivial⟩⟩ with
    ⟨-, hwaits, htold⟩
  refine ⟨s, next, last, hrun, hopened, ?_, hlast, hwaits.trans hcaller, ?_⟩
  · rw [hiff]
    intro hwritten
    rw [hgateway, hwritten] at hjournal
    cases hjournal
  · rw [htold, hanswers, hrequests]
    rfl

/-- A login that the encoding has no bytes for is not sent, and its attempt is not given up. -/
theorem abandoned_login :
    ∃ s next, (start foreignSettings bridgeLine).run? Runner.link dialing = some s ∧
      s.step? Runner.link opening = some next ∧
      ¬ (Greeted next ∨ GivenUp s next) ∧
      next.gateway.state = .connecting ∧ next.gateway.caller = some 0 ∧
      arrived next.log = [] ∧ next.gateway.world.bytes = [] := by
  have hfacts : ((start foreignSettings bridgeLine).run? Runner.link (dialing ++ [opening])).map
      (fun s => (s.gateway.state, s.gateway.caller, arrived s.gateway.journal, arrived s.log,
        s.gateway.world.bytes)) =
      some (.connecting, some 0, [], [], []) := by decide +kernel
  rcases Option.map_eq_some_iff.mp hfacts with ⟨next, hrun, hnext⟩
  simp only [Prod.mk.injEq] at hnext
  rcases hnext with ⟨hstate, hcaller, hjournal, hlog, hbytes⟩
  rw [run?_concat, Option.bind_eq_some_iff] at hrun
  rcases hrun with ⟨s, hrun, hstep⟩
  refine ⟨s, next, hrun, hstep, ?_, hstate, hcaller, hlog, hbytes⟩
  rintro (⟨writer, -, hsent⟩ | ⟨hrest, -⟩)
  · rcases next.gateway.settings.exists_greeting with ⟨text, hgreeting⟩
    have hwrote := hsent text (by simp [hgreeting])
    have harrived : text ∈ arrived next.gateway.journal :=
      List.mem_filterMap.mpr ⟨_, hwrote, rfl⟩
    simp [hjournal] at harrived
  · exact absurd (hstate.symm.trans hrest) (by simp)

end System

end TerminalGateway
