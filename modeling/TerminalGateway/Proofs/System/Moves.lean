import TerminalGateway.Proofs.System.Basic
import TerminalGateway.Proofs.System.Outline

/-!
# The moves of a gateway

What the core of a gateway and its marks can do in one turn, said once: every turn is one of the
moves listed here, each under the conditions under which it is made.  What is true of the course
of a connection follows from the moves alone.

Main definitions:

- `Core.verdict?`: what a frame decides about the login that waits for it.
- `System.Quiet`: a turn that leaves the course of the connection as it is.
- `System.Move`: the moves.

Main results:

- Theorem `outline_onFrame`: what a frame does is decided by its verdict.
- Theorem `System.move_handle`: an item is taken up by a move.
-/

namespace TerminalGateway

namespace Gateway

open TerminalGateway.Json (Value)
open TerminalGateway.Message (LifecycleKind)

variable {World : Type}

/-! ## Frames -/

/-- What a frame decides about a login. -/
inductive Verdict where
  /-- The login is accepted, and the trade session is still to be opened. -/
  | proceed
  /-- The session is open. -/
  | enter
  | refuse (error : AuthError)

/-- What a message decides about the login that waits for it; nothing if none does. -/
def Core.verdictOn? (c : Core) (message : Message) : Option Verdict :=
  match message.kind, c.stage with
  | .lifecycle .auth, .auth =>
      match loginError? c.settings.dialect message.payload with
      | some error => some (.refuse error)
      | none => if c.settings.dialect.authOpensSession then some .enter else some .proceed
  | .lifecycle .sessionOpen, .sessionOpen =>
      match sessionError? message.payload with
      | some error => some (.refuse error)
      | none => some .enter
  | _, _ => none

/-- What a frame decides about the login that waits for it; nothing if none does. -/
def Core.verdict? (c : Core) (bytes : List UInt8) : Option Verdict :=
  match Message.decode c.settings.encoding bytes with
  | .ok message => c.verdictOn? message
  | .error _ => none

/-- Counts a frame. -/
def countFrame (g : Gateway World) : Gateway World :=
  { g with counters := { g.counters with frames := g.counters.frames + 1 } }

/-- What the current session reports is taken up. -/
theorem step_of_current (link : Link World) {g : Gateway World} (hrunning : g.running = true)
    (time : Reading) (event : Transport.Event) :
    g.step link time (.transport g.life.generation event) =
      { g with journal := [] }.onTransport link time event := by
  unfold Gateway.step
  rw [if_pos hrunning]
  exact if_pos ((Connection.Lifecycle.isCurrent_iff _ _).mpr rfl)

/-- A frame that can be read is counted, and its message is taken up. -/
theorem onFrame_of_decode {g : Gateway World} (link : Link World) (time : Reading)
    {bytes : List UInt8} {message : Message}
    (hdecode : Message.decode g.settings.encoding bytes = .ok message) :
    g.onFrame link time bytes = g.countFrame.onMessage link time message := by
  simp only [onFrame, hdecode]
  rfl

/-- What a gateway does on a verdict. -/
def onVerdict (link : Link World) (g : Gateway World) (time : Reading) : Verdict → Gateway World
  | .proceed => { g with stage := .sessionOpen }
  | .enter => g.onSessionOpen link
  | .refuse error => g.onRefused link time error

/-- A message that is not about the session decides no login. -/
theorem Core.verdictOn?_eq_none (c : Core) {message : Message}
    (h : ∀ kind, message.kind ≠ .lifecycle kind) : c.verdictOn? message = none := by
  unfold verdictOn?
  split <;> rename_i hkind _
  · exact absurd hkind (h _)
  · exact absurd hkind (h _)
  · rfl

/-- An answer to a login is the verdict that it holds. -/
theorem onLogin_eq (link : Link World) (g : Gateway World) (time : Reading) {message : Message}
    (hkind : message.kind = .lifecycle .auth) :
    g.onLogin link time message.payload =
      ((g.outline.core.verdictOn? message).map (g.onVerdict link time)).getD g := by
  have hcore : g.outline.core.stage = g.stage := rfl
  have hsettings : g.outline.core.settings = g.settings := rfl
  unfold Core.verdictOn? onLogin
  rw [hkind, hcore, hsettings]
  cases g.stage with
  | auth =>
      cases loginError? g.settings.dialect message.payload with
      | some error => rfl
      | none => cases g.settings.dialect.authOpensSession <;> rfl
  | _ => rfl

/-- An answer about the trade session is the verdict that it holds. -/
theorem onTradeSession_eq (link : Link World) (g : Gateway World) (time : Reading)
    {message : Message} (hkind : message.kind = .lifecycle .sessionOpen) :
    g.onTradeSession link time message.payload =
      ((g.outline.core.verdictOn? message).map (g.onVerdict link time)).getD g := by
  have hcore : g.outline.core.stage = g.stage := rfl
  unfold Core.verdictOn? onTradeSession
  rw [hkind, hcore]
  cases g.stage with
  | sessionOpen => cases sessionError? message.payload <;> rfl
  | _ => rfl

/-- A message about the session is the verdict that it holds. -/
theorem onMessage_of_lifecycle (link : Link World) (g : Gateway World) (time : Reading)
    {message : Message} {kind : LifecycleKind} (hkind : message.kind = .lifecycle kind) :
    g.onMessage link time message =
      ((g.outline.core.verdictOn? message).map (g.onVerdict link time)).getD g := by
  simp only [onMessage, hkind, onLifecycle]
  cases kind with
  | auth => exact onLogin_eq link g time hkind
  | sessionOpen => exact onTradeSession_eq link g time hkind
  | connectionStatus => simp [Core.verdictOn?, hkind]
  | feedAnswer => simp [Core.verdictOn?, hkind]

/-- A message that decides a login is carried out, and any other leaves no mark. -/
theorem outline_onMessage (link : Link World) (g : Gateway World) (time : Reading)
    (message : Message) :
    (g.onMessage link time message).outline =
      match g.outline.core.verdictOn? message with
      | some verdict => (g.onVerdict link time verdict).outline
      | none => g.outline := by
  have hother : (∀ kind, message.kind ≠ .lifecycle kind) →
      g.outline.core.verdictOn? message = none := g.outline.core.verdictOn?_eq_none
  cases hkind : message.kind with
  | lifecycle kind =>
      rw [onMessage_of_lifecycle link g time hkind]
      cases g.outline.core.verdictOn? message <;> rfl
  | market kind => simp [onMessage, hkind, hother]
  | account kind => simp [onMessage, hkind, hother]
  | reply reply => simp [onMessage, hkind, hother]
  | unhandled =>
      rw [hother (by simp [hkind])]
      simp only [onMessage, hkind]
      rfl

/-- A frame that decides a login is carried out, and any other leaves no mark. -/
theorem outline_onFrame (link : Link World) (g : Gateway World) (time : Reading)
    (bytes : List UInt8) :
    (g.onFrame link time bytes).outline =
      match g.outline.core.verdict? bytes with
      | some verdict => (g.countFrame.onVerdict link time verdict).outline
      | none => g.outline := by
  have hverdict : g.outline.core.verdict? bytes =
      match Message.decode g.settings.encoding bytes with
      | .ok message => g.outline.core.verdictOn? message
      | .error _ => none := rfl
  cases hdecode : Message.decode g.settings.encoding bytes with
  | ok message =>
      rw [hverdict, hdecode, onFrame_of_decode link time hdecode]
      exact outline_onMessage link g.countFrame time message
  | error _ =>
      rw [hverdict, hdecode]
      simp only [onFrame, hdecode]
      rfl

/-- Only a login that waits for an answer can be decided. -/
theorem stage_of_verdict? {c : Core} {bytes : List UInt8} {verdict : Verdict}
    (hverdict : c.verdict? bytes = some verdict) : c.stage = .auth ∨ c.stage = .sessionOpen := by
  unfold Core.verdict? at hverdict
  split at hverdict
  · unfold Core.verdictOn? at hverdict
    split at hverdict <;> simp_all
  · simp at hverdict

/-! ## Submissions -/

@[simp] theorem outline_submission_step (link : Link World) (time : Reading) (g : Gateway World)
    (submission : Submission) : (submission.step link time g).2.outline = g.outline :=
  (outline_of_writes (submission.writes_step link time g)).trans rfl

@[simp] theorem outline_sendRaw (link : Link World) (g : Gateway World) (text : String) :
    (g.sendRaw link text).2.outline = g.outline :=
  outline_of_writes (writes_sendRaw link g text)

/-! ## Requests for an end -/

/-- An item that asks for the end of a session, with whether the gateway goes on after it. -/
def Item.ends? : Item → Option Bool
  | .close _ => some true
  | .shutdown => some false
  | _ => none

end Gateway

namespace System

open TerminalGateway.Gateway

variable {World : Type} {link : Link World}

/-- A turn that leaves the course of the connection as it is. -/
def Quiet (c : Core) : Turn → Prop
  | .item _ (.connect _) => c.running = false
  | .item _ (.close _) => c.running = false
  | .item _ .shutdown => c.running = false
  | .item _ (.sessionReady generation _) => c.running = true → generation ≠ c.life.generation
  | .item _ (.connectFailed generation _) => c.running = true → generation ≠ c.life.generation
  | .item _ (.transport generation event) =>
      c.running = true → generation = c.life.generation → event ≠ .opened
  | .item _ (.reconnect generation) =>
      c.running = true → generation = c.life.generation → c.life.state ≠ .disconnected
  | _ => True

/-- What may become of a core in one turn, with the marks that are left. -/
inductive Move (c : Core) : Turn → Outline → Prop where
  | stay {turn} (hquiet : Quiet c turn) : Move c turn ⟨c, []⟩
  /-- A caller asks for a session while there is one. -/
  | present {time caller} (hrunning : c.running = true) (hstate : c.life.state ≠ .disconnected) :
      Move c (.item time (.connect caller))
        ⟨c, [.answered caller (.error (.connect .alreadyConnected))]⟩
  /-- A caller asks for a session. -/
  | connect {time caller} (hrunning : c.running = true) (hstate : c.life.state = .disconnected) :
      Move c (.item time (.connect caller))
        ⟨{ c with caller := some caller }.opening, c.openingMarks⟩
  /-- A delay is over. -/
  | reconnect {time} (hrunning : c.running = true) (hstate : c.life.state = .disconnected) :
      Move c (.item time (.reconnect c.life.generation)) ⟨c.opening, c.openingMarks⟩
  /-- The connection was made. -/
  | ready {time writer} (hrunning : c.running = true) :
      Move c (.item time (.sessionReady c.life.generation writer))
        ⟨{ c with writer := some writer }, []⟩
  /-- The connection is open, and the login is sent. -/
  | opened {time} (hrunning : c.running = true) :
      Move c (.item time (.transport c.life.generation .opened)) ⟨{ c with stage := .auth }, []⟩
  /-- The login is accepted. -/
  | proceed {time bytes} (hrunning : c.running = true)
      (hverdict : c.verdict? bytes = some .proceed) :
      Move c (.item time (.transport c.life.generation (.frame bytes)))
        ⟨{ c with stage := .sessionOpen }, []⟩
  /-- The session is open. -/
  | enter {time bytes} (hrunning : c.running = true) (hstate : c.life.state = .connecting)
      (hverdict : c.verdict? bytes = some .enter) :
      Move c (.item time (.transport c.life.generation (.frame bytes)))
        ⟨c.established, [.triggered .sessionOpened (some .busy),
          .triggered .replayDone (some .connected)] ++ c.answerMarks (.ok ())⟩
  /-- The login or the trade session is refused. -/
  | refuse {time bytes error} (hrunning : c.running = true) (hstate : c.life.state = .connecting)
      (hverdict : c.verdict? bytes = some (.refuse error)) :
      Move c (.item time (.transport c.life.generation (.frame bytes)))
        ⟨{ c.ended .disconnected with caller := none },
          [.triggered .authFailed (some .disconnecting), .triggered .closed (some .disconnected)] ++
            c.answerMarks (.error (.auth error))⟩
  /-- The end of a session is asked for while there is none. -/
  | idle {time item running} (hrunning : c.running = true) (hends : item.ends? = some running)
      (hstate : c.life.state = .disconnected) :
      Move c (.item time item) ⟨{ c with life := c.life.nextGeneration, running := running }, []⟩
  /-- The end of a session is asked for. -/
  | close {time item running} (hrunning : c.running = true) (hends : item.ends? = some running)
      (hstate : c.life.state = .connecting ∨ c.life.state = .connected) :
      Move c (.item time item)
        ⟨{ c.ended .disconnected with caller := none, running := running },
          .triggered .close (some .disconnecting) :: c.answerMarks (.error .closed) ++
            [.triggered .closed (some .disconnected)]⟩
  /-- The connection was not made. -/
  | fail {time error marks core} (hrunning : c.running = true)
      (hstate : c.life.state = .connecting) (hafter : Aftermath error c.failed marks core) :
      Move c (.item time (.connectFailed c.life.generation error))
        ⟨core, .triggered .connectFailed (some .disconnected) :: marks⟩
  /-- The connection was lost. -/
  | lose {time item marks core} (hrunning : c.running = true)
      (hitem : (∃ reason, item = .transport c.life.generation (.closed reason)) ∨
        item = .heartbeatTick c.life.generation)
      (hstate : c.life.state = .connecting ∨ c.life.state = .connected)
      (hafter : Aftermath .closedDuringHandshake (c.ended .disconnected) marks core) :
      Move c (.item time item) ⟨core, .triggered .unexpectedClose (some .disconnected) :: marks⟩

/-! ## Items -/

variable {g : Gateway World} {c : Core}

/-- A request for a session is taken up by a move. -/
theorem move_connect (time : Reading) (caller : Nat) (houtline : g.outline = ⟨c, []⟩)
    (hrunning : c.running = true) :
    Move c (.item time (.connect caller)) (g.onConnect caller).outline := by
  have hlife : g.outline.core.life.state = g.state := rfl
  rw [houtline] at hlife
  unfold onConnect
  split <;> rename_i hstate <;> rw [← hlife] at hstate
  · have hwaiting : { g with caller := some caller }.outline =
        { g.outline with core := { g.outline.core with caller := some caller } } := rfl
    rw [houtline] at hwaiting
    rw [outline_openSession (by rw [hwaiting]; exact hstate), hwaiting]
    exact .connect hrunning hstate
  · rw [outline_record_of_isMark _ rfl, houtline]
    exact .present hrunning hstate

/-- A request for an end closes the connection; a gateway that has stopped goes on no more. -/
theorem outline_handle_of_ends (link : Link World) (time : Reading) {item : Item} {running : Bool}
    (hends : item.ends? = some running)
    (hrunning : (g.disconnect link).outline.core.running = true)
    (hcaller : (g.disconnect link).outline.core.caller = none) :
    (g.handle link time item).outline =
      { (g.disconnect link).outline with
        core := { (g.disconnect link).outline.core with running := running } } := by
  have hstop : ∀ g' : Gateway World, { g' with running := false }.outline =
      { g'.outline with core := { g'.outline.core with running := false } } := fun _ => rfl
  cases item with
  | close caller =>
      obtain rfl : true = running := by simpa [Item.ends?] using hends
      have hclose : (g.handle link time (.close caller)).outline = (g.disconnect link).outline :=
        (outline_record_of_not_isMark _ rfl).trans (outline_expireAll _ time)
      rw [hclose, ← hrunning]
  | shutdown =>
      obtain rfl : false = running := by simpa [Item.ends?] using hends
      have hshutdown : g.handle link time .shutdown =
          { ((g.disconnect link).expireAll time).answer (.error .stopped) with
            running := false } := rfl
      rw [hshutdown, hstop, outline_answer, outline_expireAll, hcaller]
      simp [← hcaller]
  | _ => simp [Item.ends?] at hends

/-- A request for an end is taken up by a move. -/
theorem move_ends (link : Link World) (time : Reading) {item : Item} {running : Bool}
    (houtline : g.outline = ⟨c, []⟩) (hrunning : c.running = true)
    (hends : item.ends? = some running)
    (hstate : c.life.state = .disconnected ∧ c.caller = none ∨
      c.life.state = .connecting ∨ c.life.state = .connected) :
    Move c (.item time item) (g.handle link time item).outline := by
  rcases hstate with ⟨hstate, hcaller⟩ | hstate
  · have hdisconnect :=
      outline_disconnect_of_disconnected link (g := g) (by rw [houtline]; exact hstate)
    rw [houtline] at hdisconnect
    rw [outline_handle_of_ends link time hends (by rw [hdisconnect]; exact hrunning)
      (by rw [hdisconnect]; exact hcaller), hdisconnect]
    exact .idle hrunning hends hstate
  · have hdisconnect := outline_disconnect_of_open link (g := g) (by rw [houtline]; exact hstate)
    rw [houtline] at hdisconnect
    rw [outline_handle_of_ends link time hends (by rw [hdisconnect]; exact hrunning)
      (by rw [hdisconnect]), hdisconnect]
    exact .close hrunning hends hstate

/-- A frame of the current session is taken up by a move. -/
theorem move_frame (link : Link World) (time : Reading) (bytes : List UInt8)
    (houtline : g.outline = ⟨c, []⟩) (hrunning : c.running = true)
    (hstate : c.stage = .auth ∨ c.stage = .sessionOpen → c.life.state = .connecting) :
    Move c (.item time (.transport c.life.generation (.frame bytes)))
      (g.onFrame link time bytes).outline := by
  have hcounted : g.countFrame.outline = ⟨c, []⟩ := houtline
  rw [outline_onFrame, houtline]
  dsimp only
  cases hverdict : c.verdict? bytes with
  | none => exact .stay fun _ _ => by simp
  | some verdict =>
      have hconnecting : c.life.state = .connecting := hstate (stage_of_verdict? hverdict)
      dsimp only
      cases verdict with
      | proceed =>
          have hstage : (g.countFrame.onVerdict link time .proceed).outline =
              { g.countFrame.outline with
                core := { g.countFrame.outline.core with stage := .sessionOpen } } := rfl
          rw [hcounted] at hstage
          rw [hstage]
          exact .proceed hrunning hverdict
      | enter =>
          have henter := outline_onSessionOpen link (g := g.countFrame)
            (by rw [hcounted]; exact hconnecting)
          rw [hcounted] at henter
          simp only [onVerdict]
          rw [henter]
          exact .enter hrunning hconnecting hverdict
      | refuse error =>
          have hrefuse := outline_onRefused link time error (g := g.countFrame)
            (by rw [hcounted]; exact hconnecting)
          rw [hcounted] at hrefuse
          simp only [onVerdict]
          rw [hrefuse]
          exact .refuse hrunning hconnecting hverdict

/-- A lost connection is taken up by a move. -/
theorem move_lost (link : Link World) (time : Reading) {item : Item}
    (houtline : g.outline = ⟨c, []⟩) (hrunning : c.running = true)
    (hitem : (∃ reason, item = .transport c.life.generation (.closed reason)) ∨
      item = .heartbeatTick c.life.generation)
    (hstate : c.life.state = .connecting ∨ c.life.state = .connected) :
    Move c (.item time item) (g.onLost link time).outline := by
  rcases outline_onLost link time (g := g) (by rw [houtline]; exact hstate) with
    ⟨marks, core, hlost, hafter⟩
  rw [houtline] at hlost hafter
  rw [hlost]
  exact .lose hrunning hitem hstate hafter

/-- The opening of a connection is taken up by a move. -/
theorem move_opened (link : Link World) (time : Reading) (houtline : g.outline = ⟨c, []⟩)
    (hrunning : c.running = true) :
    Move c (.item time (.transport c.life.generation .opened)) (g.onOpened link).outline := by
  have hopened : (g.onOpened link).outline =
      { g.outline with core := { g.outline.core with stage := .auth } } :=
    outline_sendAll link _ _
  rw [hopened, houtline]
  exact .opened hrunning

/-- A failure to connect is taken up by a move. -/
theorem move_connectFailed (time : Reading) (error : ConnectError)
    (houtline : g.outline = ⟨c, []⟩) (hrunning : c.running = true)
    (hstate : c.life.state = .connecting) :
    Move c (.item time (.connectFailed c.life.generation error))
      (g.onConnectFailed time error).outline := by
  rcases outline_onConnectFailed time error (g := g) (by rw [houtline]; exact hstate) with
    ⟨marks, core, hfailed, hafter⟩
  rw [houtline] at hfailed hafter
  rw [hfailed]
  exact .fail hrunning hstate hafter

/-- An item that is taken up while the connection stands as its tasks say is taken up by a
move. -/
theorem move_handle (link : Link World) (time : Reading) (item : Item)
    (houtline : g.outline = ⟨c, []⟩) (hrunning : c.running = true)
    (hstate : c.life.state = .disconnected ∧ c.caller = none ∨
      c.life.state = .connecting ∨ c.life.state = .connected)
    (hstage : c.stage = .auth ∨ c.stage = .sessionOpen → c.life.state = .connecting)
    (hfailed : ∀ error, item = .connectFailed c.life.generation error →
      c.life.state = .connecting)
    (hclosed : ∀ reason, item = .transport c.life.generation (.closed reason) →
      c.life.state = .connecting ∨ c.life.state = .connected) :
    Move c (.item time item) (g.handle link time item).outline := by
  have hlife : g.life = c.life := congrArg (fun o => o.core.life) houtline
  have hquiet : ∀ {g' : Gateway World}, Quiet c (.item time item) → g'.outline = g.outline →
      Move c (.item time item) g'.outline := by
    intro g' hquiet hsame
    rw [hsame, houtline]
    exact .stay hquiet
  cases item with
  | connect caller => exact move_connect time caller houtline hrunning
  | close caller => exact move_ends link time houtline hrunning rfl hstate
  | shutdown => exact move_ends link time houtline hrunning rfl hstate
  | subscribe asset sink declared =>
      exact hquiet trivial (outline_onSubscribe link g asset sink declared)
  | unsubscribe asset sink => exact hquiet trivial rfl
  | expirySweep => exact hquiet trivial (outline_expire g time _)
  | sessionReady generation writer =>
      by_cases hcurrent : generation = c.life.generation
      · subst hcurrent
        have hready : (g.handle link time (.sessionReady c.life.generation writer)).outline =
            { g.outline with core := { g.outline.core with writer := some writer } } := by
          simp [handle, onSessionReady, hlife]
        rw [hready, houtline]
        exact .ready hrunning
      · refine hquiet (fun _ => hcurrent) ?_
        simp [handle, onSessionReady, hlife, hcurrent]
  | connectFailed generation error =>
      by_cases hcurrent : generation = c.life.generation
      · subst hcurrent
        have hfail : g.handle link time (.connectFailed c.life.generation error) =
            g.onConnectFailed time error := by
          simp [handle, hlife]
        rw [hfail]
        exact move_connectFailed time error houtline hrunning (hfailed error rfl)
      · refine hquiet (fun _ => hcurrent) ?_
        simp [handle, hlife, hcurrent]
  | transport generation event =>
      by_cases hcurrent : generation = c.life.generation
      · subst hcurrent
        have htransport : g.handle link time (.transport c.life.generation event) =
            g.onTransport link time event := by
          simp [handle, hlife]
        rw [htransport]
        cases event with
        | opened => exact move_opened link time houtline hrunning
        | frame bytes => exact move_frame link time bytes houtline hrunning hstage
        | error text => exact hquiet (fun _ _ => by simp) rfl
        | closed reason =>
            exact move_lost link time houtline hrunning (.inl ⟨reason, rfl⟩) (hclosed reason rfl)
        | pong => exact hquiet (fun _ _ => by simp) (outline_onPong g time)
      · refine hquiet (fun _ hsame => absurd hsame hcurrent) ?_
        simp [handle, hlife, hcurrent]
  | heartbeatTick generation =>
      simp only [handle, onTick]
      split <;> rename_i hprobed
      · rcases hprobed with ⟨hcurrent, hconnected⟩
        rw [hlife, Connection.Lifecycle.isCurrent_iff] at hcurrent
        rw [state, hlife] at hconnected
        subst hcurrent
        split
        · exact move_lost link time houtline hrunning (.inr rfl) (.inr hconnected)
        · exact hquiet trivial (outline_probe link g)
      · exact hquiet trivial rfl
  | reconnect generation =>
      simp only [handle, onReconnect]
      split <;> rename_i hdue <;>
        rw [hlife, Connection.Lifecycle.isCurrent_iff, state, hlife] at hdue
      · rcases hdue with ⟨rfl, hdisconnected⟩
        rw [outline_openSession (by rw [houtline]; exact hdisconnected), houtline]
        exact .reconnect hrunning hdisconnected
      · exact hquiet (fun _ hcurrent hdisconnected => hdue ⟨hcurrent, hdisconnected⟩) rfl

end System

end TerminalGateway
