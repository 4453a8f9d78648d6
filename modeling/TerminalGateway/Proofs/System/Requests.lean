import TerminalGateway.Proofs.System.Endings
import Mathlib.Data.List.Perm.Basic

/-!
# Requests for a session

A caller who asks for a session waits until the attempt that its request begins comes to an end,
and is then told how it ended.  Nobody waits but for the attempt under way, so a request that
comes meanwhile is turned down without touching whoever waits.  Along every run each request is
answered once, except for the one that still waits.

Main definitions:

- `System.requests`, `System.due`: the requests that are taken up, and the answers due in a turn.
- `System.Awaits`: a caller who waits for the session that its own request began.
- `System.Answered`: what a turn does about requests.

Main results:

- Theorem `System.perm_of_run`: no request is lost, and none is answered twice.
- Theorem `System.awaits_of_run`: whoever waits waits for the session that its request began.
- Theorem `System.answered_of_run`: who is answered in a turn, what, and how it then stands.
-/

namespace TerminalGateway.System

open TerminalGateway.Gateway

variable {World : Type} {link : Link World}

/-! ## Requests and what is due to them -/

/-- The caller whose request for a session is taken up in a turn. -/
def request? (s : System World) : Turn → Option Nat
  | .item _ (.connect caller) => if s.gateway.running then some caller else none
  | _ => none

/-- The callers whose requests a run takes up, oldest first. -/
def requests (link : Link World) : System World → List Turn → List Nat
  | _, [] => []
  | s, turn :: rest =>
      (s.request? turn).toList ++
        ((s.step? link turn).map fun next => requests link next rest).getD []

/-- How the attempt that is under way ends in a turn; nothing while it goes on. -/
def ending? (s : System World) : Turn → Option (Except GatewayError Unit)
  | .item _ item => s.core.conclusion? item
  | _ => none

/-- The answers that are due in a turn: to a caller whose request comes while there is a session
or an attempt, and to the caller who waits for an attempt that ends. -/
def due (s : System World) (turn : Turn) : List (Nat × Except GatewayError Unit) :=
  match s.request? turn with
  | some caller =>
      if s.gateway.state = .disconnected then []
      else [(caller, .error (.connect .alreadyConnected))]
  | none =>
      match s.ending? turn with
      | some result => (s.gateway.caller.map (·, result)).toList
      | none => []

theorem requests_concat {s middle : System World} {turns : List Turn}
    (hrun : s.run? link turns = some middle) (turn : Turn) :
    s.requests link (turns ++ [turn]) = s.requests link turns ++ (middle.request? turn).toList := by
  induction turns generalizing s with
  | nil =>
      obtain rfl : s = middle := Option.some.inj hrun
      cases hstep : s.step? link turn <;> simp [requests, hstep]
  | cons first rest ih =>
      rcases Option.bind_eq_some_iff.mp hrun with ⟨next, hstep, hrun⟩
      simp [requests, hstep, ih hrun]

/-- A request is taken up by a gateway that runs. -/
theorem of_request? {s : System World} {turn : Turn} {caller : Nat}
    (h : s.request? turn = some caller) :
    s.gateway.running = true ∧ ∃ time, turn = .item time (.connect caller) := by
  unfold request? at h
  split at h
  · split at h <;> rename_i hrunning
    · obtain rfl := Option.some.inj h
      exact ⟨hrunning, _, rfl⟩
    · simp at h
  · simp at h

/-- A request that comes while there is a session or an attempt is turned down, and nothing else
happens. -/
theorem gateway_of_request {s next : System World} {turn : Turn} {caller : Nat}
    (hrequest : s.request? turn = some caller) (hstep : s.step? link turn = some next)
    (hstate : s.gateway.state ≠ .disconnected) :
    next.gateway = s.cleared.record (.answered caller (.error (.connect .alreadyConnected))) := by
  rcases of_request? hrequest with ⟨hrunning, time, rfl⟩
  rw [gateway_of_item hstep]
  unfold Gateway.step
  rw [if_pos hrunning]
  exact if_neg hstate

/-- A request that comes while there is neither begins a session. -/
theorem outline_of_request {s next : System World} {turn : Turn} {caller : Nat}
    (hrequest : s.request? turn = some caller) (hstep : s.step? link turn = some next)
    (hstate : s.gateway.state = .disconnected) :
    next.gateway.outline = ⟨{ s.core with caller := some caller }.opening, s.core.openingMarks⟩ := by
  rcases of_request? hrequest with ⟨hrunning, time, rfl⟩
  have hconnect : next.gateway = { s.cleared with caller := some caller }.openSession := by
    rw [gateway_of_item hstep]
    unfold Gateway.step
    rw [if_pos hrunning]
    exact if_pos hstate
  rw [hconnect, outline_openSession (by exact hstate)]
  rfl

/-! ## Every turn -/

/-- Nobody waits but for an attempt under way. -/
theorem IsSound.state_of_caller {s : System World} (hsound : s.IsSound) {caller : Nat}
    (hcaller : s.gateway.caller = some caller) : s.gateway.state = .connecting :=
  hsound.standing.phase.2.2 (Option.isSome_iff_exists.mpr ⟨caller, hcaller⟩)

/-- What becomes of an attempt in a turn without a request. -/
theorem attempt_of_step {s next : System World} {turn : Turn} (hsound : s.IsSound)
    (hstep : s.step? link turn = some next) (hstate : s.gateway.state = .connecting)
    (hrequest : s.request? turn = none) :
    Attempt s.core (s.ending? turn) next.gateway.outline := by
  cases turn with
  | item time item =>
      rcases of_step hstep with ⟨tasks, htake, -, -⟩
      rw [gateway_of_item hstep]
      refine attempt_of_item hsound time htake hstate ?_
      rintro caller rfl
      simp [request?, hsound.running_of_connecting hstate] at hrequest
  | submit issuer intent =>
      cases hstep
      exact .goesOn rfl rfl rfl
  | advance time number =>
      rcases Option.map_eq_some_iff.mp hstep with ⟨submission, hsubmission, rfl⟩
      have hsame := outline_submission_step link time s.cleared submission
      exact .goesOn (congrArg (fun o => o.core.life) hsame)
        (congrArg (fun o => o.core.caller) hsame) (congrArg Outline.marks hsame)
  | raw text =>
      cases hstep
      have hsame := outline_sendRaw link s.cleared text
      exact .goesOn (congrArg (fun o => o.core.life) hsame)
        (congrArg (fun o => o.core.caller) hsame) (congrArg Outline.marks hsame)

/-- While no attempt is under way, a turn without a request answers nobody and opens no
session. -/
theorem Move.of_no_attempt {c : Core} {turn : Turn} {o : Outline} (hmove : Move c turn o)
    (hstate : c.life.state ≠ .connecting) (hcaller : c.caller = none)
    (hrequest : ∀ time caller, turn = .item time (.connect caller) → c.running = false) :
    answers o.marks = [] ∧ o.core.caller = none ∧
      (o.core.life.state = .connected → c.life.state = .connected) := by
  have hnone : ∀ result : Except GatewayError Unit,
      (c.caller.map (·, result)).toList = [] := by simp [hcaller]
  cases hmove with
  | stay hquiet => exact ⟨rfl, hcaller, id⟩
  | present hrunning hopen => simp [hrequest _ _ rfl] at hrunning
  | connect hrunning hrest => simp [hrequest _ _ rfl] at hrunning
  | reconnect hrunning hrest => exact ⟨rfl, hcaller, by simp [Core.opening]⟩
  | ready hrunning => exact ⟨rfl, hcaller, id⟩
  | opened hrunning => exact ⟨rfl, hcaller, id⟩
  | proceed hrunning hverdict => exact ⟨rfl, hcaller, id⟩
  | enter hrunning hconnecting hverdict => exact absurd hconnecting hstate
  | refuse hrunning hconnecting hverdict => exact absurd hconnecting hstate
  | idle hrunning hends hrest => exact ⟨rfl, hcaller, id⟩
  | close hrunning hends hopen =>
      refine ⟨?_, rfl, by simp [Core.ended]⟩
      simp [hnone]
  | fail hrunning hconnecting hafter => exact absurd hconnecting hstate
  | lose hrunning hitem hopen hafter =>
      rcases answers_of_aftermath hafter rfl with ⟨hanswers, hnobody, -, hclosed⟩
      refine ⟨?_, hnobody, fun hconnected => absurd hconnected hclosed⟩
      rw [answers_triggered, hanswers]
      exact hnone _

/-- While no attempt is under way, nobody waits. -/
theorem IsSound.caller_of_state {s : System World} (hsound : s.IsSound)
    (hstate : s.gateway.state ≠ .connecting) : s.gateway.caller = none := by
  cases hcaller : s.gateway.caller with
  | none => rfl
  | some caller => exact absurd (hsound.state_of_caller hcaller) hstate

/-- While no attempt is under way, a turn without a request answers nobody and opens no
session. -/
theorem no_attempt_of_step {s next : System World} {turn : Turn} (hsound : s.IsSound)
    (hstep : s.step? link turn = some next) (hstate : s.gateway.state ≠ .connecting)
    (hrequest : s.request? turn = none) :
    answers next.gateway.journal = [] ∧ next.gateway.caller = none ∧
      (next.gateway.state = .connected → s.gateway.state = .connected) := by
  rw [← answers_marks]
  refine (move_of_step hsound hstep).of_no_attempt hstate (hsound.caller_of_state hstate) ?_
  rintro time caller rfl
  have hstopped : s.gateway.running = false := by simpa [request?] using hrequest
  exact hstopped

/-- The answers that are due are given, and each turn answers whoever comes or waits, or leaves
them waiting. -/
theorem due_of_step {s next : System World} {turn : Turn} (hsound : s.IsSound)
    (hstep : s.step? link turn = some next) :
    answers next.gateway.journal = s.due turn ∧
      ((s.due turn).map Prod.fst ++ next.gateway.caller.toList).Perm
        (s.gateway.caller.toList ++ (s.request? turn).toList) := by
  cases hrequest : s.request? turn with
  | some caller =>
      by_cases hstate : s.gateway.state = .disconnected
      · have hnobody : s.gateway.caller = none := hsound.caller_of_state (by simp [hstate])
        have houtline := outline_of_request hrequest hstep hstate
        have hwaits : next.gateway.caller = some caller :=
          congrArg (fun o => o.core.caller) houtline
        rw [← answers_marks, houtline]
        simp [due, hrequest, hstate, hnobody, hwaits]
      · have hgateway := gateway_of_request hrequest hstep hstate
        have hwaits : next.gateway.caller = s.gateway.caller := by
          rw [hgateway]
          rfl
        have hdue : s.due turn = [(caller, .error (.connect .alreadyConnected))] := by
          simp [due, hrequest, hstate]
        rw [hdue, hwaits]
        refine ⟨?_, List.perm_append_comm⟩
        rw [hgateway]
        rfl
  | none =>
      by_cases hstate : s.gateway.state = .connecting
      · have hmarks := answers_marks next.gateway
        have hattempt := attempt_of_step hsound hstep hstate hrequest
        have hcaller : next.gateway.caller = next.gateway.outline.core.caller := rfl
        have hbefore : s.gateway.caller = s.core.caller := rfl
        rw [← hmarks, hcaller, hbefore]
        simp only [due, hrequest, hbefore]
        generalize next.gateway.outline = o at hattempt
        generalize s.ending? turn = result at hattempt
        cases hattempt with
        | goesOn hlife hwaits hnothing => simp [hnothing, hwaits]
        | opens => cases hwaiting : s.core.caller <;> simp [hwaiting, Core.established]
        | ends hanswers hnobody hrest =>
            rw [hanswers, hnobody]
            cases hwaiting : s.core.caller <;> simp
      · rcases no_attempt_of_step hsound hstep hstate hrequest with ⟨hanswers, hnobody, -⟩
        have hbefore := hsound.caller_of_state hstate
        have hdue : s.due turn = [] := by
          simp only [due, hrequest, hbefore, Option.map_none, Option.toList_none]
          split <;> rfl
        rw [hanswers, hdue, hnobody, hbefore]
        exact ⟨rfl, .refl _⟩

/-- Along every run each request is answered once, except for the one that still waits. -/
theorem perm_of_run {settings : Settings} {world : World} {turns : List Turn} {s : System World}
    (hrun : (start settings world).run? link turns = some s) :
    ((answers s.log).map Prod.fst ++ s.gateway.caller.toList).Perm
      ((start settings world).requests link turns) := by
  refine run_induction (motive := fun turns s =>
    ((answers s.log).map Prod.fst ++ s.gateway.caller.toList).Perm
      ((start settings world).requests link turns)) (.refl _) ?_ hrun
  intro turns turn middle next hmiddle hperm hstep
  rcases of_step hstep with ⟨tasks, -, -, hlog⟩
  rcases due_of_step ((isSound_start settings world).run hmiddle) hstep with ⟨hdue, hturn⟩
  rw [hlog, answers_append, List.map_append, hdue, requests_concat hmiddle, List.append_assoc]
  refine (hturn.append_left _).trans ?_
  rw [← List.append_assoc]
  exact hperm.append_right _

/-! ## Who waits for what -/

/-- A caller waits for the session that its own request began; none was begun since. -/
def Awaits (link : Link World) (origin : System World) (turns : List Turn) (s : System World)
    (caller : Nat) : Prop :=
  ∃ before turn after first begun, turns = before ++ turn :: after ∧
    origin.run? link before = some first ∧ first.request? turn = some caller ∧
    first.gateway.state = .disconnected ∧ first.step? link turn = some begun ∧
    begun.run? link after = some s ∧
    attempts s.log = attempts first.log ++ [s.gateway.life.generation]

/-- A caller whose request begins a session waits for it. -/
theorem awaits_of_request {origin s next : System World} {turns : List Turn} {turn : Turn}
    {caller : Nat} (hrun : origin.run? link turns = some s)
    (hrequest : s.request? turn = some caller) (hstep : s.step? link turn = some next)
    (hstate : s.gateway.state = .disconnected) :
    Awaits link origin (turns ++ [turn]) next caller := by
  have houtline := outline_of_request hrequest hstep hstate
  have hgeneration : next.gateway.life.generation = s.core.life.generation + 1 :=
    congrArg (fun o => o.core.life.generation) houtline
  rcases tasks_of_step hstep with ⟨tasks, -, -, hattempts⟩
  refine ⟨turns, turn, [], s, next, rfl, hrun, hrequest, hstate, hstep, rfl, ?_⟩
  rw [hattempts, houtline, hgeneration]
  rfl

/-- A caller goes on waiting for the same session while its attempt goes on. -/
theorem Awaits.step {origin s next : System World} {turns : List Turn} {turn : Turn}
    {caller : Nat} (h : Awaits link origin turns s caller) (hstep : s.step? link turn = some next)
    (hattempts : attempts next.gateway.outline.marks = [])
    (hgeneration : next.gateway.life.generation = s.gateway.life.generation) :
    Awaits link origin (turns ++ [turn]) next caller := by
  rcases h with ⟨before, request, after, first, begun, rfl, hbefore, hrequest, hstate, hbegun,
    hafter, hsame⟩
  rcases tasks_of_step hstep with ⟨tasks, -, -, hlog⟩
  refine ⟨before, request, after ++ [turn], first, begun, by simp, hbefore, hrequest, hstate,
    hbegun, run?_concat_of_eq hafter hstep, ?_⟩
  rw [hlog, hattempts, hsame, hgeneration, List.append_nil]

/-- Whoever waits after a run waits for the session that its own request began. -/
theorem awaits_of_run {settings : Settings} {world : World} {turns : List Turn}
    {s : System World} (hrun : (start settings world).run? link turns = some s) :
    ∀ caller, s.gateway.caller = some caller →
      Awaits link (start settings world) turns s caller := by
  refine run_induction (motive := fun turns s => ∀ caller, s.gateway.caller = some caller →
    Awaits link (start settings world) turns s caller) (by simp [start, Gateway.start]) ?_ hrun
  intro turns turn middle next hmiddle hwaits hstep caller hcaller
  have hsound := (isSound_start settings world).run hmiddle
  cases hrequest : middle.request? turn with
  | some asker =>
      by_cases hstate : middle.gateway.state = .disconnected
      · have houtline := outline_of_request hrequest hstep hstate
        have hasker : next.gateway.caller = some asker :=
          congrArg (fun o => o.core.caller) houtline
        obtain rfl : asker = caller := Option.some.inj (hasker.symm.trans hcaller)
        exact awaits_of_request hmiddle hrequest hstep hstate
      · have hgateway := gateway_of_request hrequest hstep hstate
        have hbefore : middle.gateway.caller = some caller := by
          rw [hgateway] at hcaller
          exact hcaller
        refine (hwaits caller hbefore).step hstep ?_ ?_ <;> rw [hgateway] <;> rfl
  | none =>
      by_cases hstate : middle.gateway.state = .connecting
      · have hattempt := attempt_of_step hsound hstep hstate hrequest
        have hafter : next.gateway.outline.core.caller = some caller := hcaller
        have hkept : next.gateway.outline.core.life = middle.core.life ∧
            middle.core.caller = some caller ∧ next.gateway.outline.marks = [] := by
          generalize next.gateway.outline = o at hattempt hafter
          generalize middle.ending? turn = result at hattempt
          cases hattempt with
          | goesOn hlife hsame hmarks => exact ⟨hlife, hsame.symm.trans hafter, hmarks⟩
          | opens => simp [Core.established] at hafter
          | ends hanswers hnobody hrest => simp [hnobody] at hafter
        rcases hkept with ⟨hlife, hbefore, hmarks⟩
        refine (hwaits caller hbefore).step hstep (by rw [hmarks]; rfl) ?_
        exact congrArg Connection.Lifecycle.generation hlife
      · rcases no_attempt_of_step hsound hstep hstate hrequest with ⟨-, hnobody, -⟩
        simp [hnobody] at hcaller

/-! ## How it then stands -/

/-- A gateway enters the session with which an attempt ends. -/
theorem gateway_of_ending_ok {s next : System World} {turn : Turn} (hsound : s.IsSound)
    (hstep : s.step? link turn = some next) (hstate : s.gateway.state = .connecting)
    (hending : s.ending? turn = some (.ok ())) :
    next.gateway = s.cleared.countFrame.onSessionOpen link := by
  cases turn with
  | item time item =>
      rw [gateway_of_item hstep]
      exact gateway_of_conclusion_ok link hsound time hstate hending
  | _ => simp [ending?] at hending

/-- A caller who waits for a session hears that it is open after all that is written on the way to
it. -/
theorem journal_of_ending_ok {s next : System World} {turn : Turn} (hsound : s.IsSound)
    (hstep : s.step? link turn = some next) (hstate : s.gateway.state = .connecting)
    (hending : s.ending? turn = some (.ok ())) :
    ∃ earlier later, next.gateway.journal =
        earlier ++ .triggered .replayDone (some .connected) :: later ∧
      answers earlier = [] ∧ ∀ effect ∈ later, effect.isText = false := by
  have hconnecting : s.cleared.countFrame.life.state = .connecting := hstate
  rcases journal_onSessionOpen link hconnecting with
    ⟨calls, requests, later, hjournal, hcalls, hrequests, hlater, -⟩
  refine ⟨.triggered .sessionOpened (some .busy) :: calls ++ requests, later, ?_, ?_, hlater⟩
  · rw [gateway_of_ending_ok hsound hstep hstate hending]
    exact hjournal
  · have hcalls : answers calls = [] := answers_eq_nil fun e he => .inl (hcalls e he).2
    have hrequests : answers requests = [] := answers_eq_nil fun e he => .inr (hrequests e he)
    rw [List.cons_append, answers_triggered, answers_append, hcalls, hrequests, List.append_nil]

/-- A gateway comes to be connected only by an attempt that ends with an open session. -/
theorem ending_of_connected {s next : System World} {turn : Turn} (hsound : s.IsSound)
    (hstep : s.step? link turn = some next) (hbefore : s.gateway.state ≠ .connected)
    (hconnected : next.gateway.state = .connected) :
    s.gateway.state = .connecting ∧ s.ending? turn = some (.ok ()) := by
  have hcore : next.gateway.outline.core.life.state = .connected := hconnected
  cases hrequest : s.request? turn with
  | some caller =>
      by_cases hstate : s.gateway.state = .disconnected
      · rw [outline_of_request hrequest hstep hstate] at hcore
        simp [Core.opening] at hcore
      · rw [gateway_of_request hrequest hstep hstate] at hconnected
        exact absurd hconnected hbefore
  | none =>
      by_cases hstate : s.gateway.state = .connecting
      · refine ⟨hstate, ?_⟩
        have hattempt := attempt_of_step hsound hstep hstate hrequest
        have hconnecting : s.core.life.state = .connecting := hstate
        generalize next.gateway.outline = o at hattempt hcore
        generalize s.ending? turn = result at hattempt
        cases hattempt with
        | goesOn hlife hcaller hmarks => simp [hlife, hconnecting] at hcore
        | opens => rfl
        | ends hanswers hnobody hrest hclosed => exact absurd hcore hclosed
      · exact absurd ((no_attempt_of_step hsound hstep hstate hrequest).2.2 hconnected) hbefore

/-- What a turn does about requests for a session, after some turns that led to a system. -/
structure Answered (link : Link World) (origin : System World) (turns : List Turn)
    (s : System World) (turn : Turn) (next : System World) : Prop where
  /-- Exactly the answers that are due are given. -/
  given : answers next.gateway.journal = s.due turn
  /-- A request that is turned down changes nothing for whoever waits, or for anyone else. -/
  turnedDown : ∀ caller, s.request? turn = some caller → s.gateway.state ≠ .disconnected →
    next.gateway = s.cleared.record (.answered caller (.error (.connect .alreadyConnected)))
  /-- Any other request begins a session and waits for it. -/
  begins : ∀ caller, s.request? turn = some caller → s.gateway.state = .disconnected →
    next.gateway.state = .connecting ∧ next.gateway.caller = some caller
  /-- An attempt that does not end goes on. -/
  goesOn : s.gateway.state = .connecting → s.ending? turn = none →
    next.gateway.life = s.gateway.life ∧ next.gateway.caller = s.gateway.caller
  /-- The caller of an attempt that ends with an open session is told after the login of this
  session was accepted, all its requests for market data were written, and it is connected. -/
  opens : s.gateway.state = .connecting → s.ending? turn = some (.ok ()) →
    next.gateway.state = .connected ∧
      next.gateway.life.generation = s.gateway.life.generation ∧
      Meets link (milestones next.gateway.settings.dialect next.gateway.life.generation) origin
        (turns ++ [turn]) ∧
      ∃ earlier later, next.gateway.journal =
          earlier ++ .triggered .replayDone (some .connected) :: later ∧
        answers earlier = [] ∧ ∀ effect ∈ later, effect.isText = false
  /-- A gateway comes to be connected in no other way. -/
  opened : s.gateway.state ≠ .connected → next.gateway.state = .connected →
    s.gateway.state = .connecting ∧ s.ending? turn = some (.ok ())
  /-- After any other end of an attempt for which a caller waits there is no connection. -/
  fails : ∀ caller error, s.gateway.caller = some caller →
    s.ending? turn = some (.error error) →
    next.gateway.state = .disconnected ∧ next.gateway.caller = none

/-- Every turn after a run answers those who ask for a session as it should. -/
theorem answered_of_step {settings : Settings} {world : World} {turns : List Turn}
    {s next : System World} {turn : Turn}
    (hrun : (start settings world).run? link turns = some s)
    (hstep : s.step? link turn = some next) :
    Answered link (start settings world) turns s turn next := by
  have hsound := (isSound_start settings world).run hrun
  have hunasked : ∀ {result}, s.ending? turn = some result → s.request? turn = none := by
    intro result hending
    cases hrequest : s.request? turn with
    | none => rfl
    | some caller =>
        rcases of_request? hrequest with ⟨-, time, rfl⟩
        simp [ending?, Core.conclusion?] at hending
  have hattempt : ∀ {result}, s.gateway.state = .connecting → s.ending? turn = some result →
      Attempt s.core (some result) next.gateway.outline := by
    intro result hstate hending
    rw [← hending]
    exact attempt_of_step hsound hstep hstate (hunasked hending)
  refine ⟨(due_of_step hsound hstep).1, fun caller hrequest hstate =>
    gateway_of_request hrequest hstep hstate, ?_, ?_, ?_, ?_, ?_⟩
  · intro caller hrequest hstate
    have houtline := outline_of_request hrequest hstep hstate
    exact ⟨congrArg (fun o => o.core.life.state) houtline,
      congrArg (fun o => o.core.caller) houtline⟩
  · intro hstate hending
    cases hrequest : s.request? turn with
    | some caller =>
        rw [gateway_of_request hrequest hstep (by simp [hstate])]
        exact ⟨rfl, rfl⟩
    | none =>
        have hgoes := attempt_of_step hsound hstep hstate hrequest
        rw [hending] at hgoes
        cases hgoes with
        | goesOn hlife hcaller hmarks => exact ⟨hlife, hcaller⟩
  · intro hstate hending
    have houtline : next.core = s.core.established := by
      have hopens := hattempt hstate hending
      unfold core
      generalize next.gateway.outline = o at hopens
      cases hopens with
      | opens => rfl
    have hmeets := (onItsWay_of_run (run?_concat_of_eq hrun hstep)).meets
    have hstage : next.core.stage = .established := by rw [houtline]; rfl
    rw [hstage] at hmeets
    exact ⟨congrArg (fun c => c.life.state) houtline,
      congrArg (fun c => c.life.generation) houtline, hmeets,
      journal_of_ending_ok hsound hstep hstate hending⟩
  · exact ending_of_connected hsound hstep
  · intro caller error hcaller hending
    have hwaits : s.core.caller ≠ none := by
      have hsame : s.core.caller = some caller := hcaller
      simp [hsame]
    cases hattempt (hsound.state_of_caller hcaller) hending with
    | ends hanswers hnobody hrest hclosed => exact ⟨hrest hwaits, hnobody⟩

/-- Along every run each request for a session is answered once, except for one that may wait
while an attempt is under way, and that waits for the very session that it began.  In every turn
exactly the answers that are due are given: at once to a request that comes while there is a
session or an attempt, which touches nobody else, and otherwise to the caller of an attempt that
ends, which tells how it ended; only an attempt that ended with an open session leaves the
gateway connected. -/
theorem answered_of_run {settings : Settings} {world : World} {turns : List Turn}
    {s : System World} (hrun : (start settings world).run? link turns = some s) :
    ((answers s.log).map Prod.fst ++ s.gateway.caller.toList).Perm
      ((start settings world).requests link turns) ∧
    (∀ caller, s.gateway.caller = some caller → s.gateway.state = .connecting ∧
      Awaits link (start settings world) turns s caller) ∧
    (∀ turn next, s.step? link turn = some next →
      Answered link (start settings world) turns s turn next) := by
  have hsound := (isSound_start settings world).run hrun
  refine ⟨perm_of_run hrun, fun caller hcaller => ?_, fun turn next => answered_of_step hrun⟩
  exact ⟨hsound.state_of_caller hcaller, awaits_of_run hrun caller hcaller⟩

/-! ## A second request -/

/-- A second caller asks for a session while the first one waits. -/
def secondRequest : List Turn :=
  connection ++ [.item midnight (.connect 1)]

/-- The second caller is turned down, and the first one goes on waiting for its session. -/
theorem answered_of_run_secondRequest :
    ∃ s, (start bridgeSettings ()).run? openLink secondRequest = some s ∧
      answers s.log = [(1, .error (.connect .alreadyConnected))] ∧
      s.gateway.caller = some 0 ∧
      Awaits openLink (start bridgeSettings ()) secondRequest s 0 := by
  have hfacts : ((start bridgeSettings ()).run? openLink secondRequest).map
      (fun s => (answers s.log, s.gateway.caller)) =
        some ([(1, .error (.connect .alreadyConnected))], some 0) := by decide +kernel
  rcases Option.map_eq_some_iff.mp hfacts with ⟨s, hrun, hs⟩
  have hcaller : s.gateway.caller = some 0 := congrArg Prod.snd hs
  exact ⟨s, hrun, congrArg Prod.fst hs, hcaller, ((answered_of_run hrun).2.1 0 hcaller).2⟩

end TerminalGateway.System
