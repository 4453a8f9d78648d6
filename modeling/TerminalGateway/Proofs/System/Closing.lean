import TerminalGateway.Proofs.System.Coverage
import TerminalGateway.Proofs.System.Handshake
import TerminalGateway.Proofs.Transaction.Books

/-!
# Closing on request

A caller may ask for the end of the session at any time: while nothing is under way, while a
connection is being made, during the login, and while the session is open.  Whatever it finds, the
gateway is at rest afterwards, with nothing left of a session and nobody waiting, and to ask once
more changes nothing.

Main definitions:

- `Gateway.Dealings`: what a gateway has to do with a session, and what it has done to it.
- `Gateway.Dealings.parting`: what is done to a session that is taken down.
- `Gateway.AtRest`: nothing is left of a session, and nobody waits.
- `System.Closes`: what a request for the end does.

Main results:

- Theorem `Gateway.effects_closeSession`: taking a session down does its parting.
- Theorem `Gateway.step_close_of_atRest`: a gateway at rest only begins a new session number.
- Theorem `System.session_of_run`: a gateway that is not connected has no session.
- Theorem `System.closes_of_run`: a request for the end takes everything down.
-/

namespace TerminalGateway

namespace Gateway

open TerminalGateway.Transaction (Pending Ruling)

variable {World : Type}

/-! ## What is done to a session -/

/-- An effect on a session: on its connection, on its reader or on its probes. -/
def Effect.isDealing : Effect → Bool
  | .wrote _ _ _ => true
  | .probed _ _ => true
  | .closed _ => true
  | .stopSession _ => true
  | .stopTicker _ => true
  | _ => false

/-- What a gateway has to do with a session, and what it has done to it. -/
structure Dealings (World : Type) where
  settings : Settings
  world : World
  stage : Stage
  writer : Option Nat
  session : Option Nat
  ticker : Option Nat
  /-- The effects on sessions in the journal. -/
  effects : List Effect

/-- The dealings of a gateway. -/
def dealings (g : Gateway World) : Dealings World where
  settings := g.settings
  world := g.world
  stage := g.stage
  writer := g.writer
  session := g.session
  ticker := g.ticker
  effects := g.journal.filter Effect.isDealing

/-- The logout in each dialect; the bridge has none. -/
def farewell : Dialect → List String
  | .web => ["\x7b\"msgid\":10006\x7d"]
  | .bridge => []

theorem toList_logout (dialect : Dialect) : (Command.logout dialect).toList = farewell dialect := by
  cases dialect <;> decide +kernel

/-- What is done to a session that is taken down: its probes and its reader are stopped, an open
session is left with the logout of its dialect, and the connection is closed. -/
def Dealings.parting (link : Link World) (d : Dealings World) : List Effect :=
  (d.ticker.map Effect.stopTicker).toList ++ (d.session.map Effect.stopSession).toList ++
    match d.writer with
    | none => []
    | some writer =>
        (if d.stage = .established then farewell d.settings.dialect else []).map
          (fun text => .wrote writer text (link.send d.world writer text).1) ++ [.closed writer]

/-! ## Operations that leave sessions alone -/

theorem dealings_record_of_not_isDealing (g : Gateway World) {effect : Effect}
    (h : effect.isDealing = false) : (g.record effect).dealings = g.dealings := by
  simp [dealings, record, h]

@[simp] theorem dealings_publish (g : Gateway World) (event : Event) :
    (g.publish event).dealings = g.dealings := by
  simp [dealings, publish, Effect.isDealing]

@[simp] theorem dealings_publishAll (g : Gateway World) (events : List Event) :
    (g.publishAll events).dealings = g.dealings := by
  induction events generalizing g with
  | nil => rfl
  | cons event rest ih => exact (ih (g.publish event)).trans (dealings_publish g event)

@[simp] theorem dealings_trigger (g : Gateway World) (trigger : Connection.Trigger) :
    (g.trigger trigger).dealings = g.dealings := by
  unfold Gateway.trigger
  rcases g.life.apply trigger with ⟨after, life⟩
  dsimp only
  split
  · exact dealings_record_of_not_isDealing _ rfl
  · exact (dealings_publish _ _).trans (dealings_record_of_not_isDealing _ rfl)

@[simp] theorem dealings_answer (g : Gateway World) (result : Except GatewayError Unit) :
    (g.answer result).dealings = g.dealings := by
  unfold answer
  split
  · exact dealings_record_of_not_isDealing _ rfl
  · rfl

@[simp] theorem dealings_expireAll (g : Gateway World) (time : Reading) :
    (g.expireAll time).dealings = g.dealings := by
  unfold expireAll expire
  rcases g.pending.expire time.now 0 with ⟨ended, pending⟩
  dsimp only
  rw [dealings_publishAll]
  simp [dealings, Effect.isDealing]

/-! ## Taking a session down -/

theorem stopTasks_eq (g : Gateway World) :
    g.stopTasks = { g with
      session := none
      ticker := none
      journal := g.journal ++ (g.ticker.map Effect.stopTicker).toList ++
        (g.session.map Effect.stopSession).toList } := by
  rcases g with ⟨_, _, _, _, _, _, _, _, _, _, session, ticker, _, _⟩
  cases ticker <;> cases session <;> simp [stopTasks, stopTicker, record]

theorem closeWriter_eq (link : Link World) (g : Gateway World) :
    g.closeWriter link = { g with
      writer := none
      world := g.writer.elim g.world (link.close g.world)
      journal := g.journal ++ (g.writer.map Effect.closed).toList } := by
  rcases g with ⟨_, _, _, _, _, _, _, _, writer, _, _, _, _, _⟩
  cases writer <;> simp [closeWriter, closeLine, record]

/-- An open session is left with the logout, where there is a writer. -/
theorem sayGoodbye_eq (link : Link World) {g : Gateway World} {writer : Nat}
    (hwriter : g.writer = some writer) :
    ∃ world, g.sayGoodbye link = { g with
      world := world
      journal := g.journal ++
        (if g.stage = .established then farewell g.settings.dialect else []).map fun text =>
          .wrote writer text (link.send g.world writer text).1 } := by
  unfold sayGoodbye
  split
  · rw [toList_logout]
    cases g.settings.dialect with
    | bridge => exact ⟨g.world, by simp [farewell, sendAll]⟩
    | web =>
        refine ⟨(link.send g.world writer "\x7b\"msgid\":10006\x7d").2, ?_⟩
        rw [farewell, System.sendAll_singleton, send_of_writer link hwriter]
        rfl
  · exact ⟨g.world, by simp⟩

/-- Without a writer nothing is said. -/
theorem sayGoodbye_of_no_writer (link : Link World) {g : Gateway World}
    (hwriter : g.writer = none) : g.sayGoodbye link = g := by
  have hsend : ∀ text, g.send link text = (.error .notConnected, g) := by
    simp [send, hwriter]
  unfold sayGoodbye
  split
  · cases Command.logout g.settings.dialect with
    | none => rfl
    | some text => simp [sendAll, hsend]
  · rfl

/-- Taking a session down does its parting. -/
theorem effects_closeSession (link : Link World) (g : Gateway World) :
    (g.closeSession link).dealings.effects = g.dealings.effects ++ g.dealings.parting link := by
  have hclose : (g.closeSession link).dealings.effects =
      ((g.stopTasks.sayGoodbye link).closeWriter link).journal.filter Effect.isDealing := rfl
  have hstops : g.stopTasks.journal.filter Effect.isDealing =
      g.dealings.effects ++ (g.ticker.map Effect.stopTicker).toList ++
        (g.session.map Effect.stopSession).toList := by
    rw [stopTasks_eq]
    cases hticker : g.ticker <;> cases hsession : g.session <;> simp [dealings, Effect.isDealing]
  obtain ⟨hwriter, hstage, hsettings, hworld⟩ : g.stopTasks.writer = g.writer ∧
      g.stopTasks.stage = g.stage ∧ g.stopTasks.settings = g.settings ∧
      g.stopTasks.world = g.world := by
    rw [stopTasks_eq]
    exact ⟨rfl, rfl, rfl, rfl⟩
  rw [hclose, closeWriter_eq]
  cases hcase : g.writer with
  | none =>
      rw [sayGoodbye_of_no_writer link (hwriter.trans hcase), hwriter, hcase]
      simp [hstops, Dealings.parting, dealings, hcase]
  | some writer =>
      rcases sayGoodbye_eq link (hwriter.trans hcase) with ⟨world, hsaid⟩
      have hwords : ∀ texts : List String,
          (texts.map fun text =>
            Effect.wrote writer text (link.send g.world writer text).1).filter Effect.isDealing =
            texts.map fun text => .wrote writer text (link.send g.world writer text).1 := by
        intro texts
        refine List.filter_eq_self.mpr fun effect heffect => ?_
        rcases List.mem_map.mp heffect with ⟨text, -, rfl⟩
        rfl
      have hclosed : [Effect.closed writer].filter Effect.isDealing = [.closed writer] := rfl
      rw [hsaid, hwriter, hcase, hstage, hsettings, hworld]
      simp only [Option.map_some, Option.toList_some, List.filter_append, hstops, hwords, hclosed,
        Dealings.parting, dealings, hcase, List.append_assoc]

/-- Closing the connection in any state does the parting of what there is. -/
theorem effects_disconnect (link : Link World) (g : Gateway World) :
    (g.disconnect link).dealings.effects =
      g.dealings.effects ++
        (if g.state = .disconnected then [] else g.dealings.parting link) := by
  unfold disconnect
  split
  · exact (List.append_nil _).symm
  · rw [dealings_trigger, effects_closeSession, dealings_answer, dealings_trigger]

/-! ## At rest -/

/-- Nothing is left of a session, and nobody waits for one or for the end of a transaction. -/
structure AtRest (g : Gateway World) : Prop where
  state : g.state = .disconnected
  stage : g.stage = .idle
  writer : g.writer = none
  session : g.session = none
  ticker : g.ticker = none
  caller : g.caller = none
  pending : g.pending.entries = []

/-- Where no transaction is pending none ends. -/
theorem expireAll_of_no_pending {g : Gateway World} (h : g.pending.entries = []) (time : Reading) :
    g.expireAll time = g := by
  rcases g with ⟨_, _, _, _, _, _, ⟨nextId, entries⟩, _, _, _, _, _, _, _⟩
  obtain rfl : entries = [] := h
  simp [expireAll, expire, Pending.expire, publishAll]

/-- A gateway at rest that is asked for the end only begins a new session number. -/
theorem step_close_of_atRest (link : Link World) {g : Gateway World} (hrest : g.AtRest)
    (hrunning : g.running = true) (time : Reading) (caller : Nat) :
    g.step link time (.close caller) =
      { g with life := g.life.nextGeneration, journal := [.released caller] } := by
  have hdisconnect : { g with journal := [] }.disconnect link =
      { g with life := g.life.nextGeneration, journal := [] } := if_pos hrest.state
  have hexpire : { g with life := g.life.nextGeneration, journal := [] }.expireAll time =
      { g with life := g.life.nextGeneration, journal := [] } :=
    expireAll_of_no_pending (g := { g with life := g.life.nextGeneration, journal := [] })
      hrest.pending time
  unfold Gateway.step
  rw [if_pos hrunning, handle, shut, hdisconnect, hexpire]
  rfl

/-! ## Transactions -/

/-- Whoever learns how a transaction ended. -/
def settled (log : List Effect) : List (Nat × Transaction.Resolution) :=
  log.filterMap fun
    | .settled issuer resolution => some (issuer, resolution)
    | _ => none

theorem settled_append (first second : List Effect) :
    settled (first ++ second) = settled first ++ settled second :=
  List.filterMap_append

theorem settled_filter_isVerdict (log : List Effect) :
    settled (log.filter Effect.isVerdict) = settled log :=
  filterMap_filter_effects (by rintro ⟨⟩ <;> simp [Effect.isVerdict]) log

/-- Every pending transaction ends with the session that is closed on request. -/
theorem books_close (link : Link World) (g : Gateway World) (time : Reading) (caller : Nat) :
    (g.handle link time (.close caller)).books = g.books.rule (.expiry time.now 0) := by
  refine (books_record_of_not_isVerdict _ rfl).trans ?_
  rw [shut, books_expireAll, books_disconnect]

/-- Every transaction has been pending for at least no time. -/
theorem outcome?_expiry_zero (now : Nat) (entry : Transaction.Entry) :
    (Ruling.expiry now 0).outcome? entry = some .timedOut := by
  simp [Ruling.outcome?]

theorem entries_left_expiry_zero (pending : Pending) (now : Nat) :
    (pending.left (.expiry now 0)).entries = [] :=
  List.filter_eq_nil_iff.mpr fun entry _ => by simp [outcome?_expiry_zero]

theorem ended_expiry_zero (pending : Pending) (now : Nat) :
    pending.ended (.expiry now 0) = pending.entries.map fun entry => entry.complete .timedOut := by
  unfold Pending.ended
  rw [← List.filterMap_eq_map]
  exact List.filterMap_congr fun entry _ => by simp [outcome?_expiry_zero]

/-- What sinks hear of the end of transactions settles none. -/
theorem settled_announced (subscriptions : Subscriptions)
    (ended : List Transaction.Completed) :
    settled (ended.flatMap fun completed =>
      announce subscriptions completed.resolution.notice) = [] := by
  refine List.filterMap_eq_nil_iff.mpr fun effect heffect => ?_
  rcases List.mem_flatMap.mp heffect with ⟨completed, -, hnotice⟩
  rcases List.mem_map.mp hnotice with ⟨sink, -, rfl⟩
  rfl

/-- Whoever submitted a transaction that is pending learns that its time is over. -/
theorem settled_pronounce_expiry_zero (subscriptions : Subscriptions) (pending : Pending)
    (now : Nat) :
    settled (pronounce subscriptions pending (.expiry now 0)) =
      pending.entries.map fun entry =>
        (entry.issuer, ⟨entry.transactionId, some entry.intent, .timedOut⟩) := by
  have hpronounce : pronounce subscriptions pending (.expiry now 0) =
      (pending.ended (.expiry now 0)).map (fun ended => .settled ended.issuer ended.resolution) ++
        (pending.ended (.expiry now 0)).flatMap fun ended =>
          announce subscriptions ended.resolution.notice :=
    List.append_nil _
  rw [hpronounce, settled_append, settled_announced, List.append_nil, ended_expiry_zero]
  simp [settled, Transaction.Entry.complete, Function.comp_def]

end Gateway

namespace System

open TerminalGateway.Gateway

variable {World : Type} {link : Link World}

/-! ## A gateway that is not connected -/

/-- A session that ended without being asked to leaves no session, unless another one is begun. -/
theorem session_of_aftermath {error : ConnectError} {c core : Core} {marks : List Effect}
    (hafter : Aftermath error c marks core) (hsession : c.session = none)
    (hstate : core.life.state = .disconnected) : core.session = none := by
  cases hafter with
  | again _ _ => simp [Core.opening] at hstate
  | _ => exact hsession

/-- A move that leads to no connection leaves no session. -/
theorem Move.session {c : Core} {turn : Turn} {o : Outline} (hmove : Move c turn o)
    (hbefore : c.life.state = .disconnected → c.session = none)
    (hstate : o.core.life.state = .disconnected) : o.core.session = none := by
  cases hmove with
  | connect _ _ => simp [Core.opening] at hstate
  | reconnect _ _ => simp [Core.opening] at hstate
  | enter _ _ _ => simp [Core.established] at hstate
  | refuse _ _ _ => rfl
  | close _ _ _ => rfl
  | fail _ _ hafter => exact session_of_aftermath hafter rfl hstate
  | lose _ _ _ hafter => exact session_of_aftermath hafter rfl hstate
  | _ => exact hbefore hstate

/-- A gateway that is not connected has no session. -/
theorem session_of_run {settings : Settings} {world : World} {turns : List Turn}
    {s : System World} (hrun : (start settings world).run? link turns = some s)
    (hstate : s.gateway.state = .disconnected) : s.gateway.session = none := by
  suffices h : s.core.life.state = .disconnected → s.core.session = none from h hstate
  refine run_induction (motive := fun _ s => s.core.life.state = .disconnected →
    s.core.session = none) (fun _ => rfl) ?_ hrun
  intro turns turn middle next hmiddle hbefore hstep
  exact (move_of_step ((isSound_start settings world).run hmiddle) hstep).session hbefore

/-! ## A request for the end -/

/-- A request for the end finds no connection, or takes it down and tells the caller who waits. -/
theorem Move.of_close {c : Core} {time : Reading} {caller : Nat} {o : Outline}
    (hmove : Move c (.item time (.close caller)) o) (hrunning : c.running = true) :
    c.life.state = .disconnected ∧ o = ⟨{ c with life := c.life.nextGeneration }, []⟩ ∨
      c.life.state ≠ .disconnected ∧ o = ⟨{ c.ended .disconnected with caller := none },
        .triggered .close (some .disconnecting) :: c.answerMarks (.error .closed) ++
          [.triggered .closed (some .disconnected)]⟩ := by
  have hgoesOn : ∀ {running}, (Item.close caller).ends? = some running → running = c.running := by
    intro running hends
    rw [hrunning]
    exact (Option.some.inj hends).symm
  cases hmove with
  | stay hquiet => exact absurd (hquiet.symm.trans hrunning) (by simp)
  | idle _ hends hstate =>
      obtain rfl := hgoesOn hends
      exact .inl ⟨hstate, rfl⟩
  | close _ hends hstate =>
      obtain rfl := hgoesOn hends
      refine .inr ⟨?_, rfl⟩
      rcases hstate with hstate | hstate <;> simp [hstate]
  | lose _ hitem _ _ => simp at hitem

/-- A gateway that is asked for the end goes on. -/
theorem running_of_close {s next : System World} (hsound : s.IsSound)
    (hrunning : s.gateway.running = true) {time : Reading} {caller : Nat}
    (hstep : s.step? link (.item time (.close caller)) = some next) :
    next.gateway.running = true := by
  have hcore : next.gateway.running = next.gateway.outline.core.running := rfl
  rcases (move_of_step hsound hstep).of_close hrunning with ⟨-, houtline⟩ | ⟨-, houtline⟩ <;>
    rw [hcore, houtline] <;> exact hrunning

/-- What a request for the end does to a system. -/
structure Closes (link : Link World) (s next : System World) : Prop where
  /-- Nothing is left of a session, and nobody waits. -/
  rest : next.gateway.AtRest
  /-- The subscriptions stay. -/
  subscriptions : next.gateway.subscriptions = s.gateway.subscriptions
  /-- The caller who waits for the session is told that it was closed. -/
  answers : answers next.gateway.journal =
    (s.gateway.caller.map fun waiting => (waiting, .error .closed)).toList
  /-- Whoever submitted a transaction that is pending is told that its time is over. -/
  settled : settled next.gateway.journal = s.gateway.pending.entries.map fun entry =>
    (entry.issuer, ⟨entry.transactionId, some entry.intent, .timedOut⟩)
  /-- The session does its parting, and nothing else is done to any session. -/
  parting : next.gateway.journal.filter Effect.isDealing = s.gateway.dealings.parting link

/-- Without a session there is nothing to part from. -/
theorem parting_of_no_session {d : Dealings World} (hwriter : d.writer = none)
    (hsession : d.session = none) (hticker : d.ticker = none) : d.parting link = [] := by
  simp [Dealings.parting, hwriter, hsession, hticker]

/-- A gateway that is not connected, has no session and no pending transactions is at rest. -/
theorem atRest_of_disconnected {s : System World} (hsound : s.IsSound)
    (hstate : s.gateway.state = .disconnected) (hsession : s.gateway.session = none)
    (hpending : s.gateway.pending.entries = []) : s.gateway.AtRest := by
  rcases hsound.standing.of_disconnected hstate with ⟨hstage, hwriter, hcaller, hticker⟩
  exact ⟨hstate, hstage, hwriter, hsession, hticker, hcaller, hpending⟩

section

variable {s next : System World} {time : Reading} {caller : Nat}

/-- A gateway that goes on takes up a request for the end. -/
theorem gateway_of_close (hrunning : s.gateway.running = true)
    (hstep : s.step? link (.item time (.close caller)) = some next) :
    next.gateway = s.cleared.handle link time (.close caller) :=
  (gateway_of_item hstep).trans (if_pos hrunning)

/-- After a request for the end there is no connection. -/
theorem state_of_close (hsound : s.IsSound) (hrunning : s.gateway.running = true)
    (hstep : s.step? link (.item time (.close caller)) = some next) :
    next.gateway.state = .disconnected := by
  have hstate : next.gateway.state = next.gateway.outline.core.life.state := rfl
  rcases (move_of_step hsound hstep).of_close hrunning with ⟨hrest, houtline⟩ | ⟨-, houtline⟩
  · rw [hstate, houtline]
    exact hrest
  · rw [hstate, houtline]
    rfl

/-- The caller who waits, if there is one, is told that the session was closed. -/
theorem answers_of_close (hsound : s.IsSound) (hrunning : s.gateway.running = true)
    (hstep : s.step? link (.item time (.close caller)) = some next) :
    answers next.gateway.journal =
      (s.gateway.caller.map fun waiting => (waiting, .error .closed)).toList := by
  rw [← answers_marks]
  rcases (move_of_step hsound hstep).of_close hrunning with ⟨hrest, houtline⟩ | ⟨-, houtline⟩
  · have hcaller : s.gateway.caller = none := (hsound.standing.of_disconnected hrest).2.2.1
    rw [houtline, hcaller]
    rfl
  · rw [houtline]
    simp [core, outline]

/-- The session does its parting, and without a session there is none. -/
theorem parting_of_close (hsound : s.IsSound) (hrunning : s.gateway.running = true)
    (hsession : s.gateway.state = .disconnected → s.gateway.session = none)
    (hstep : s.step? link (.item time (.close caller)) = some next) :
    next.gateway.journal.filter Effect.isDealing = s.gateway.dealings.parting link := by
  have hclose : (s.cleared.handle link time (.close caller)).dealings =
      (s.cleared.disconnect link).dealings :=
    (dealings_record_of_not_isDealing _ rfl).trans (dealings_expireAll _ time)
  have heffects := congrArg Dealings.effects hclose
  rw [← gateway_of_close hrunning hstep, effects_disconnect] at heffects
  by_cases hstate : s.gateway.state = .disconnected
  · rcases hsound.standing.of_disconnected hstate with ⟨-, hwriter, -, hticker⟩
    rw [parting_of_no_session hwriter (hsession hstate) hticker]
    exact heffects.trans (if_pos hstate)
  · exact heffects.trans (if_neg hstate)

/-- A request for the end takes everything down. -/
theorem closes_of_step (hsound : s.IsSound) (hrunning : s.gateway.running = true)
    (hsession : s.gateway.state = .disconnected → s.gateway.session = none)
    (hstep : s.step? link (.item time (.close caller)) = some next) : s.Closes link next := by
  have hbooks : next.gateway.books = s.cleared.books.rule (.expiry time.now 0) := by
    rw [gateway_of_close hrunning hstep, books_close]
  have hleft : next.gateway.pending = s.gateway.pending.left (.expiry time.now 0) :=
    congrArg Books.pending hbooks
  have hverdicts : next.gateway.journal.filter Effect.isVerdict =
      pronounce s.gateway.subscriptions s.gateway.pending (.expiry time.now 0) :=
    congrArg Books.verdicts hbooks
  have hstate := state_of_close hsound hrunning hstep
  refine ⟨?_, congrArg Books.subscriptions hbooks, answers_of_close hsound hrunning hstep, ?_,
    parting_of_close hsound hrunning hsession hstep⟩
  · refine atRest_of_disconnected (hsound.step hstep) hstate
      ((move_of_step hsound hstep).session hsession hstate) ?_
    rw [hleft, entries_left_expiry_zero]
  · rw [← settled_filter_isVerdict, hverdicts, settled_pronounce_expiry_zero]

end

/-- A session is open while the gateway is connected. -/
theorem Standing.established_iff {c : Core} {progress : Progress} {delays : Nat}
    (h : Standing c progress delays) : c.stage = .established ↔ c.life.state = .connected := by
  cases h with
  | resting hstate hstage => simp [hstate, hstage]
  | dialing _ hstate hstage => simp [hstate, hstage]
  | dialed _ hstate hstage => simp [hstate, hstage]
  | greeting _ hstate hstage => rcases hstage with hstage | hstage <;> simp [hstate, hstage]
  | serving _ hstate hstage => simp [hstate, hstage]

/-- An open session has a writer. -/
theorem established_iff_of_run {settings : Settings} {world : World} {turns : List Turn}
    {s : System World} (hrun : (start settings world).run? link turns = some s) :
    (s.gateway.stage = .established ↔ s.gateway.state = .connected) ∧
      (s.gateway.stage = .established → ∃ writer, s.gateway.writer = some writer) := by
  have hiff : s.gateway.stage = .established ↔ s.gateway.state = .connected :=
    ((isSound_start settings world).run hrun).standing.established_iff
  refine ⟨hiff, fun hstage => ?_⟩
  exact Option.ne_none_iff_exists'.mp (writer_of_connected hrun (hiff.mp hstage))

/-- To a gateway at rest another request for the end gives a new session number, and nothing
else. -/
theorem step_of_atRest {s : System World} (hrest : s.gateway.AtRest)
    (hrunning : s.gateway.running = true) (time : Reading) (caller : Nat) :
    s.step? link (.item time (.close caller)) = some { s with
      gateway := { s.gateway with
        life := s.gateway.life.nextGeneration
        journal := [.released caller] }
      log := s.log ++ [.released caller] } := by
  have hstep : s.step? link (.item time (.close caller)) =
      some (s.leave (s.gateway.step link time (.close caller))) := rfl
  rw [hstep, step_close_of_atRest link hrest hrunning]
  rfl

/-- In any state of a gateway that goes on, a request for the end takes everything down and leaves
the gateway at rest.  The logout is for an open session, which has a writer, and without a
connection nothing is done to any session.  A second request right after it gives a new session
number, answers whoever asked, and does nothing else. -/
theorem closes_of_run {settings : Settings} {world : World} {turns : List Turn} {s : System World}
    (hrun : (start settings world).run? link turns = some s) (hrunning : s.gateway.running = true)
    (time : Reading) (caller : Nat) :
    ∃ next, s.step? link (.item time (.close caller)) = some next ∧ s.Closes link next ∧
      (s.gateway.stage = .established ↔ s.gateway.state = .connected) ∧
      (s.gateway.stage = .established → ∃ writer, s.gateway.writer = some writer) ∧
      (s.gateway.state = .disconnected → s.gateway.dealings.parting link = []) ∧
      ∀ later again, next.step? link (.item later (.close again)) = some { next with
        gateway := { next.gateway with
          life := next.gateway.life.nextGeneration
          journal := [.released again] }
        log := next.log ++ [.released again] } := by
  have hsound := (isSound_start settings world).run hrun
  rcases established_iff_of_run hrun with ⟨hopen, hwriter⟩
  obtain ⟨next, hstep⟩ : ∃ next, s.step? link (.item time (.close caller)) = some next := ⟨_, rfl⟩
  have hcloses := closes_of_step hsound hrunning (session_of_run hrun) hstep
  refine ⟨next, hstep, hcloses, hopen, hwriter, fun hstate => ?_, fun later again => ?_⟩
  · rcases hsound.standing.of_disconnected hstate with ⟨-, hnone, -, hticker⟩
    exact parting_of_no_session hnone (session_of_run hrun hstate) hticker
  · exact step_of_atRest hcloses.rest (running_of_close hsound hrunning hstep) later again

/-! ## The end of an open session -/

/-- An order is pending in an open session of the web server. -/
def webOrder : List Turn :=
  webLogin ++ [webEntry, .submit 5 (.killAll (share "SBER")), .advance midnight 0,
    .advance midnight 0, .advance midnight 0]

/-- The session is left with the logout, and whoever submitted the order is told. -/
theorem closes_of_run_webOrder :
    ∃ s next, (start webSettings ()).run? openLink webOrder = some s ∧
      s.gateway.running = true ∧
      s.step? openLink (.item midnight (.close 8)) = some next ∧ s.Closes openLink next ∧
      next.gateway.journal.filter Effect.isDealing =
        [.stopTicker 1, .stopSession 1, .wrote 7 "\x7b\"msgid\":10006\x7d" (.ok ()), .closed 7] ∧
      Gateway.settled next.gateway.journal =
        [(5, ⟨1, some (.killAll (share "SBER")), .timedOut⟩)] := by
  have hfacts : ((start webSettings ()).run? openLink webOrder).map (fun s =>
      decide (s.gateway.running = true ∧ s.gateway.settings.dialect = .web ∧
        s.gateway.stage = .established ∧ s.gateway.writer = some 7 ∧
        s.gateway.session = some 1 ∧ s.gateway.ticker = some 1 ∧
        s.gateway.pending.entries = [⟨1, .killAll (share "SBER"), 0, 5⟩])) = some true := by
    decide +kernel
  rcases Option.map_eq_some_iff.mp hfacts with ⟨s, hrun, hs⟩
  rcases of_decide_eq_true hs with
    ⟨hrunning, hdialect, hstage, hwriter, hsession, hticker, hpending⟩
  rcases closes_of_run hrun hrunning midnight 8 with ⟨next, hstep, hcloses, -⟩
  refine ⟨s, next, hrun, hrunning, hstep, hcloses, ?_, ?_⟩
  · rw [hcloses.parting]
    simp [Dealings.parting, dealings, farewell, openLink, hdialect, hstage, hwriter, hsession,
      hticker]
  · rw [hcloses.settled, hpending]
    rfl

end System

end TerminalGateway
