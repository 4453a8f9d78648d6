import TerminalGateway.Proofs.Subscription.Delivery
import TerminalGateway.Proofs.System.Coverage
import TerminalGateway.Proofs.System.Tidings

/-!
# The path of states

A sink that takes the state of the connection is told of each change of the state while it is on
some asset: in order, of each once, and of no more.  What it is told is therefore the path that
the connection takes through its states.

Main definitions:

- `route`: the states that triggers lead through.
- `heard`: the states that a sink is told.
- `Follows`: what a sink is told leads from one state to another, as the triggers do.
- `System.Stays`: a sink is on some asset all along a run.

Main results:

- Theorem `isChain_route`: a route goes from state to state by triggers.
- Theorem `isTold_of_declares`: whoever declared it is told of a state once.
- Theorem `System.follows_of_run`: a sink that stays is told the route of the connection.
- Theorem `System.path_of_run`: what is told since a subscription is the path of states.
-/

namespace TerminalGateway

namespace Gateway

open TerminalGateway.Connection (State Trigger next?)
open TerminalGateway.Subscriptions (Call Declares Reflects Registered)

/-! ## Routes -/

/-- A trigger leads from one state to another. -/
def Leads (before after : State) : Prop :=
  after ≠ before ∧ ∃ trigger, next? before trigger = some after

/-- The states that triggers lead through; one that is out of place, or that leads to the same
state, adds none. -/
def route : State → List Trigger → List State
  | _, [] => []
  | state, trigger :: rest =>
      match next? state trigger with
      | none => route state rest
      | some after => if after = state then route state rest else after :: route after rest

/-- A route goes from state to state by triggers. -/
theorem isChain_route (state : State) (triggers : List Trigger) :
    (state :: route state triggers).IsChain Leads := by
  induction triggers generalizing state with
  | nil => exact .singleton state
  | cons trigger rest ih =>
      unfold route
      cases hnext : next? state trigger with
      | none => exact ih state
      | some after =>
          dsimp only
          split <;> rename_i hsame
          · exact ih state
          · exact .cons_cons ⟨hsame, trigger, hnext⟩ (ih after)

/-- The last of two lists is that of the second, if it has one. -/
theorem getLastD_append (first second : List State) (state : State) :
    (first ++ second).getLastD state = second.getLastD (first.getLastD state) := by
  induction first generalizing state with
  | nil => rfl
  | cons head rest ih =>
      rw [List.cons_append, List.getLastD_cons, List.getLastD_cons]
      exact ih head

/-- A route goes on from where it has led. -/
theorem route_append (state : State) (first second : List Trigger) :
    route state (first ++ second) =
      route state first ++ route ((route state first).getLastD state) second := by
  induction first generalizing state with
  | nil => rfl
  | cons trigger rest ih =>
      cases hnext : next? state trigger with
      | none =>
          simp only [List.cons_append, route, hnext]
          exact ih state
      | some after =>
          by_cases hsame : after = state
          · simp only [List.cons_append, route, hnext, if_pos hsame]
            exact ih state
          · simp only [List.cons_append, route, hnext, if_neg hsame, List.getLastD_cons]
            rw [ih after]

/-! ## What is read off a log -/

/-- The triggers in a log, oldest first. -/
def triggers (log : List Effect) : List Trigger :=
  log.filterMap fun
    | .triggered trigger _ => some trigger
    | _ => none

/-- The states that a sink was told, oldest first. -/
def heard (sink : SinkId) (log : List Effect) : List State :=
  log.filterMap fun
    | .called other (.state state) => if other = sink then some state else none
    | _ => none

theorem triggers_append (first second : List Effect) :
    triggers (first ++ second) = triggers first ++ triggers second :=
  List.filterMap_append

theorem heard_append (sink : SinkId) (first second : List Effect) :
    heard sink (first ++ second) = heard sink first ++ heard sink second :=
  List.filterMap_append

theorem triggers_filter_isTiding (log : List Effect) :
    triggers (log.filter Effect.isTiding) = triggers log :=
  filterMap_filter_effects (by rintro ⟨⟩ <;> simp [Effect.isTiding]) log

theorem heard_filter_isTiding (sink : SinkId) (log : List Effect) :
    heard sink (log.filter Effect.isTiding) = heard sink log := by
  refine filterMap_filter_effects (fun effect heffect => ?_) log
  cases effect with
  | called other event => cases event <;> simp [Effect.isTiding] at heffect ⊢
  | _ => rfl

theorem triggers_filter_isMark (log : List Effect) :
    triggers (log.filter Effect.isMark) = triggers log :=
  filterMap_filter_effects (by rintro ⟨⟩ <;> simp [Effect.isMark]) log

theorem triggers_answerMarks (c : Core) (result : Except GatewayError Unit) :
    triggers (c.answerMarks result) = [] := by
  cases hcaller : c.caller <;> simp [Core.answerMarks, hcaller, triggers]

theorem triggers_proclaim (subscriptions : Subscriptions) (state : State) :
    triggers (proclaim subscriptions state) = [] := by
  simp [triggers, proclaim]

/-! ## Sinks that are told -/

/-- A sink is told of each state once. -/
def IsTold (sink : SinkId) (subscriptions : Subscriptions) : Prop :=
  ∀ state, heard sink (proclaim subscriptions state) = [state]

/-- A sink declared one thing when it came. -/
theorem declares_unique {history : List Call} {sink : SinkId} {first second : List Capability}
    (hfirst : Declares history sink first) (hsecond : Declares history sink second) :
    first = second := by
  rcases hfirst with ⟨position, asset, hbegan, hcall⟩
  rcases hsecond with ⟨other, place, hother, hagain⟩
  obtain rfl := hbegan.unique hother
  rw [hcall] at hagain
  simp only [Option.some.injEq, Call.subscribe.injEq] at hagain
  exact hagain.2.2

/-- Whoever declared it is told of a state once, whatever number of assets it is on. -/
theorem isTold_of_declares {history : List Call} {subscriptions : Subscriptions} {sink : SinkId}
    {declared : List Capability} (hreflects : Reflects history subscriptions)
    (hdeclares : Declares history sink declared) (hstate : Capability.state ∈ declared) :
    IsTold sink subscriptions := by
  intro state
  have hdelivery := hreflects.goesToAll_broadcast (.state state)
  have hregistered : Registered sink history := by
    rcases hdeclares with ⟨position, asset, hbegan, -⟩
    exact hbegan.holds
  have haddressed := (hdelivery.addressed.mem_iff sink).mpr hregistered
  rcases hdelivery.mem_called sink haddressed with ⟨other, hother, hiff⟩
  obtain rfl := declares_unique hother hdeclares
  have hcalled := hiff.mpr hstate
  have honce : (subscriptions.broadcast (.state state)).called.count sink = 1 :=
    List.count_eq_one_of_mem (hdelivery.nodup.sublist hdelivery.sublist) hcalled
  have hheard : ∀ called : List SinkId,
      heard sink (called.map fun other => .called other (.state state)) =
        (called.filter (· == sink)).map fun _ => state := by
    intro called
    induction called with
    | nil => rfl
    | cons other rest ih =>
        by_cases hsame : other = sink
        · simpa [heard, hsame] using ih
        · simpa [heard, hsame] using ih
  rw [proclaim, hheard, List.filter_beq, honce]
  rfl

/-! ## What a sink is told along a route -/

/-- What a sink is told in a log is the route of its triggers, and leads from one state to
another. -/
structure Follows (sink : SinkId) (before : State) (log : List Effect) (after : State) : Prop where
  told : heard sink log = route before (triggers log)
  reached : (heard sink log).getLastD before = after

namespace Follows

variable {sink : SinkId} {before middle after : State} {first second log : List Effect}

theorem nil (sink : SinkId) (state : State) : Follows sink state [] state :=
  ⟨rfl, rfl⟩

theorem append (hfirst : Follows sink before first middle)
    (hsecond : Follows sink middle second after) : Follows sink before (first ++ second) after := by
  have hmiddle : (route before (triggers first)).getLastD before = middle :=
    hfirst.told ▸ hfirst.reached
  refine ⟨?_, ?_⟩
  · rw [heard_append, triggers_append, route_append, hmiddle, hfirst.told, hsecond.told]
  · rw [heard_append, getLastD_append, hfirst.reached, hsecond.reached]

/-- What a sink is told goes from state to state by triggers. -/
theorem isChain (h : Follows sink before log after) : (before :: heard sink log).IsChain Leads := by
  rw [h.told]
  exact isChain_route before (triggers log)

end Follows

/-- A sink that is told of each state once follows a trigger. -/
theorem follows_trigger {sink : SinkId} {t : Tidings} (htold : IsTold sink t.subscriptions)
    (trigger : Trigger) :
    ∃ news, (t.trigger trigger).effects = t.effects ++ news ∧
      Follows sink t.state news (t.trigger trigger).state := by
  unfold Tidings.trigger
  cases hnext : next? t.state trigger with
  | none => exact ⟨_, rfl, by simp [heard, triggers, route, hnext], rfl⟩
  | some after =>
      refine ⟨_, rfl, ?_⟩
      by_cases hsame : after = t.state
      · rw [if_pos hsame]
        exact ⟨by simp [heard, triggers, route, hnext, hsame], hsame.symm⟩
      · rw [if_neg hsame, ← List.singleton_append]
        have htriggers : triggers [.triggered trigger (some after)] = [trigger] := rfl
        have hheard : heard sink ([.triggered trigger (some after)] ++
            proclaim t.subscriptions after) = [after] :=
          (heard_append sink _ _).trans (htold after)
        refine ⟨?_, by rw [hheard]; rfl⟩
        rw [hheard, triggers_append, triggers_proclaim, htriggers]
        simp [route, hnext, hsame]

/-- A sink that is told of each state once follows whatever happens to the connection. -/
theorem follows_of_tells {sink : SinkId} {t after : Tidings} (htells : Tells t after)
    (htold : IsTold sink t.subscriptions) :
    ∃ news, after.effects = t.effects ++ news ∧ Follows sink t.state news after.state := by
  rcases htells with ⟨triggers, rfl⟩
  induction triggers generalizing t with
  | nil => exact ⟨[], (List.append_nil _).symm, .nil sink t.state⟩
  | cons trigger rest ih =>
      have hkept := (tells_trigger t trigger).subscriptions
      rcases follows_trigger htold trigger with ⟨early, hearly, hfirst⟩
      rcases ih (hkept ▸ htold) with ⟨late, hlate, hrest⟩
      refine ⟨early ++ late, ?_, hfirst.append hrest⟩
      rw [List.foldl_cons, hlate, hearly, List.append_assoc]

end Gateway

namespace System

open TerminalGateway.Connection (State)
open TerminalGateway.Gateway
open TerminalGateway.Subscriptions (Call Declares Holds Reflects Registered declares_of_first
  holds_concat)

variable {World : Type} {link : Link World}

/-! ## Turns -/

/-- All that a turn does to the tidings is done by triggers; who is subscribed may change too. -/
theorem tells_of_step {s next : System World} {turn : Turn}
    (hstep : s.step? link turn = some next) :
    Tells s.cleared.tidings
      { next.gateway.tidings with subscriptions := s.gateway.subscriptions } := by
  have hsilent : next.gateway.tidings = s.cleared.tidings → Tells s.cleared.tidings
      { next.gateway.tidings with subscriptions := s.gateway.subscriptions } :=
    fun h => ⟨[], by rw [h]; rfl⟩
  cases turn with
  | item time item =>
      have hgateway := gateway_of_item hstep
      by_cases hrunning : s.gateway.running = true
      · have hhandle : next.gateway = s.cleared.handle link time item :=
          hgateway.trans (if_pos hrunning)
        rw [hhandle]
        exact tells_handle link s.cleared time item
      · exact hsilent (congrArg tidings (hgateway.trans (if_neg hrunning)))
  | submit issuer intent =>
      cases hstep
      exact hsilent rfl
  | advance time number =>
      rcases Option.map_eq_some_iff.mp hstep with ⟨submission, hsubmission, rfl⟩
      exact hsilent ((tidings_of_writes (submission.writes_step link time s.cleared)).trans rfl)
  | raw text =>
      cases hstep
      exact hsilent (tidings_of_writes (writes_sendRaw link s.cleared text))

/-- A sink that is told of each state once follows the turn. -/
theorem follows_of_step {sink : SinkId} {s next : System World} {turn : Turn}
    (hstep : s.step? link turn = some next) (htold : IsTold sink s.gateway.subscriptions) :
    Follows sink s.gateway.state next.gateway.journal next.gateway.state := by
  rcases follows_of_tells (tells_of_step hstep) htold with ⟨news, hnews, hfollows⟩
  have hjournal : next.gateway.journal.filter Effect.isTiding = news := hnews
  subst hjournal
  refine ⟨?_, ?_⟩
  · have hheard := hfollows.told
    rw [heard_filter_isTiding, triggers_filter_isTiding] at hheard
    exact hheard
  · have hlast := hfollows.reached
    rw [heard_filter_isTiding] at hlast
    exact hlast

/-! ## Runs -/

/-- A sink is on some asset all along a run. -/
def Stays (link : Link World) (sink : SinkId) (s : System World) (turns : List Turn) : Prop :=
  ∀ early late middle, turns = early ++ late → s.run? link early = some middle →
    ∃ asset, sink ∈ middle.gateway.subscriptions.sinksOn asset

section

variable {sink : SinkId} {s middle : System World} {early late : List Turn}

theorem Stays.left (h : Stays link sink s (early ++ late)) : Stays link sink s early :=
  fun before after other hearly hbefore =>
    h before (after ++ late) other (by rw [hearly, List.append_assoc]) hbefore

theorem Stays.right (h : Stays link sink s (early ++ late))
    (hearly : s.run? link early = some middle) : Stays link sink middle late := by
  intro before after other hlate hbefore
  refine h (early ++ before) after other (by rw [hlate, List.append_assoc]) ?_
  rw [run?_append, hearly]
  exact hbefore

end

/-- A sink that came with a declaration still has it. -/
def Keeps (sink : SinkId) (declared : List Capability) (s : System World) : Prop :=
  ∃ history, Reflects history s.gateway.subscriptions ∧ Declares history sink declared

/-- A turn after which a sink is on some asset leaves its declaration. -/
theorem Keeps.step {sink : SinkId} {declared : List Capability} {s next : System World}
    {turn : Turn} (hkeeps : Keeps sink declared s) (hsound : s.IsSound)
    (hstep : s.step? link turn = some next)
    (hstays : ∃ asset, sink ∈ next.gateway.subscriptions.sinksOn asset) :
    Keeps sink declared next := by
  rcases hkeeps with ⟨history, hreflects, hdeclares⟩
  rcases hstays with ⟨asset, hmem⟩
  have hnext := subscriptions_of_step hsound hstep
  cases hcall : s.call? turn with
  | none =>
      rw [hcall, Option.elim_none] at hnext
      exact ⟨history, hnext ▸ hreflects, hdeclares⟩
  | some call =>
      rw [hcall, Option.elim_some] at hnext
      have hafter : Reflects (history ++ [call]) next.gateway.subscriptions :=
        hnext ▸ hreflects.call call
      exact ⟨_, hafter, hdeclares.concat ⟨asset, (hafter.mem_sinksOn asset sink).mp hmem⟩⟩

/-- A sink that stays is told the route of the connection. -/
theorem follows_of_run {sink : SinkId} {declared : List Capability} {s last : System World}
    {turns : List Turn} (hsound : s.IsSound) (hkeeps : Keeps sink declared s)
    (hstate : Capability.state ∈ declared) (hrun : s.run? link turns = some last)
    (hstays : Stays link sink s turns) :
    Keeps sink declared last ∧ ∃ news, last.log = s.log ++ news ∧
      Follows sink s.gateway.state news last.gateway.state := by
  suffices h : Stays link sink s turns → Keeps sink declared last ∧
      ∃ news, last.log = s.log ++ news ∧
        Follows sink s.gateway.state news last.gateway.state from h hstays
  refine run_induction (motive := fun turns last => Stays link sink s turns →
    Keeps sink declared last ∧ ∃ news, last.log = s.log ++ news ∧
      Follows sink s.gateway.state news last.gateway.state) ?_ ?_ hrun
  · exact fun _ => ⟨hkeeps, [], (List.append_nil _).symm, .nil sink _⟩
  · intro turns turn middle next hmiddle ih hstep hstays
    rcases ih hstays.left with ⟨hkept, news, hlog, hfollows⟩
    have hnext := hstays (turns ++ [turn]) [] next (List.append_nil _).symm
      (run?_concat_of_eq hmiddle hstep)
    have htold : IsTold sink middle.gateway.subscriptions := by
      rcases hkept with ⟨history, hreflects, hdeclares⟩
      exact isTold_of_declares hreflects hdeclares hstate
    rcases of_step hstep with ⟨-, -, -, hjournal⟩
    refine ⟨hkept.step (hsound.run hmiddle) hstep hnext, news ++ next.gateway.journal, ?_,
      hfollows.append (follows_of_step hstep htold)⟩
    rw [hjournal, hlog, List.append_assoc]

/-- A subscription is ended by a turn that asks for it. -/
theorem of_call?_unsubscribe {s : System World} {turn : Turn} {asset : Asset} {sink : SinkId}
    (h : s.call? turn = some (.unsubscribe asset sink)) :
    ∃ time, turn = .item time (.unsubscribe asset sink) := by
  cases turn with
  | item time item =>
      unfold call? at h
      dsimp only at h
      split at h
      · cases item <;> simp [Item.call?] at h
        obtain ⟨rfl, rfl⟩ := h
        exact ⟨time, rfl⟩
      · simp at h
  | _ => simp [call?] at h

/-- A sink that is on an asset stays while nobody takes it off. -/
theorem stays_of_not_unsubscribed {asset : Asset} {sink : SinkId} {history : List Call}
    {s : System World} {turns : List Turn} (hsound : s.IsSound)
    (hreflects : Reflects history s.gateway.subscriptions)
    (hmem : sink ∈ s.gateway.subscriptions.sinksOn asset)
    (hnone : ∀ time, .item time (.unsubscribe asset sink) ∉ turns) : Stays link sink s turns := by
  intro early late middle hturns hearly
  suffices h : (∀ time, .item time (.unsubscribe asset sink) ∉ early) → ∃ history,
      Reflects history middle.gateway.subscriptions ∧ Holds asset sink history by
    rcases h fun time hbefore => hnone time (hturns ▸ List.mem_append_left late hbefore) with
      ⟨history, hafter, hholds⟩
    exact ⟨asset, (hafter.mem_sinksOn asset sink).mpr hholds⟩
  refine run_induction (motive := fun early middle =>
    (∀ time, .item time (.unsubscribe asset sink) ∉ early) → ∃ history,
      Reflects history middle.gateway.subscriptions ∧ Holds asset sink history) ?_ ?_ hearly
  · exact fun _ => ⟨history, hreflects, (hreflects.mem_sinksOn asset sink).mp hmem⟩
  · intro turns turn middle next hmiddle ih hstep hbefore
    rcases ih fun time h => hbefore time (List.mem_append_left _ h) with ⟨history, hkept, hholds⟩
    have hnext := subscriptions_of_step (hsound.run hmiddle) hstep
    cases hcall : middle.call? turn with
    | none =>
        rw [hcall, Option.elim_none] at hnext
        exact ⟨history, hnext ▸ hkept, hholds⟩
    | some call =>
        rw [hcall, Option.elim_some] at hnext
        have hother : call ≠ .unsubscribe asset sink := by
          rintro rfl
          rcases of_call?_unsubscribe hcall with ⟨time, rfl⟩
          exact hbefore time (List.mem_append_right _ (List.mem_singleton.mpr rfl))
        exact ⟨history ++ [call], hnext ▸ hkept.call call,
          (holds_concat asset sink history call).mpr (.inr ⟨hother, hholds⟩)⟩

/-! ## States in between -/

/-- In this turn a session, or the way to it, is ended on request or by a refusal. -/
inductive Parts (s : System World) : Turn → Prop where
  | request {time item running} (hrunning : s.gateway.running = true)
      (hstate : s.gateway.state ≠ .disconnected) (hends : item.ends? = some running) :
      Parts s (.item time item)
  | refusal {time bytes error} (hrunning : s.gateway.running = true)
      (hverdict : s.core.verdict? bytes = some (.refuse error)) :
      Parts s (.item time (.transport s.gateway.life.generation (.frame bytes)))

/-- The way into a session leads through the busy state. -/
theorem Move.route_of_entry {c : Core} {turn : Turn} {o : Outline} (hmove : Move c turn o)
    (hclosed : c.life.state ≠ .connected) (hopen : o.core.life.state = .connected) :
    route c.life.state (triggers o.marks) = [.busy, .connected] := by
  cases hmove with
  | connect _ _ => simp [Core.opening] at hopen
  | reconnect _ _ => simp [Core.opening] at hopen
  | enter _ hstate _ =>
      rw [triggers_append, triggers_answerMarks, hstate]
      rfl
  | refuse _ _ _ => simp [Core.ended] at hopen
  | close _ _ _ => simp [Core.ended] at hopen
  | fail _ _ hafter => exact absurd hopen (answers_of_aftermath hafter rfl).2.2.2
  | lose _ _ _ hafter => exact absurd hopen (answers_of_aftermath hafter rfl).2.2.2
  | _ => exact absurd hopen hclosed

/-- The way out of a session on request leads through the disconnecting state. -/
theorem Move.route_of_ends {c : Core} {time : Reading} {item : Item} {o : Outline}
    {running : Bool} (hmove : Move c (.item time item) o) (hrunning : c.running = true)
    (hstate : c.life.state ≠ .disconnected) (hends : item.ends? = some running) :
    route c.life.state (triggers o.marks) = [.disconnecting, .disconnected] := by
  cases hmove with
  | stay hquiet =>
      have hstopped : c.running = false := by
        cases item <;> simp [Item.ends?] at hends <;> exact hquiet
      simp [hrunning] at hstopped
  | idle _ _ hrest => exact absurd hrest hstate
  | close _ _ hopen =>
      rw [triggers_append, ← List.singleton_append, triggers_append, triggers_answerMarks]
      rcases hopen with hopen | hopen <;> rw [hopen] <;> rfl
  | lose _ hitem _ _ =>
      rcases hitem with ⟨reason, rfl⟩ | rfl <;> simp [Item.ends?] at hends
  | _ => simp [Item.ends?] at hends

/-- The way out of a login that is refused leads through the disconnecting state. -/
theorem route_of_refusal {s next : System World} {time : Reading} {bytes : List UInt8}
    {error : AuthError} (hsound : s.IsSound) (hrunning : s.gateway.running = true)
    (hverdict : s.core.verdict? bytes = some (.refuse error))
    (hstep : s.step? link (.item time (.transport s.gateway.life.generation (.frame bytes))) =
      some next) :
    route s.gateway.state (triggers next.gateway.outline.marks) =
      [.disconnecting, .disconnected] := by
  have hstate : s.core.life.state = .connecting :=
    (hsound.standing.of_stage (stage_of_verdict? hverdict)).1
  have hnext : next.gateway = s.cleared.countFrame.onRefused link time error := by
    rw [gateway_of_item hstep, step_of_current link hrunning]
    exact onFrame_of_verdict? link time (g := s.cleared) hverdict
  have houtline := outline_onRefused link time error (g := s.cleared.countFrame) hstate
  have hmarks : next.gateway.outline.marks = [.triggered .authFailed (some .disconnecting),
      .triggered .closed (some .disconnected)] ++ s.core.answerMarks (.error (.auth error)) := by
    rw [hnext, houtline]
    rfl
  have hconnecting : s.gateway.state = .connecting := hstate
  rw [hmarks, triggers_append, triggers_answerMarks, hconnecting]
  rfl

/-- A sink that is told of each state once is told of those in between. -/
theorem heard_of_step {sink : SinkId} {s next : System World} {turn : Turn} (hsound : s.IsSound)
    (hstep : s.step? link turn = some next) (htold : IsTold sink s.gateway.subscriptions) :
    (s.gateway.state ≠ .connected → next.gateway.state = .connected →
      heard sink next.gateway.journal = [.busy, .connected]) ∧
    (s.Parts turn → heard sink next.gateway.journal = [.disconnecting, .disconnected]) := by
  have hmarks : heard sink next.gateway.journal =
      route s.gateway.state (triggers next.gateway.outline.marks) := by
    rw [(follows_of_step hstep htold).told, ← triggers_filter_isMark]
    rfl
  have hmove := move_of_step hsound hstep
  rw [hmarks]
  refine ⟨fun hclosed hopen => hmove.route_of_entry hclosed hopen, fun hparts => ?_⟩
  cases hparts with
  | request hrunning hstate hends => exact hmove.route_of_ends hrunning hstate hends
  | refusal hrunning hverdict => exact route_of_refusal hsound hrunning hverdict hstep

/-! ## The path -/

/-- A subscription leaves the course of the connection as it is. -/
theorem Move.of_subscribe {c : Core} {time : Reading} {asset : Asset} {sink : SinkId}
    {declared : List Capability} {o : Outline}
    (hmove : Move c (.item time (.subscribe asset sink declared)) o) : o = ⟨c, []⟩ := by
  cases hmove with
  | stay _ => rfl
  | idle _ hends _ => simp [Item.ends?] at hends
  | close _ hends _ => simp [Item.ends?] at hends
  | lose _ hitem _ _ => simp at hitem

/-- A sink that comes with a declaration has it, once it is on some asset. -/
theorem keeps_of_subscribe {settings : Settings} {world : World} {turns : List Turn}
    {first s : System World} {time : Reading} {asset : Asset} {sink : SinkId}
    {declared : List Capability} (hrun : (start settings world).run? link turns = some first)
    (hnew : ∀ asset, sink ∉ first.gateway.subscriptions.sinksOn asset)
    (hsubscribe : first.step? link (.item time (.subscribe asset sink declared)) = some s)
    (hheld : ∃ asset, sink ∈ s.gateway.subscriptions.sinksOn asset) : Keeps sink declared s := by
  have hsound := (isSound_start settings world).run hrun
  rcases reflects_of_run hrun with ⟨history, hreflects⟩
  have hunregistered : ¬ Registered sink history := by
    rintro ⟨other, hholds⟩
    exact hnew other ((hreflects.mem_sinksOn other sink).mpr hholds)
  have hnext := subscriptions_of_step hsound hsubscribe
  by_cases hrunning : first.gateway.running = true
  · have hcall : first.call? (.item time (.subscribe asset sink declared)) =
        some (.subscribe asset sink declared) := if_pos hrunning
    rw [hcall, Option.elim_some] at hnext
    exact ⟨_, hnext ▸ hreflects.call _, declares_of_first asset declared hunregistered⟩
  · have hcall : first.call? (.item time (.subscribe asset sink declared)) = none :=
      if_neg hrunning
    rw [hcall, Option.elim_none] at hnext
    rcases hheld with ⟨other, hmem⟩
    exact absurd (hnext ▸ hmem) (hnew other)

/-- A sink comes with the capability for the state of the connection, and is on some asset from
then on.  From any point on, what it is told is the route of the connection: each state differs
from the one before and follows from it by a trigger, nothing is told twice, and the last state
is that of the gateway.  The busy state on the way into a session, and the disconnecting one on
the way out of it, are told as well. -/
theorem path_of_run {settings : Settings} {world : World} {turns later : List Turn}
    {first s last : System World} {time : Reading} {asset : Asset} {sink : SinkId}
    {declared : List Capability} (hrun : (start settings world).run? link turns = some first)
    (hnew : ∀ asset, sink ∉ first.gateway.subscriptions.sinksOn asset)
    (hdeclared : Capability.state ∈ declared)
    (hsubscribe : first.step? link (.item time (.subscribe asset sink declared)) = some s)
    (hlater : s.run? link later = some last) (hstays : Stays link sink s later) :
    s.gateway.state = first.gateway.state ∧
    (∀ early late middle, later = early ++ late → s.run? link early = some middle →
      ∃ news, last.log = middle.log ++ news ∧
        heard sink news = route middle.gateway.state (triggers news) ∧
        (middle.gateway.state :: heard sink news).IsChain Leads ∧
        (heard sink news).getLastD middle.gateway.state = last.gateway.state) ∧
    (∀ early turn late middle next, later = early ++ turn :: late →
      s.run? link early = some middle → middle.step? link turn = some next →
      (middle.gateway.state ≠ .connected → next.gateway.state = .connected →
        heard sink next.gateway.journal = [.busy, .connected]) ∧
      (middle.Parts turn → heard sink next.gateway.journal = [.disconnecting, .disconnected])) := by
  have hfirst := (isSound_start settings world).run hrun
  have hsound := hfirst.step hsubscribe
  have hkeeps := keeps_of_subscribe hrun hnew hsubscribe
    (hstays [] later s rfl rfl)
  have hmiddle : ∀ early late middle, later = early ++ late → s.run? link early = some middle →
      Keeps sink declared middle := by
    rintro early late middle rfl hearly
    exact (follows_of_run hsound hkeeps hdeclared hearly hstays.left).1
  refine ⟨?_, ?_, ?_⟩
  · exact congrArg (fun o => o.core.life.state) (move_of_step hfirst hsubscribe).of_subscribe
  · rintro early late middle rfl hearly
    have hlate : middle.run? link late = some last := by
      rw [run?_append, hearly] at hlater
      exact hlater
    rcases (follows_of_run (hsound.run hearly) (hmiddle early late middle rfl hearly) hdeclared
      hlate (hstays.right hearly)).2 with ⟨news, hlog, hfollows⟩
    exact ⟨news, hlog, hfollows.told, hfollows.isChain, hfollows.reached⟩
  · intro early turn late middle next hturns hearly hstep
    rcases hmiddle early (turn :: late) middle hturns hearly with ⟨history, hreflects, hdeclares⟩
    exact heard_of_step (hsound.run hearly) hstep
      (isTold_of_declares hreflects hdeclares hdeclared)

/-! ## A sink on two shares -/

/-- A sink subscribes to a second share, the bridge is connected, and the session is closed. -/
def openAndClose : List Turn :=
  .item midnight (.subscribe (share "GAZP") 0 [.state]) ::
    (bridgeLogin ++ [.item midnight (.close 8)])

/-- The sink is told of all five changes of the state, each once. -/
theorem path_of_run_openAndClose :
    ∃ s last news, (start bridgeSettings ()).step? openLink
        (.item midnight (.subscribe (share "SBER") 0 [.state])) = some s ∧
      s.run? openLink openAndClose = some last ∧ Stays openLink 0 s openAndClose ∧
      last.log = s.log ++ news ∧
      heard 0 news = [.connecting, .busy, .connected, .disconnecting, .disconnected] ∧
      (State.disconnected :: heard 0 news).IsChain Leads ∧
      (heard 0 news).getLastD .disconnected = last.gateway.state := by
  have hfacts : (((start bridgeSettings ()).step? openLink
      (.item midnight (.subscribe (share "SBER") 0 [.state]))).bind fun s =>
        (s.run? openLink openAndClose).map fun last =>
          (decide (0 ∈ s.gateway.subscriptions.sinksOn (share "SBER") ∧ s.log.length = 0),
            heard 0 last.log)) =
      some (true, [.connecting, .busy, .connected, .disconnecting, .disconnected]) := by
    decide +kernel
  rcases Option.bind_eq_some_iff.mp hfacts with ⟨s, hsubscribe, hrest⟩
  rcases Option.map_eq_some_iff.mp hrest with ⟨last, hlater, hpair⟩
  simp only [Prod.mk.injEq, decide_eq_true_eq, List.length_eq_zero_iff] at hpair
  rcases hpair with ⟨⟨hmem, hlog⟩, hheard⟩
  have hrun : (start bridgeSettings ()).run? openLink [] = some (start bridgeSettings ()) := rfl
  have hsound := (isSound_start bridgeSettings ()).step hsubscribe
  have hstays : Stays openLink 0 s openAndClose := by
    rcases reflects_of_run (run?_concat_of_eq hrun hsubscribe) with ⟨history, hreflects⟩
    refine stays_of_not_unsubscribed hsound hreflects hmem fun time => ?_
    simp [openAndClose, bridgeLogin, connection, hear]
  rcases path_of_run hrun (fun asset => List.not_mem_nil) (by decide) hsubscribe hlater hstays with
    ⟨hstate, hpath, -⟩
  rcases hpath [] openAndClose s rfl rfl with ⟨news, hnews, -, hchain, hlast⟩
  have hdisconnected : s.gateway.state = .disconnected := hstate
  rw [hdisconnected] at hchain hlast
  refine ⟨s, last, news, hsubscribe, hlater, hstays, hnews, ?_, hchain, hlast⟩
  rw [hnews, hlog, List.nil_append] at hheard
  exact hheard

end System

end TerminalGateway
