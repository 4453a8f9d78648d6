import TerminalGateway.Proofs.System.Requests
import TerminalGateway.Proofs.System.Utterance
import TerminalGateway.Proofs.Subscription.Registry

/-!
# Requests for market data

In each turn a gateway asks for the market data that is due and for no other: on the entry into
a session for every asset with a sink, and while it is connected for an asset that is given its
first sink.  It has a writer for that as soon as the connection of its session is made.

Main definitions:

- `System.feeds`: the assets whose market data is to be asked for in a turn.
- `System.courtesy`: what else a gateway says in a turn.

Main results:

- Theorem `System.equipped_of_run`: a session whose connection is made has a writer.
- Theorem `System.texts_of_step`: what is said in a turn.
- Theorem `System.subscriptions_of_step`, `System.reflects_of_run`: who is subscribed.
-/

namespace TerminalGateway.System

open TerminalGateway.Gateway
open TerminalGateway.Subscriptions (Call Reflects)

variable {World : Type} {link : Link World}

/-! ## Writers -/

/-- A session whose connection is made has a writer. -/
def Equipped (c : Core) (tasks : Tasks) : Prop :=
  tasks.session c.life.generation = .ready ∨ tasks.session c.life.generation = .reading →
    c.writer ≠ none

/-- The connection of a session that is begun has yet to be made. -/
theorem equipped_opening (c : Core) (tasks : Tasks) :
    Equipped c.opening (tasks.noteAll c.openingMarks) := by
  intro hmade
  simp [Core.opening, Core.openingMarks, Tasks.noteAll, Tasks.note] at hmade

/-- After a session that ended without being asked to, there is no connection, or that of a new
session is to be made. -/
theorem equipped_of_aftermath {error : ConnectError} {c core : Core} {marks : List Effect}
    {tasks : Tasks} (hafter : Aftermath error c marks core) (hstate : c.life.state = .disconnected)
    (hrest : core.life.state = .disconnected → Equipped core (tasks.noteAll marks)) :
    Equipped core (tasks.noteAll marks) := by
  cases hafter with
  | told caller hcaller => exact hrest hstate
  | again hcaller hdelay => exact equipped_opening c.counted tasks
  | later delay hcaller hdelay => exact hrest hstate
  | never hcaller hdelay => exact hrest hstate

/-- The connection of a session that is open is read. -/
theorem Standing.reading_of_connected {c : Core} {progress : Progress} {delays : Nat}
    (h : Standing c progress delays) (hstate : c.life.state = .connected) :
    progress = .reading := by
  cases h with
  | resting hrest => simp [hstate] at hrest
  | dialing _ hconnecting => simp [hstate] at hconnecting
  | dialed _ hconnecting => simp [hstate] at hconnecting
  | greeting _ hconnecting => rfl
  | serving _ hconnected => rfl

/-- Every move leaves a session whose connection is made with a writer. -/
theorem Move.equipped {c : Core} {turn : Turn} {o : Outline} {tasks after : Tasks}
    (hmove : Move c turn o) (hsound : Sound c tasks) (htake : tasks.take? turn = some after)
    (h : Equipped c tasks) : Equipped o.core (after.noteAll o.marks) := by
  have hnext := (hmove.sound hsound htake).standing
  have hrest : o.core.life.state = .disconnected → Equipped o.core (after.noteAll o.marks) := by
    intro hstate hmade
    rcases hmade with hmade | hmade
    · have hready := (hmade ▸ hnext).of_ready
      simp [hready.1] at hstate
    · have hreading := (hmade ▸ hnext).of_reading
      simp [hstate] at hreading
  cases hmove with
  | stay hquiet =>
      have hsame := (Tasks.current_of_quiet hsound.standing hquiet htake).1
      intro hmade
      exact h (hmade.imp hsame.symm.trans hsame.symm.trans)
  | present hrunning hstate =>
      cases htake
      exact h
  | connect hrunning hstate => exact equipped_opening { c with caller := some _ } after
  | reconnect hrunning hstate => exact equipped_opening c after
  | ready hrunning => exact fun _ => by simp
  | opened hrunning => exact fun _ => h (.inl (Tasks.of_pass? htake).1)
  | proceed hrunning hverdict => exact fun _ => h (.inr (Tasks.of_pass? htake).1)
  | enter hrunning hstate hverdict => exact fun _ => h (.inr (Tasks.of_pass? htake).1)
  | refuse hrunning hstate hverdict => exact hrest rfl
  | idle hrunning hends hstate => exact hrest hstate
  | close hrunning hends hstate => exact hrest rfl
  | @fail time error marks core hrunning hstate hafter =>
      have hafterwards : Equipped core (after.noteAll marks) :=
        equipped_of_aftermath hafter rfl hrest
      exact hafterwards
  | @lose time item marks core hrunning hitem hstate hafter =>
      have hafterwards : Equipped core (after.noteAll marks) :=
        equipped_of_aftermath hafter rfl hrest
      exact hafterwards

/-- Along every run a session whose connection is made has a writer. -/
theorem equipped_of_run {settings : Settings} {world : World} {turns : List Turn}
    {s : System World} (hrun : (start settings world).run? link turns = some s) :
    Equipped s.core s.tasks := by
  refine run_induction (motive := fun _ s => Equipped s.core s.tasks) ?_ ?_ hrun
  · intro hmade
    simp [start] at hmade
  · intro turns turn middle next hmiddle h hstep
    have hsound := (isSound_start settings world).run hmiddle
    rcases of_step hstep with ⟨tasks, htake, htasks, -⟩
    rw [htasks, Tasks.foldl_note_eq_noteAll]
    exact (move_of_step hsound hstep).equipped hsound htake h

/-! ## Requests of a turn -/

/-- The asset other than the wildcard that is given its first sink in a turn while the gateway is
connected. -/
def firstSink (s : System World) : Turn → List Asset
  | .item _ (.subscribe asset _ _) =>
      if s.gateway.state = .connected ∧ asset ≠ .any ∧
          s.gateway.subscriptions.sinksOn asset = [] then [asset]
      else []
  | _ => []

/-- The assets whose market data is to be asked for in a turn: all with a sink on the entry into a
session, and otherwise one that is given its first sink. -/
def feeds (s : System World) (turn : Turn) (next : System World) : List Asset :=
  if s.gateway.state ≠ .connected ∧ next.gateway.state = .connected then
    s.gateway.subscriptions.assets
  else s.firstSink turn

/-- What else a gateway says in a turn: its login, and its goodbye. -/
def courtesy (s : System World) : Turn → List String
  | .item _ (.transport generation .opened) =>
      if s.gateway.running = true ∧ generation = s.gateway.life.generation then
        Command.handshake s.gateway.settings.dialect s.gateway.settings.credentials.login
          s.gateway.settings.credentials.password s.gateway.settings.clientVersion
      else []
  | .item _ (.close _) => s.gateway.goodbye
  | .item _ .shutdown => s.gateway.goodbye
  | _ => []

/-- The turns in which a gateway takes up an item. -/
def Turn.isItem : Turn → Bool
  | .item _ _ => true
  | _ => false

/-- A gateway comes to be connected exactly by an attempt that ends with an open session. -/
theorem entering_iff {s next : System World} {turn : Turn} (hsound : s.IsSound)
    (hstep : s.step? link turn = some next) :
    s.gateway.state ≠ .connected ∧ next.gateway.state = .connected ↔
      s.gateway.state = .connecting ∧ s.ending? turn = some (.ok ()) := by
  constructor
  · rintro ⟨hbefore, hconnected⟩
    exact ending_of_connected hsound hstep hbefore hconnected
  · rintro ⟨hstate, hending⟩
    refine ⟨by simp [hstate], ?_⟩
    have hconnecting : s.cleared.countFrame.outline.core.life.state = .connecting := hstate
    have houtline := outline_onSessionOpen link hconnecting
    rw [← gateway_of_ending_ok hsound hstep hstate hending] at houtline
    exact congrArg (fun o => o.core.life.state) houtline

/-- An asset other than the wildcard is given its first sink where it had none. -/
theorem firstForAsset_iff (subs : Subscriptions) (asset : Asset) (sink : SinkId)
    (declared : List Capability) :
    (subs.subscribe asset sink declared).1.firstForAsset = true ↔
      asset ≠ .any ∧ subs.sinksOn asset = [] := by
  have hwildcard : asset.isAny = false ↔ asset ≠ .any := by cases asset <;> simp [Asset.isAny]
  by_cases hmem : sink ∈ subs.sinksOn asset
  · have hne : subs.sinksOn asset ≠ [] := List.ne_nil_of_mem hmem
    simp [Subscriptions.subscribe, hmem, hne]
  · simp [Subscriptions.subscribe, hmem, hwildcard, and_comm]

/-- In a turn that opens no session only the first sink of an asset is to be asked for. -/
theorem feeds_of_not_ok {s next : System World} {turn : Turn} (hsound : s.IsSound)
    (hstep : s.step? link turn = some next) (hending : s.ending? turn ≠ some (.ok ())) :
    s.feeds turn next = s.firstSink turn := by
  unfold feeds
  rw [if_neg]
  rw [entering_iff hsound hstep]
  exact fun h => hending h.2

/-- On the entry into a session all assets with a sink are to be asked for. -/
theorem feeds_of_ok {s next : System World} {turn : Turn} (hsound : s.IsSound)
    (hstep : s.step? link turn = some next) (hstate : s.gateway.state = .connecting)
    (hending : s.ending? turn = some (.ok ())) :
    s.feeds turn next = s.gateway.subscriptions.assets := by
  unfold feeds
  rw [if_pos]
  exact (entering_iff hsound hstep).mpr ⟨hstate, hending⟩

/-- What a gateway says on a frame are the requests that are due on the entry into a session. -/
theorem utterance_of_frame {s next : System World} {time : Reading} {generation : Nat}
    {bytes : List UInt8} (hsound : s.IsSound)
    (hstep : s.step? link (.item time (.transport generation (.frame bytes))) = some next) :
    s.cleared.utterance (.transport generation (.frame bytes)) =
      (s.feeds (.item time (.transport generation (.frame bytes))) next).flatMap
        (feedFrames s.gateway.settings) := by
  by_cases hcurrent : generation = s.gateway.life.generation
  · subst hcurrent
    have hcore : s.cleared.outline.core = s.core := rfl
    have hlife : s.cleared.life = s.gateway.life := rfl
    simp only [utterance, hcore, hlife, if_pos]
    have hending : s.ending? (.item time (.transport s.gateway.life.generation (.frame bytes))) =
        s.core.conclusion? (.transport s.core.life.generation (.frame bytes)) := rfl
    cases hverdict : s.core.verdict? bytes with
    | none =>
        rw [feeds_of_not_ok hsound hstep (by rw [hending]; simp [Core.conclusion?, hverdict])]
        rfl
    | some verdict =>
        cases verdict with
        | proceed =>
            rw [feeds_of_not_ok hsound hstep (by rw [hending]; simp [Core.conclusion?, hverdict])]
            rfl
        | enter =>
            have hstate := (hsound.standing.of_stage (stage_of_verdict? hverdict)).1
            rw [feeds_of_ok hsound hstep hstate (by rw [hending]; simp [Core.conclusion?, hverdict])]
            rfl
        | refuse error =>
            rw [feeds_of_not_ok hsound hstep (by rw [hending]; simp [Core.conclusion?, hverdict])]
            rfl
  · have hother : generation ≠ s.core.life.generation := hcurrent
    have hcleared : generation ≠ s.cleared.life.generation := hcurrent
    rw [feeds_of_not_ok hsound hstep (by simp [ending?, Core.conclusion?, hother])]
    simp [utterance, firstSink, hcleared]

/-- What a gateway says when it takes up an item is its login or goodbye, and the requests for
market data that are due. -/
theorem utterance_eq {s next : System World} {time : Reading} {item : Item} (hsound : s.IsSound)
    (hrunning : s.gateway.running = true)
    (hstep : s.step? link (.item time item) = some next) :
    s.cleared.utterance item = s.courtesy (.item time item) ++
      (s.feeds (.item time item) next).flatMap (feedFrames s.gateway.settings) := by
  cases item with
  | subscribe asset sink declared =>
      have hstate : s.cleared.state = s.gateway.state := rfl
      have hsubscriptions : s.cleared.subscriptions = s.gateway.subscriptions := rfl
      rw [feeds_of_not_ok hsound hstep (by simp [ending?, Core.conclusion?])]
      simp only [utterance, courtesy, firstSink, hstate, hsubscriptions, firstForAsset_iff,
        List.nil_append]
      by_cases hfirst : s.gateway.state = .connected ∧ asset ≠ .any ∧
          s.gateway.subscriptions.sinksOn asset = []
      · rw [if_pos ⟨hfirst.2, hfirst.1⟩, if_pos hfirst, List.flatMap_singleton]
        rfl
      · rw [if_neg fun h => hfirst ⟨h.2, h.1⟩, if_neg hfirst]
        rfl
  | transport generation event =>
      cases event with
      | opened =>
          rw [feeds_of_not_ok hsound hstep (by simp [ending?, Core.conclusion?])]
          simp only [courtesy, firstSink, hrunning, true_and, List.flatMap_nil, List.append_nil]
          rfl
      | frame bytes => exact utterance_of_frame hsound hstep
      | closed reason =>
          rw [feeds_of_not_ok hsound hstep (by
            simp only [ending?, Core.conclusion?]
            split <;> simp)]
          rfl
      | _ =>
          rw [feeds_of_not_ok hsound hstep (by simp [ending?, Core.conclusion?])]
          rfl
  | connectFailed generation error =>
      rw [feeds_of_not_ok hsound hstep (by
        simp only [ending?, Core.conclusion?]
        split <;> simp)]
      rfl
  | close caller =>
      rw [feeds_of_not_ok hsound hstep (by simp [ending?, Core.conclusion?])]
      exact (List.append_nil _).symm
  | shutdown =>
      rw [feeds_of_not_ok hsound hstep (by simp [ending?, Core.conclusion?])]
      exact (List.append_nil _).symm
  | _ =>
      rw [feeds_of_not_ok hsound hstep (by simp [ending?, Core.conclusion?])]
      rfl

/-- A gateway that stopped takes up nothing. -/
theorem gateway_of_stopped {s next : System World} {time : Reading} {item : Item}
    (hstopped : s.gateway.running = false) (hstep : s.step? link (.item time item) = some next) :
    next.gateway = s.cleared := by
  rw [gateway_of_item hstep]
  unfold Gateway.step
  rw [if_neg (by simp [hstopped])]
  rfl

/-- In a turn in which it takes up an item a gateway says its login or goodbye, and asks for the
market data that is due. -/
theorem texts_of_step {s next : System World} {time : Reading} {item : Item} (hsound : s.IsSound)
    (hstep : s.step? link (.item time item) = some next)
    (hunfailing : Unfailing next.gateway.journal) :
    next.gateway.speech.texts = written s.gateway.writer (s.courtesy (.item time item) ++
      (s.feeds (.item time item) next).flatMap (feedFrames s.gateway.settings)) := by
  have hidle : s.gateway.state = .disconnected → s.gateway.stage = .idle := fun hstate =>
    (hsound.standing.of_disconnected hstate).1
  cases hrunning : s.gateway.running with
  | true =>
      have hhandle : next.gateway = s.cleared.handle link time item := by
        rw [gateway_of_item hstep]
        exact if_pos hrunning
      rcases utters_handle link s.cleared time item hidle with ⟨effects, hspeech, hspoken⟩
      rw [← hhandle] at hspeech
      have htexts : next.gateway.speech.texts = effects := congrArg Speech.texts hspeech
      have hsome : Unfailing effects := fun effect hmem =>
        hunfailing effect (List.mem_filter.mp (htexts ▸ hmem)).1
      rw [htexts, hspoken hsome, utterance_eq hsound hrunning hstep]
      rfl
  | false =>
      have hstate := (hsound.standing.of_stopped hrunning).1
      have hgateway := gateway_of_stopped hrunning hstep
      have hrest : s.gateway.stage = .idle := hidle hstate
      have hgoodbye : s.gateway.goodbye = [] := by simp [goodbye, hrest]
      have hcourtesy : s.courtesy (.item time item) = [] := by
        unfold courtesy
        split <;> simp_all
      have hfeeds : s.feeds (.item time item) next = [] := by
        have hclosed : s.gateway.state ≠ .connected := by
          have hcore : s.gateway.state = .disconnected := hstate
          simp [hcore]
        have hnext : next.gateway.state ≠ .connected := by
          rw [hgateway]
          exact hclosed
        unfold feeds firstSink
        rw [if_neg fun h => hnext h.2]
        split
        · exact if_neg fun h => hclosed h.1
        · rfl
      rw [hgateway, hcourtesy, hfeeds]
      exact (written_nil _).symm

/-! ## Who is subscribed -/

/-- The call that a turn makes to the subscriptions. -/
def call? (s : System World) : Turn → Option Call
  | .item _ item => if s.gateway.running then item.call? else none
  | _ => none

/-- A turn changes who is subscribed by the call that it makes. -/
theorem subscriptions_of_step {s next : System World} {turn : Turn} (hsound : s.IsSound)
    (hstep : s.step? link turn = some next) :
    next.gateway.subscriptions =
      (s.call? turn).elim s.gateway.subscriptions s.gateway.subscriptions.call := by
  have hwrites : ∀ {g : Gateway World} {pending : Transaction.Pending},
      Writes { s.cleared with pending := pending } g →
        g.subscriptions = s.gateway.subscriptions := by
    rintro g pending ⟨_, _, rfl, _⟩
    rfl
  cases turn with
  | item time item =>
      cases hrunning : s.gateway.running with
      | true =>
          have hhandle : next.gateway = s.cleared.handle link time item := by
            rw [gateway_of_item hstep]
            exact if_pos hrunning
          have hidle : s.cleared.state = .disconnected → s.cleared.stage = .idle := fun hstate =>
            (hsound.standing.of_disconnected hstate).1
          rcases utters_handle link s.cleared time item hidle with ⟨effects, hspeech, -⟩
          rw [hhandle]
          simp only [call?, hrunning, if_true]
          exact congrArg Speech.subscriptions hspeech
      | false =>
          rw [gateway_of_stopped hrunning hstep]
          simp [call?, hrunning, cleared]
  | submit issuer intent =>
      cases hstep
      rfl
  | advance time number =>
      rcases Option.map_eq_some_iff.mp hstep with ⟨submission, hsubmission, rfl⟩
      exact hwrites (submission.writes_step link time s.cleared)
  | raw text =>
      cases hstep
      exact hwrites (writes_sendRaw link s.cleared text)

/-- Along every run the tables of subscriptions reflect a history of calls. -/
theorem reflects_of_run {settings : Settings} {world : World} {turns : List Turn}
    {s : System World} (hrun : (start settings world).run? link turns = some s) :
    ∃ history, Reflects history s.gateway.subscriptions := by
  refine run_induction (motive := fun _ s => ∃ history, Reflects history s.gateway.subscriptions)
    ⟨[], Subscriptions.reflects_nil⟩ ?_ hrun
  rintro turns turn middle next hmiddle ⟨history, h⟩ hstep
  rw [subscriptions_of_step ((isSound_start settings world).run hmiddle) hstep]
  cases middle.call? turn with
  | none => exact ⟨history, h⟩
  | some call => exact ⟨_, h.call call⟩

/-- The assets to be asked for on an entry are those other than the wildcard that have a sink. -/
theorem mem_assets_iff {history : List Call} {subs : Subscriptions} (h : Reflects history subs)
    (asset : Asset) : asset ∈ subs.assets ↔ asset ≠ .any ∧ subs.sinksOn asset ≠ [] := by
  rw [h.assets.mem_iff, ne_eq (subs.sinksOn asset), h.sinksOn_eq_nil_iff, not_forall_not]
  rfl

/-- An asset that has a sink after a call had one before, or the call gave it its first. -/
theorem sinksOn_of_call {history : List Call} {subs : Subscriptions} (h : Reflects history subs)
    {call : Call} {asset : Asset} (hnext : (subs.call call).sinksOn asset ≠ []) :
    subs.sinksOn asset ≠ [] ∨ ∃ sink declared, call = .subscribe asset sink declared := by
  rw [ne_eq, (h.call call).sinksOn_eq_nil_iff, not_forall_not] at hnext
  rcases hnext with ⟨sink, hholds⟩
  rcases (Subscriptions.holds_concat asset sink history call).mp hholds with
    ⟨declared, rfl⟩ | ⟨-, hbefore⟩
  · exact .inr ⟨sink, declared, rfl⟩
  · refine .inl fun hnil => ?_
    exact (h.sinksOn_eq_nil_iff asset).mp hnil sink hbefore

/-- An asset has a sink once somebody has subscribed to it. -/
theorem sinksOn_call_subscribe {history : List Call} {subs : Subscriptions}
    (h : Reflects history subs) (asset : Asset) (sink : SinkId) (declared : List Capability) :
    (subs.call (.subscribe asset sink declared)).sinksOn asset ≠ [] := by
  rw [ne_eq, (h.call _).sinksOn_eq_nil_iff, not_forall_not]
  exact ⟨sink, by simp⟩

end TerminalGateway.System
