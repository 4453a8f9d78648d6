import TerminalGateway.Proofs.System.Feeds
import TerminalGateway.Proofs.System.Isolation

/-!
# Coverage

In every session that is open each asset with a sink has been asked for, with the writer of the
session, and none is asked for again unless it lost its last sink in between.

Main definitions:

- `System.Serves`: a session from its entry on, with the assets to be asked for in it.
- `System.spoken`: what a gateway says of its own accord along a run.

Main results:

- Theorem `System.Serves.covers`: every asset with a sink is among those to be asked for.
- Theorem `System.Serves.spoken`: what is said in a session are the requests for these.
- Theorem `System.lost_of_mem_feeds`: an asset that is asked for again was left by its last sink.
- Theorem `System.feeds_of_run`: what is asked for along a run.
-/

namespace TerminalGateway.System

open TerminalGateway.Gateway
open TerminalGateway.Subscriptions (Call Reflects)

variable {World : Type} {link : Link World}

/-! ## Sessions that are open -/

/-- A session is left with a new number, or goes on with the same writer. -/
theorem Move.of_connected {c : Core} {turn : Turn} {o : Outline} {tasks after : Tasks}
    (hmove : Move c turn o) (hsound : Sound c tasks) (htake : tasks.take? turn = some after)
    (hstate : c.life.state = .connected) :
    (c.life.generation < o.core.life.generation ∧ o.core.life.state ≠ .connected) ∨
      (o.core.life = c.life ∧ o.core.writer = c.writer) := by
  have hstanding := hsound.standing
  cases hmove with
  | stay hquiet => exact .inr ⟨rfl, rfl⟩
  | present hrunning hopen => exact .inr ⟨rfl, rfl⟩
  | connect hrunning hrest => simp [hstate] at hrest
  | reconnect hrunning hrest => simp [hstate] at hrest
  | ready hrunning => simp [((Tasks.of_pass? htake).1 ▸ hstanding).of_connecting.1] at hstate
  | opened hrunning => exact .inr ⟨rfl, rfl⟩
  | proceed hrunning hverdict => exact .inr ⟨rfl, rfl⟩
  | enter hrunning hconnecting hverdict => simp [hstate] at hconnecting
  | refuse hrunning hconnecting hverdict => simp [hstate] at hconnecting
  | idle hrunning hends hrest => simp [hstate] at hrest
  | close hrunning hends hopen => exact .inl ⟨Nat.lt_succ_self _, by simp [Core.ended]⟩
  | fail hrunning hconnecting hafter => simp [hstate] at hconnecting
  | lose hrunning hitem hopen hafter =>
      exact .inl ⟨generation_le_of_aftermath hafter, (answers_of_aftermath hafter rfl).2.2.2⟩

/-- A session is left with a new number, or goes on with the same writer. -/
theorem connected_of_step {s next : System World} {turn : Turn} (hsound : s.IsSound)
    (hstep : s.step? link turn = some next) (hstate : s.gateway.state = .connected) :
    (s.gateway.life.generation < next.gateway.life.generation ∧
        next.gateway.state ≠ .connected) ∨
      (next.gateway.life = s.gateway.life ∧ next.gateway.writer = s.gateway.writer) := by
  rcases of_step hstep with ⟨tasks, htake, -, -⟩
  exact (move_of_step hsound hstep).of_connected hsound htake hstate

theorem generation_le_of_run {s last : System World} {turns : List Turn} (hsound : s.IsSound)
    (hrun : s.run? link turns = some last) :
    s.gateway.life.generation ≤ last.gateway.life.generation := by
  refine run_induction
    (motive := fun _ last => s.gateway.life.generation ≤ last.gateway.life.generation)
    (Nat.le_refl _) ?_ hrun
  intro turns turn middle next hmiddle hle hstep
  exact hle.trans (move_of_step (hsound.run hmiddle) hstep).generation_le

/-- A session that is open stays open as long as its number is the current one. -/
theorem connected_of_run {s last : System World} {turns : List Turn} (hsound : s.IsSound)
    (hrun : s.run? link turns = some last) (hstate : s.gateway.state = .connected)
    (hgeneration : last.gateway.life.generation = s.gateway.life.generation) :
    last.gateway.state = .connected := by
  induction turns generalizing s with
  | nil =>
      cases hrun
      exact hstate
  | cons turn rest ih =>
      rcases Option.bind_eq_some_iff.mp hrun with ⟨next, hstep, hrest⟩
      have hnext := hsound.step hstep
      have hle := generation_le_of_run hnext hrest
      rcases connected_of_step hsound hstep hstate with ⟨hlt, -⟩ | ⟨hlife, -⟩
      · omega
      · refine ih hnext hrest ?_ ?_
        · exact (congrArg Connection.Lifecycle.state hlife).trans hstate
        · exact hgeneration.trans (congrArg Connection.Lifecycle.generation hlife).symm

/-- The entry into a session keeps its number, its writer and who is subscribed. -/
theorem kept_of_entry {s next : System World} {turn : Turn} (hsound : s.IsSound)
    (hstep : s.step? link turn = some next) (hclosed : s.gateway.state ≠ .connected)
    (hopen : next.gateway.state = .connected) :
    next.gateway.life.generation = s.gateway.life.generation ∧
      next.gateway.writer = s.gateway.writer ∧
      next.gateway.subscriptions = s.gateway.subscriptions ∧ s.courtesy turn = [] ∧
      turn.isItem = true := by
  rcases ending_of_connected hsound hstep hclosed hopen with ⟨hstate, hending⟩
  have hconnecting : s.cleared.countFrame.outline.core.life.state = .connecting := hstate
  have houtline := outline_onSessionOpen link hconnecting
  rw [← gateway_of_ending_ok hsound hstep hstate hending] at houtline
  cases turn with
  | item time item =>
      rcases of_conclusion?_ok hending with ⟨bytes, rfl, hverdict⟩
      refine ⟨congrArg (fun o => o.core.life.generation) houtline,
        congrArg (fun o => o.core.writer) houtline, ?_, rfl, rfl⟩
      rw [subscriptions_of_step hsound hstep]
      simp [call?, Item.call?]
  | _ => simp [ending?] at hending

/-- While a session is open, a gateway neither logs in nor says goodbye. -/
theorem courtesy_of_open {s next : System World} {turn : Turn} (hsound : s.IsSound)
    (hstep : s.step? link turn = some next) (hbefore : s.gateway.state = .connected)
    (hopen : next.gateway.state = .connected) : s.courtesy turn = [] := by
  rcases of_step hstep with ⟨tasks, htake, -, -⟩
  have hmove := move_of_step hsound hstep
  -- A gateway that was asked for an end is not connected.
  have hends : ∀ {time item running}, turn = .item time item → item.ends? = some running →
      next.gateway.state ≠ .connected := by
    rintro time item running rfl hends hconnected
    have hrest : next.gateway.state = .disconnected := (hmove.of_ends hsound htake hends).1
    simp [hrest] at hconnected
  unfold courtesy
  split
  · rename_i time generation
    refine if_neg ?_
    rintro ⟨-, rfl⟩
    have hready := (Tasks.of_pass? htake).1
    have hconnecting := ((hready ▸ hsound.standing : Standing s.core .ready _)).of_ready.1
    exact absurd (hbefore.symm.trans hconnecting) (by simp)
  · exact absurd hopen (hends rfl rfl)
  · exact absurd hopen (hends rfl rfl)
  · rfl

/-- A session from its entry on, as long as it is open, with the assets that are to be asked for
in it: first all that have a sink, and then those that are given their first sink. -/
inductive Serves (link : Link World) (first : System World) :
    List Turn → System World → List Asset → Prop where
  | entry {turn opened} (hclosed : first.gateway.state ≠ .connected)
      (hstep : first.step? link turn = some opened) (hopen : opened.gateway.state = .connected) :
      Serves link first [turn] opened first.gateway.subscriptions.assets
  | goesOn {turns s assets turn next} (h : Serves link first turns s assets)
      (hstep : s.step? link turn = some next) (hopen : next.gateway.state = .connected)
      (hsame : next.gateway.life.generation = s.gateway.life.generation) :
      Serves link first (turns ++ [turn]) next (assets ++ s.firstSink turn)

/-- What a gateway says of its own accord in a turn. -/
def ownTexts (turn : Turn) (next : System World) : List Effect :=
  if turn.isItem then next.gateway.speech.texts else []

/-- What a gateway says of its own accord along a run. -/
def spoken (link : Link World) : System World → List Turn → List Effect
  | _, [] => []
  | s, turn :: rest =>
      ((s.step? link turn).map fun next => ownTexts turn next ++ spoken link next rest).getD []

theorem spoken_concat {s middle next : System World} {turns : List Turn} {turn : Turn}
    (hrun : s.run? link turns = some middle) (hstep : middle.step? link turn = some next) :
    s.spoken link (turns ++ [turn]) = s.spoken link turns ++ ownTexts turn next := by
  induction turns generalizing s with
  | nil =>
      obtain rfl : s = middle := Option.some.inj hrun
      simp [spoken, hstep]
  | cons first rest ih =>
      rcases Option.bind_eq_some_iff.mp hrun with ⟨later, hfirst, hrest⟩
      simp [spoken, hfirst, ih hrest]

/-- What was done along a run stays in the log. -/
theorem log_of_run {s last : System World} {turns : List Turn}
    (hrun : s.run? link turns = some last) : ∃ more, last.log = s.log ++ more := by
  refine run_induction (motive := fun _ last => ∃ more, last.log = s.log ++ more)
    ⟨[], (List.append_nil _).symm⟩ ?_ hrun
  rintro turns turn middle next hmiddle ⟨more, hmore⟩ hstep
  rcases of_step hstep with ⟨-, -, -, hlog⟩
  exact ⟨more ++ next.gateway.journal, by rw [hlog, hmore, List.append_assoc]⟩

namespace Serves

variable {first s : System World} {turns : List Turn} {assets : List Asset}

theorem run (h : Serves link first turns s assets) : first.run? link turns = some s := by
  induction h with
  | entry hclosed hstep hopen => simpa [run?] using hstep
  | goesOn h hstep hopen hsame ih => exact run?_concat_of_eq ih hstep

theorem connected (h : Serves link first turns s assets) : s.gateway.state = .connected := by
  cases h with
  | entry hclosed hstep hopen => exact hopen
  | goesOn h hstep hopen hsame => exact hopen

/-- A session keeps its number, its writer and the settings. -/
theorem kept (h : Serves link first turns s assets) (hsound : first.IsSound) :
    s.gateway.life.generation = first.gateway.life.generation ∧
      s.gateway.writer = first.gateway.writer ∧ s.gateway.settings = first.gateway.settings := by
  induction h with
  | entry hclosed hstep hopen =>
      rcases kept_of_entry hsound hstep hclosed hopen with ⟨hgeneration, hwriter, -⟩
      exact ⟨hgeneration, hwriter, (move_of_step hsound hstep).settings⟩
  | goesOn h hstep hopen hsame ih =>
      have hmiddle := hsound.run h.run
      refine ⟨hsame.trans ih.1, ?_, (move_of_step hmiddle hstep).settings.trans ih.2.2⟩
      rcases connected_of_step hmiddle hstep h.connected with ⟨-, hleft⟩ | ⟨-, hwriter⟩
      · exact absurd hopen hleft
      · exact hwriter.trans ih.2.1

/-- In a session that is open every asset other than the wildcard that has a sink is among those
to be asked for. -/
theorem covers {history : List Call} (h : Serves link first turns s assets)
    (hsound : first.IsSound) (hreflects : Reflects history first.gateway.subscriptions) :
    (∃ later, Reflects later s.gateway.subscriptions) ∧
      ∀ asset, asset ≠ .any → s.gateway.subscriptions.sinksOn asset ≠ [] → asset ∈ assets := by
  induction h with
  | entry hclosed hstep hopen =>
      rcases kept_of_entry hsound hstep hclosed hopen with ⟨-, -, hsame, -⟩
      rw [hsame]
      exact ⟨⟨history, hreflects⟩, fun asset hany hsinks =>
        (mem_assets_iff hreflects asset).mpr ⟨hany, hsinks⟩⟩
  | @goesOn turns s assets turn next h hstep hopen hsame ih =>
      rcases ih with ⟨⟨later, hlater⟩, hcovered⟩
      have hnext := subscriptions_of_step (hsound.run h.run) hstep
      cases hcall : s.call? turn with
      | none =>
          rw [hnext, hcall]
          exact ⟨⟨later, hlater⟩, fun asset hany hsinks =>
            List.mem_append_left _ (hcovered asset hany hsinks)⟩
      | some call =>
          rw [hnext, hcall]
          refine ⟨⟨_, hlater.call call⟩, fun asset hany hsinks => ?_⟩
          by_cases hbefore : s.gateway.subscriptions.sinksOn asset = []
          · rcases sinksOn_of_call hlater hsinks with hold | ⟨sink, declared, rfl⟩
            · exact absurd hbefore hold
            · refine List.mem_append_right _ ?_
              cases turn with
              | item time item =>
                  have hitem : item = .subscribe asset sink declared := by
                    cases item <;> simp_all [call?, Item.call?]
                  subst hitem
                  simp [firstSink, h.connected, hany, hbefore]
              | _ => simp [call?] at hcall
          · exact List.mem_append_left _ (hcovered asset hany hbefore)

/-- If all texts are written, what a gateway says of its own accord in a session that is open are
the requests for the assets in order, each once. -/
theorem spoken (h : Serves link first turns s assets) (hsound : first.IsSound)
    (hunfailing : Unfailing s.log) :
    first.spoken link turns = written first.gateway.writer
      (assets.flatMap (feedFrames first.gateway.settings)) := by
  induction h with
  | @entry turn opened hclosed hstep hopen =>
      rcases kept_of_entry hsound hstep hclosed hopen with ⟨-, -, -, hcourtesy, hitem⟩
      have hfeeds : first.feeds turn opened = first.gateway.subscriptions.assets :=
        if_pos ⟨hclosed, hopen⟩
      rcases of_step hstep with ⟨-, -, -, hlog⟩
      rw [hlog, unfailing_append] at hunfailing
      cases turn with
      | item time item =>
          have htexts := texts_of_step hsound hstep hunfailing.2
          rw [hcourtesy, hfeeds, List.nil_append] at htexts
          simp [System.spoken, hstep, ownTexts, hitem, htexts]
      | _ => simp [Turn.isItem] at hitem
  | @goesOn turns s assets turn next h hstep hopen hsame ih =>
      have hmiddle := hsound.run h.run
      rcases of_step hstep with ⟨-, -, -, hlog⟩
      rw [hlog, unfailing_append] at hunfailing
      have hlast : ownTexts turn next = written s.gateway.writer
          ((s.firstSink turn).flatMap (feedFrames s.gateway.settings)) := by
        cases turn with
        | item time item =>
            have htexts := texts_of_step hmiddle hstep hunfailing.2
            have hfeeds : s.feeds (.item time item) next = s.firstSink (.item time item) :=
              if_neg fun hentry => hentry.1 h.connected
            rw [courtesy_of_open hmiddle hstep h.connected hopen, hfeeds,
              List.nil_append] at htexts
            exact htexts
        | _ => exact (written_nil _).symm
      rcases h.kept hsound with ⟨-, hwriter, hsettings⟩
      rw [spoken_concat h.run hstep, ih hunfailing.1, hlast, hwriter, hsettings,
        List.flatMap_append, written_append]

end Serves

/-- A connected gateway serves a session that it has entered. -/
theorem serves_of_run {settings : Settings} {world : World} {turns : List Turn}
    {s : System World} (hrun : (start settings world).run? link turns = some s)
    (hstate : s.gateway.state = .connected) :
    ∃ early late first assets, turns = early ++ late ∧
      (start settings world).run? link early = some first ∧ Serves link first late s assets := by
  suffices h : s.gateway.state = .connected → ∃ early late first assets, turns = early ++ late ∧
      (start settings world).run? link early = some first ∧ Serves link first late s assets from
    h hstate
  refine run_induction (motive := fun turns s => s.gateway.state = .connected →
    ∃ early late first assets, turns = early ++ late ∧
      (start settings world).run? link early = some first ∧ Serves link first late s assets)
    (fun hconnected => absurd hconnected (by simp [start, Gateway.start, Gateway.state])) ?_ hrun
  intro turns turn middle next hmiddle ih hstep hopen
  have hsound := (isSound_start settings world).run hmiddle
  by_cases hbefore : middle.gateway.state = .connected
  · rcases ih hbefore with ⟨early, late, first, assets, rfl, hfirst, h⟩
    refine ⟨early, late ++ [turn], first, assets ++ middle.firstSink turn, by simp, hfirst,
      h.goesOn hstep hopen ?_⟩
    rcases connected_of_step hsound hstep hbefore with ⟨-, hleft⟩ | ⟨hlife, -⟩
    · exact absurd hopen hleft
    · exact congrArg Connection.Lifecycle.generation hlife
  · exact ⟨turns, [turn], middle, _, rfl, hmiddle, .entry hbefore hstep hopen⟩

/-! ## Nothing is asked for twice -/

/-- What is asked for in a turn has a sink after it, and the gateway is connected then. -/
theorem of_mem_feeds {history : List Call} {s next : System World} {turn : Turn} {asset : Asset}
    (hsound : s.IsSound) (hreflects : Reflects history s.gateway.subscriptions)
    (hstep : s.step? link turn = some next) (hmem : asset ∈ s.feeds turn next) :
    next.gateway.state = .connected ∧ next.gateway.subscriptions.sinksOn asset ≠ [] := by
  unfold feeds at hmem
  split at hmem <;> rename_i hentry
  · rcases kept_of_entry hsound hstep hentry.1 hentry.2 with ⟨-, -, hsame, -⟩
    rw [hsame]
    exact ⟨hentry.2, ((mem_assets_iff hreflects asset).mp hmem).2⟩
  · unfold firstSink at hmem
    split at hmem
    · split at hmem <;> rename_i time other sink declared hfirst
      · obtain rfl : asset = other := List.mem_singleton.mp hmem
        rcases hfirst with ⟨hstate, hany, hnone⟩
        have hrunning : s.gateway.running = true := by
          by_contra hstopped
          have hrest := (hsound.standing.of_stopped (Bool.eq_false_iff.mpr hstopped)).1
          exact absurd (hstate.symm.trans hrest) (by simp)
        have houtline : next.gateway.outline = ⟨s.core, []⟩ := by
          rw [gateway_of_item hstep]
          unfold Gateway.step
          rw [if_pos hrunning]
          exact outline_onSubscribe link s.cleared asset sink declared
        have hnext := subscriptions_of_step hsound hstep
        simp only [call?, hrunning, if_true, Item.call?, Option.elim_some] at hnext
        rw [hnext]
        exact ⟨(congrArg (fun o => o.core.life.state) houtline).trans hstate,
          sinksOn_call_subscribe hreflects asset sink declared⟩
      · simp at hmem
    · simp at hmem

/-- No asset is to be asked for twice in one turn. -/
theorem nodup_feeds {history : List Call} {s : System World}
    (hreflects : Reflects history s.gateway.subscriptions) (turn : Turn) (next : System World) :
    (s.feeds turn next).Nodup := by
  unfold feeds
  split
  · exact hreflects.assets.nodup
  · unfold firstSink
    split
    · split <;> simp
    · exact .nil

/-- What is to be asked for in a session that is open has no sink. -/
theorem sinksOn_of_mem_feeds {s next : System World} {turn : Turn} {asset : Asset}
    (hstate : s.gateway.state = .connected) (hmem : asset ∈ s.feeds turn next) :
    s.gateway.subscriptions.sinksOn asset = [] := by
  unfold feeds at hmem
  rw [if_neg fun h => h.1 hstate] at hmem
  unfold firstSink at hmem
  split at hmem
  · split at hmem <;> rename_i hfirst
    · obtain rfl := List.mem_singleton.mp hmem
      exact hfirst.2.2
    · simp at hmem
  · simp at hmem

/-- An asset that is to be asked for again in a session has lost its last sink in between. -/
theorem lost_of_mem_feeds {history : List Call} {first opened s next : System World}
    {turn later : Turn} {between : List Turn} {asset : Asset} (hsound : first.IsSound)
    (hreflects : Reflects history first.gateway.subscriptions)
    (hfirst : first.step? link turn = some opened) (hmem : asset ∈ first.feeds turn opened)
    (hbetween : opened.run? link between = some s) (hstep : s.step? link later = some next)
    (hsame : next.gateway.life.generation = opened.gateway.life.generation)
    (hagain : asset ∈ s.feeds later next) :
    opened.gateway.subscriptions.sinksOn asset ≠ [] ∧
      s.gateway.subscriptions.sinksOn asset = [] := by
  have hopened := hsound.step hfirst
  have hs := hopened.run hbetween
  rcases of_mem_feeds hsound hreflects hfirst hmem with ⟨hconnected, hheld⟩
  have hlower := generation_le_of_run hopened hbetween
  have hupper := (move_of_step hs hstep).generation_le
  have hgeneration : s.gateway.life.generation = opened.gateway.life.generation := by
    have hle : s.gateway.life.generation ≤ next.gateway.life.generation := hupper
    omega
  have hstate := connected_of_run hopened hbetween hconnected hgeneration
  exact ⟨hheld, sinksOn_of_mem_feeds hstate hagain⟩

/-- On the entry into a session everything is said before the connection is open. -/
theorem journal_of_entry {s next : System World} {turn : Turn} (hsound : s.IsSound)
    (hstep : s.step? link turn = some next) (hclosed : s.gateway.state ≠ .connected)
    (hopen : next.gateway.state = .connected) :
    ∃ earlier later, next.gateway.journal =
        earlier ++ .triggered .replayDone (some .connected) :: later ∧
      next.gateway.speech.texts = earlier.filter Effect.isText := by
  rcases ending_of_connected hsound hstep hclosed hopen with ⟨hstate, hending⟩
  rcases journal_of_ending_ok hsound hstep hstate hending with
    ⟨earlier, later, hjournal, -, hlater⟩
  refine ⟨earlier, later, hjournal, ?_⟩
  have hnone : later.filter Effect.isText = [] := by simpa using hlater
  simp [speech, hjournal, hnone, Effect.isText]

/-- If all texts of a run are written, so are those of each of its turns. -/
theorem unfailing_of_run {origin first next s : System World} {before after turns : List Turn}
    {turn : Turn} (hturns : turns = before ++ turn :: after)
    (hrun : origin.run? link turns = some s) (hfirst : origin.run? link before = some first)
    (hstep : first.step? link turn = some next) (hunfailing : Unfailing s.log) :
    Unfailing next.gateway.journal := by
  have hafter : next.run? link after = some s := by
    rw [hturns, run?_append, hfirst] at hrun
    simpa [run?, hstep] using hrun
  rcases log_of_run hafter with ⟨more, hmore⟩
  rcases of_step hstep with ⟨-, -, -, hlog⟩
  rw [hmore, hlog, unfailing_append, unfailing_append] at hunfailing
  exact hunfailing.1.2

/-- A connected gateway has a writer. -/
theorem writer_of_connected {settings : Settings} {world : World} {turns : List Turn}
    {s : System World} (hrun : (start settings world).run? link turns = some s)
    (hstate : s.gateway.state = .connected) : s.gateway.writer ≠ none := by
  have hcore : s.core.life.state = .connected := hstate
  have hreading := ((isSound_start settings world).run hrun).standing.reading_of_connected hcore
  exact equipped_of_run hrun (.inr hreading)

/-- If all texts are written, then in each turn in which it takes up an item a gateway says its
login or goodbye, or asks for the market data of assets: on the entry into a session, before it
is connected, of all that have a sink, in their order; and while it is connected of one that is
given its first sink.  In a session that is open this has asked, with the writer of the session,
for every asset with a sink, and no asset is asked for twice unless it lost its last sink in
between. -/
theorem feeds_of_run {settings : Settings} {world : World} {turns : List Turn} {s : System World}
    (hrun : (start settings world).run? link turns = some s) (hunfailing : Unfailing s.log) :
    (∀ before time item after first next, turns = before ++ .item time item :: after →
      (start settings world).run? link before = some first →
      first.step? link (.item time item) = some next →
      next.gateway.speech.texts = written first.gateway.writer
          (first.courtesy (.item time item) ++
            (first.feeds (.item time item) next).flatMap (feedFrames settings)) ∧
        (first.gateway.state ≠ .connected → next.gateway.state = .connected →
          ∃ earlier later, next.gateway.journal =
              earlier ++ .triggered .replayDone (some .connected) :: later ∧
            next.gateway.speech.texts = earlier.filter Effect.isText)) ∧
    (s.gateway.state = .connected →
      ∃ early late first assets writer, turns = early ++ late ∧
        (start settings world).run? link early = some first ∧ Serves link first late s assets ∧
        s.gateway.life.generation = first.gateway.life.generation ∧
        s.gateway.writer = some writer ∧
        first.spoken link late = written (some writer) (assets.flatMap (feedFrames settings)) ∧
        ∀ asset, asset ≠ .any → s.gateway.subscriptions.sinksOn asset ≠ [] →
          asset ∈ assets ∧ feedFrames settings asset ≠ []) ∧
    (∀ before turn between later after first opened last next,
      turns = before ++ turn :: (between ++ later :: after) →
      (start settings world).run? link before = some first →
      first.step? link turn = some opened → opened.run? link between = some last →
      last.step? link later = some next →
      next.gateway.life.generation = opened.gateway.life.generation →
      (first.feeds turn opened).Nodup ∧
        ∀ asset, asset ∈ first.feeds turn opened → asset ∈ last.feeds later next →
          opened.gateway.subscriptions.sinksOn asset ≠ [] ∧
            last.gateway.subscriptions.sinksOn asset = []) := by
  have hstart := isSound_start settings world
  refine ⟨?_, ?_, ?_⟩
  · intro before time item after first next hturns hfirst hstep
    have hsound := hstart.run hfirst
    have hnext : Unfailing next.gateway.journal := by
      refine unfailing_of_run hturns hrun hfirst hstep hunfailing
    have hsettings : first.gateway.settings = settings := (onItsWay_of_run hfirst).settings
    refine ⟨?_, journal_of_entry hsound hstep⟩
    rw [← hsettings]
    exact texts_of_step hsound hstep hnext
  · intro hstate
    rcases serves_of_run hrun hstate with ⟨early, late, first, assets, rfl, hfirst, h⟩
    have hsound := hstart.run hfirst
    rcases reflects_of_run hfirst with ⟨history, hreflects⟩
    rcases h.kept hsound with ⟨hgeneration, hwriter, -⟩
    have hspoken := h.spoken hsound hunfailing
    have hsettings : first.gateway.settings = settings := (onItsWay_of_run hfirst).settings
    rcases Option.ne_none_iff_exists'.mp (writer_of_connected hrun hstate) with ⟨writer, hw⟩
    rw [← hwriter, hw, hsettings] at hspoken
    refine ⟨early, late, first, assets, writer, rfl, hfirst, h, hgeneration, hw, hspoken, ?_⟩
    intro asset hany hsinks
    exact ⟨(h.covers hsound hreflects).2 asset hany hsinks,
      (feedRequest_of_ne_any settings hany).2⟩
  · intro before turn between later after first opened last next hturns hfirst hopened hlast
      hnext hsame
    rcases reflects_of_run hfirst with ⟨history, hreflects⟩
    refine ⟨nodup_feeds hreflects turn opened, fun asset hmem hagain => ?_⟩
    exact lost_of_mem_feeds (hstart.run hfirst) hreflects hopened hmem hlast hnext hsame hagain

/-! ## Two shares -/

/-- A share. -/
def share (code : String) : Asset :=
  .instrument "QJSIM" code

/-- A sink subscribes to one share before the bridge is connected, and to another one after it. -/
def twoShares : List Turn :=
  .item midnight (.subscribe (share "SBER") 0 []) ::
    (bridgeLogin ++ [.item midnight (.subscribe (share "GAZP") 0 [])])

/-- Both shares are asked for in the session. -/
theorem feeds_of_run_twoShares :
    ∃ s early late first assets writer, (start bridgeSettings ()).run? openLink twoShares = some s ∧
      twoShares = early ++ late ∧
      (start bridgeSettings ()).run? openLink early = some first ∧
      Serves openLink first late s assets ∧
      first.spoken openLink late =
        written (some writer) (assets.flatMap (feedFrames bridgeSettings)) ∧
      share "SBER" ∈ assets ∧ share "GAZP" ∈ assets := by
  have hfacts : ((start bridgeSettings ()).run? openLink twoShares).map (fun s =>
      (s.gateway.state, decide (Unfailing s.log),
        s.gateway.subscriptions.sinksOn (share "SBER"),
        s.gateway.subscriptions.sinksOn (share "GAZP"))) =
      some (.connected, true, [0], [0]) := by decide +kernel
  rcases Option.map_eq_some_iff.mp hfacts with ⟨s, hrun, hs⟩
  simp only [Prod.mk.injEq, decide_eq_true_eq] at hs
  rcases hs with ⟨hstate, hunfailing, hfirst, hsecond⟩
  rcases (feeds_of_run hrun hunfailing).2.1 hstate with
    ⟨early, late, first, assets, writer, hturns, hearly, hserves, -, -, hspoken, hcovered⟩
  refine ⟨s, early, late, first, assets, writer, hrun, hturns, hearly, hserves, hspoken, ?_, ?_⟩
  · exact (hcovered _ (by simp [share]) (by simp [hfirst])).1
  · exact (hcovered _ (by simp [share]) (by simp [hsecond])).1

end TerminalGateway.System
