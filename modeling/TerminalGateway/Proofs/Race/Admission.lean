import TerminalGateway.Proofs.Race.Phases

/-!
# The sessions that orders go to

A submission looks at the state of the connection once, before it takes its number, and then writes
its texts with whatever writer the gateway has.  As long as the session of that time goes on, it is
logged in and its trade session is open.  But nothing holds the session: when it ends in between
and another one is begun, the texts go to the new session, logged in or not.

Main definitions:

- `Gateway.Tenure`: a session that is still open, or is over.
- `Race.LetIn`: a submission that looked at the state in the course of a run and was let in.

Main results:

- Theorem `Race.letIn_of_run`: every submission under way was let in by an open session, which is
  open still or is over.
- Theorem `Race.destination_of_order`: an order is written to the current session, which is open if
  it is the one that let the order in.
- Theorem `Race.order_before_login`: an order is written to a session that has not logged in.
-/

namespace TerminalGateway

namespace Gateway

variable {World : Type}

/-! ## The tenure of a session -/

/-- The session of this number is open, or a later one has taken its place.  It may be about to be
closed. -/
structure Tenure (generation : Nat) (c : Core) : Prop where
  le : generation ≤ c.life.generation
  serves : c.life.generation = generation →
    c.stage = .established ∧ (c.life.state = .connected ∨ c.life.state = .disconnecting)

variable {generation : Nat} {c next : Core}

/-- A session that is over stays so. -/
theorem tenure_of_lt (hlt : generation < c.life.generation) : Tenure generation c where
  le := Nat.le_of_lt hlt
  serves hsame := by omega

/-- A session in any other state than an open one is a later one. -/
theorem Tenure.lt (h : Tenure generation c)
    (hstate : c.life.state ≠ .connected ∧ c.life.state ≠ .disconnecting) :
    generation < c.life.generation := by
  have hle := h.le
  have hne : c.life.generation ≠ generation := by
    intro hsame
    rcases (h.serves hsame).2 with hconnected | hdisconnecting
    · exact hstate.1 hconnected
    · exact hstate.2 hdisconnecting
  omega

@[simp] theorem generation_apply (life : Connection.Lifecycle) (trigger : Connection.Trigger) :
    (life.apply trigger).2.generation = life.generation := by
  unfold Connection.Lifecycle.apply
  split <;> rfl

/-- No job undoes the tenure of a session. -/
theorem Tenure.outlook (h : Tenure generation c) {job : Job} (hsuits : Suits c job) :
    Tenure generation (job.outlook ⟨c, []⟩).core := by
  have hle := h.le
  cases job with
  | retire trigger =>
      refine tenure_of_lt ?_
      simp only [Job.outlook, Outline.trigger, generation_apply,
        Connection.Lifecycle.nextGeneration]
      omega
  | answerOrRetry error =>
      have hlt := h.lt (by simp [hsuits.2])
      have hcore : ((Job.answerOrRetry error).outlook ⟨c, []⟩).core =
          (Outline.answerOrRetry ⟨c, []⟩ error).core := rfl
      rw [hcore]
      rcases answerOrRetry_cases hsuits.2 error with ⟨attempts, caller, hsame⟩ | ⟨attempts, hopened⟩
      · rw [hsame]
        exact tenure_of_lt hlt
      · rw [hopened]
        exact tenure_of_lt (Nat.lt_succ_of_lt hlt)
  | enter =>
      have hlife : ((Job.enter).outlook ⟨c, []⟩).core.life = (c.life.apply .replayDone).2 := rfl
      have hstage : ((Job.enter).outlook ⟨c, []⟩).core.stage = c.stage := rfl
      refine ⟨?_, ?_⟩ <;> rw [hlife, generation_apply]
      · exact hle
      · intro hsame
        rcases h.serves hsame with ⟨hestablished, hconnected | hdisconnecting⟩
        · refine ⟨hestablished, .inl ?_⟩
          simp [Connection.Lifecycle.apply, Connection.next?, hconnected]
        · refine ⟨hestablished, .inr ?_⟩
          simp [Connection.Lifecycle.apply, Connection.next?, hdisconnecting]
  | _ => exact ⟨h.le, h.serves⟩

/-- No item undoes the tenure of a session. -/
theorem Tenure.taken (h : Tenure generation c) {item : Item} {jobs : List Job}
    (htaken : Taken c item next jobs) : Tenure generation next := by
  have hle := h.le
  cases htaken with
  | stay hidle => exact h
  | idle hstate hwriter hlast => exact tenure_of_lt (Nat.lt_succ_of_le hle)
  | close caller hstate hlast => exact ⟨hle, fun hsame => ⟨(h.serves hsame).1, .inr rfl⟩⟩
  | begin caller hstate hwriter => exact tenure_of_lt (Nat.lt_succ_of_le hle)
  | ready hidle => exact ⟨h.le, h.serves⟩
  | fail hstate hwriter => exact tenure_of_lt (h.lt (by simp [hstate]))
  | greet stage hstate hidle => exact tenure_of_lt (h.lt (by simp [hstate]))
  | enter hstate hidle => exact tenure_of_lt (h.lt (by simp [hstate]))
  | lose hstate => exact ⟨h.le, h.serves⟩

end Gateway

namespace Submission

/-- A submission that was let in and has not ended. -/
def isUnderWay : Submission → Bool
  | .admitted _ _ => true
  | .numbered _ _ _ _ => true
  | .writing _ _ => true
  | _ => false

open TerminalGateway.Gateway

variable {World : Type} {link : Link World} {time : Reading} {g : Gateway World}
  {submission : Submission}

/-- A submission under way was under way before its step, or is let in by it. -/
theorem isUnderWay_of_step (h : (submission.step link time g).1.isUnderWay = true) :
    submission.isUnderWay = true ∨
      (∃ issuer intent, submission = .waiting issuer intent) ∧ g.state = .connected := by
  cases submission with
  | waiting issuer intent =>
      simp only [step] at h
      split at h <;> rename_i hstate
      · exact .inr ⟨⟨issuer, intent, rfl⟩, hstate⟩
      · cases h
  | admitted issuer intent => exact .inl rfl
  | numbered issuer intent id frames => exact .inl rfl
  | writing id frames => exact .inl rfl
  | failing id error => cases h
  | refused error => cases h
  | sent id => cases h

/-- Only a submission under way writes, with the writer of the gateway. -/
theorem of_wrote {writer : Nat} {text : String} {result : Except SendError Unit}
    (hcleared : g.journal = [])
    (h : .wrote writer text result ∈ (submission.step link time g).2.journal) :
    submission.isUnderWay = true ∧ g.writer = some writer := by
  cases submission with
  | writing id frames =>
      refine ⟨rfl, ?_⟩
      cases frames with
      | nil => simp [step, hcleared] at h
      | cons frame frames =>
          cases hwriter : g.writer with
          | none => simp [step, send, hwriter, hcleared] at h
          | some current =>
              rcases hsent : link.send g.world current frame with ⟨outcome, world⟩
              have hsend : g.send link frame =
                  (outcome, { g with world := world }.record (.wrote current frame outcome)) := by
                simp only [send, hwriter, hsent]
              cases outcome <;>
                simp [step, hsend, record, hcleared] at h <;> rw [h.1]
  | waiting issuer intent =>
      simp only [step] at h
      split at h <;> simp [hcleared] at h
  | admitted issuer intent =>
      simp only [step] at h
      split at h <;> simp [hcleared] at h
  | _ => simp [step, hcleared] at h

end Submission

namespace Race

open TerminalGateway.Gateway
open TerminalGateway.System (bridgeSettings midnight openLink shareOrder)

variable {World : Type} {link : Link World} {shards : List (Nat → Bool)}

/-! ## How a submission was let in -/

/-- In the course of a run a submission looked at the state, and was let in by an open session. -/
structure LetIn (link : Link World) (shards : List (Nat → Bool)) (first : Race World)
    (turns : List Turn) (place : Nat) (looked : Race World) : Prop where
  turn : ∃ before time after, turns = before ++ .advance time place :: after ∧
    first.run? link shards before = some looked
  waiting : ∃ issuer intent, looked.system.submissions[place]? = some (.waiting issuer intent)
  connected : looked.system.gateway.state = .connected
  established : looked.system.gateway.stage = .established

theorem LetIn.append {first looked : Race World} {turns : List Turn} {place : Nat}
    (h : LetIn link shards first turns place looked) (later : List Turn) :
    LetIn link shards first (turns ++ later) place looked := by
  rcases h.turn with ⟨before, time, after, rfl, hrun⟩
  exact ⟨⟨before, time, after ++ later, by simp, hrun⟩, h.waiting, h.connected, h.established⟩

/-- A turn does not undo the tenure of a session. -/
theorem tenure_of_step {generation : Nat} {turns : List Turn} {r next : Race World} {turn : Turn}
    (h : Tenure generation r.system.core) (hphased : Phased turns r) (hsound : r.IsSound)
    (hstep : Step link shards r turn next) : Tenure generation next.system.core := by
  cases hstep with
  | @take time item tasks hagenda htasks =>
      exact h.taken (System.taken_take link time (hsound.system hagenda) htasks)
  | @work time job rest hagenda =>
      have hcore : (r.system.leave (r.system.cleared.perform link shards time job).1).core =
          (job.outlook ⟨r.system.core, []⟩).core :=
        core_perform link shards time r.system.cleared job
      have hfits := hphased.fits
      rw [hagenda] at hfits
      cases hfits with
      | cons hsuits hrest =>
          dsimp only
          rw [hcore]
          exact h.outlook hsuits
  | beside haside hstep =>
      dsimp only
      rw [System.core_of_beside hstep (not_item_of_beside? haside)]
      exact h

/-- What was let in by a turn, or was under way before it. -/
theorem underWay_of_step {r next : Race World} {turn : Turn} (hstep : Step link shards r turn next)
    {place : Nat} {submission : Submission}
    (hsubmission : next.system.submissions[place]? = some submission)
    (hway : submission.isUnderWay = true) :
    (∃ before, r.system.submissions[place]? = some before ∧ before.isUnderWay = true) ∨
      ((∃ time, turn = .advance time place) ∧ r.system.gateway.state = .connected ∧
        ∃ issuer intent, r.system.submissions[place]? = some (.waiting issuer intent)) := by
  cases hstep with
  | take hagenda htasks => exact .inl ⟨submission, hsubmission, hway⟩
  | work hagenda => exact .inl ⟨submission, hsubmission, hway⟩
  | @beside turn aside s haside hstep =>
      rcases System.submission_of_step hstep hsubmission with
        ⟨hbefore, -⟩ | ⟨issuer, intent, rfl⟩ | ⟨time, before, rfl, hbefore, rfl⟩
      · exact .inl ⟨submission, hbefore, hway⟩
      · cases hway
      · have hturn : turn = .advance time place := by
          cases turn <;> cases haside
          rfl
        rcases Submission.isUnderWay_of_step hway with hsame | ⟨⟨issuer, intent, rfl⟩, hstate⟩
        · exact .inl ⟨before, hbefore, hsame⟩
        · exact .inr ⟨⟨time, hturn⟩, hstate, issuer, intent, hbefore⟩

/-- Every submission under way was let in by an open session, which is open still or is over. -/
theorem letIn_of_run {settings : Settings} {world : World} {turns : List Turn} {last : Race World}
    (hrun : (start settings world).run? link shards turns = some last) {place : Nat}
    {submission : Submission} (hsubmission : last.system.submissions[place]? = some submission)
    (hway : submission.isUnderWay = true) :
    ∃ looked, LetIn link shards (start settings world) turns place looked ∧
      Tenure looked.system.gateway.life.generation last.system.core := by
  induction turns using List.reverseRecOn generalizing last submission with
  | nil =>
      cases hrun
      simp [start, System.start] at hsubmission
  | append_singleton turns turn ih =>
      rw [run?_append, Option.bind_eq_some_iff] at hrun
      rcases hrun with ⟨middle, hmiddle, hlast⟩
      have hstep : Step link shards middle turn last :=
        step_of_step? (by simpa [run?] using hlast)
      have hphased := phased_of_run hmiddle
      have hsound := (roster_of_run hmiddle).2
      rcases underWay_of_step hstep hsubmission hway with
        ⟨before, hbefore, hsame⟩ | ⟨⟨time, rfl⟩, hstate, hwaiting⟩
      · rcases ih hmiddle hbefore hsame with ⟨looked, hletIn, htenure⟩
        exact ⟨looked, hletIn.append [turn], tenure_of_step htenure hphased hsound hstep⟩
      · have hstage : middle.system.gateway.stage = .established :=
          hphased.steady.stage (.inl hstate)
        have htenure : Tenure middle.system.gateway.life.generation middle.system.core :=
          ⟨Nat.le_refl _, fun _ => ⟨hstage, .inl hstate⟩⟩
        exact ⟨middle, ⟨⟨turns, time, [], rfl, hmiddle⟩, hwaiting, hstate, hstage⟩,
          tenure_of_step htenure hphased hsound hstep⟩

/-! ## Where orders go -/

/-- A text of an order is written with the writer that was handed over for the current session.
The order was let in by an open session.  If that is the current one, it is open still, or is
being closed; otherwise it is over. -/
theorem destination_of_order {settings : Settings} {world : World} {turns : List Turn}
    {last next : Race World} {time : Reading} {place writer : Nat} {text : String}
    {result : Except SendError Unit}
    (hrun : (start settings world).run? link shards turns = some last)
    (hstep : last.step? link shards (.advance time place) = some next)
    (hwrote : .wrote writer text result ∈ next.system.gateway.journal) :
    last.system.gateway.writer = some writer ∧
      Handed turns last.system.gateway.life.generation writer ∧
      ∃ looked, LetIn link shards (start settings world) turns place looked ∧
        looked.system.gateway.life.generation ≤ last.system.gateway.life.generation ∧
        (last.system.gateway.life.generation = looked.system.gateway.life.generation →
          last.system.gateway.stage = .established ∧
            (last.system.gateway.state = .connected ∨
              last.system.gateway.state = .disconnecting)) := by
  rcases Option.map_eq_some_iff.mp hstep with ⟨s, hs, rfl⟩
  rcases Option.map_eq_some_iff.mp hs with ⟨submission, hsubmission, rfl⟩
  rcases Submission.of_wrote (g := last.system.cleared) rfl hwrote with ⟨hway, hwriter⟩
  rcases letIn_of_run hrun hsubmission hway with ⟨looked, hletIn, htenure⟩
  have hhanded := (phased_of_run hrun).steady.writer writer hwriter
  exact ⟨hwriter, hhanded, looked, hletIn, htenure.le, htenure.serves⟩

/-- The text that a connection took, with its writer. -/
def taken? : Effect → Option (Nat × String)
  | .wrote writer text (.ok ()) => some (writer, text)
  | _ => none

theorem wrote_of_mem_taken {journal : List Effect} {writer : Nat} {text : String}
    (h : (writer, text) ∈ journal.filterMap taken?) : .wrote writer text (.ok ()) ∈ journal := by
  rcases List.mem_filterMap.mp h with ⟨effect, hmem, htaken⟩
  unfold taken? at htaken
  split at htaken
  · cases htaken
    exact hmem
  · cases htaken

/-- The first text of the first of two orders with the bridge. -/
def placing : String :=
  "\x7b\"args\":[\"ACTION=NEW_ORDER\\nACCOUNT=\\nCLIENT_CODE=\\nTRANS_ID=1\\n" ++
    "CLASSCODE=TQBR\\nSECCODE=SBER\\nTYPE=M\\nOPERATION=B\\nPRICE=0\\nQUANTITY=0\"]," ++
    "\"id\":\"order_1\",\"method\":\"sendTransaction\"\x7d"

/-- A request for an end is taken up while the first of two orders is under way. -/
def orderWhileClosing : List Turn :=
  twoOrders ++ [.take midnight (.close 9), .advance midnight 0]

/-- The order still goes to the session that let it in, before its writer is taken. -/
theorem destination_of_order_closing :
    ∃ last next, (start bridgeSettings ()).run? openLink halves orderWhileClosing = some last ∧
      last.step? openLink halves (.advance midnight 0) = some next ∧
      .wrote 7 placing (.ok ()) ∈ next.system.gateway.journal ∧
      last.system.gateway.state = .disconnecting ∧
      Handed orderWhileClosing last.system.gateway.life.generation 7 := by
  have hwhole : ((start bridgeSettings ()).run? openLink halves orderWhileClosing).bind
      (fun last => (last.step? openLink halves (.advance midnight 0)).map fun next =>
        (last.system.gateway.state, next.system.gateway.journal.filterMap taken?)) =
      some (.disconnecting, [(7, placing)]) := by decide +kernel
  rcases Option.bind_eq_some_iff.mp hwhole with ⟨last, hrun, hlast⟩
  rcases Option.map_eq_some_iff.mp hlast with ⟨next, hstep, hnext⟩
  rcases Prod.mk.inj hnext with ⟨hstate, hwritten⟩
  have hwrote : .wrote 7 placing (.ok ()) ∈ next.system.gateway.journal :=
    wrote_of_mem_taken (hwritten ▸ List.mem_singleton_self _)
  exact ⟨last, next, hrun, hstep, hwrote, hstate, (destination_of_order hrun hstep hwrote).2.1⟩

/-- While the first of two orders is under way its session is lost, and the connection of another
one is made. -/
def sessionBetween : List Turn :=
  twoOrders ++ [.advance midnight 0, .take midnight (.transport 1 (.closed (.peer "gone")))] ++
    List.replicate 4 (.work midnight) ++ [.take midnight (.sessionReady 3 8)]

/-- The order goes to a session that has not even been greeted. -/
theorem order_before_login :
    ∃ last next, (start bridgeSettings ()).run? openLink halves sessionBetween = some last ∧
      last.step? openLink halves (.advance midnight 0) = some next ∧
      .wrote 8 placing (.ok ()) ∈ next.system.gateway.journal ∧
      last.system.gateway.state = .connecting ∧ last.system.gateway.stage = .transport := by
  have hwhole : ((start bridgeSettings ()).run? openLink halves sessionBetween).bind
      (fun last => (last.step? openLink halves (.advance midnight 0)).map fun next =>
        (last.system.gateway.state, last.system.gateway.stage,
          next.system.gateway.journal.filterMap taken?)) =
      some (.connecting, .transport, [(8, placing)]) := by decide +kernel
  rcases Option.bind_eq_some_iff.mp hwhole with ⟨last, hrun, hlast⟩
  rcases Option.map_eq_some_iff.mp hlast with ⟨next, hstep, hnext⟩
  rcases Prod.mk.inj hnext with ⟨hstate, hrest⟩
  rcases Prod.mk.inj hrest with ⟨hstage, hwritten⟩
  have hwrote : .wrote 8 placing (.ok ()) ∈ next.system.gateway.journal :=
    wrote_of_mem_taken (hwritten ▸ List.mem_singleton_self _)
  exact ⟨last, next, hrun, hstep, hwrote, hstate, hstage⟩

end Race

end TerminalGateway
