import TerminalGateway.Proofs.System.Speech
import TerminalGateway.Proofs.Transaction.Outcome

/-!
# Transactions that were not sent

A transaction goes out in one text, or on the bridge in two: the order, and the request for its
result.  When a text cannot be written the transaction is taken back, and the pending transactions
are as they were.  What was written before that text stays written, and on the bridge that may be
the order itself.

Main definitions:

- `Gateway.post`: writing texts up to the first that fails.
- `Gateway.arrived`: the texts of a log that were written.
- `Gateway.entered`: a gateway with one more pending transaction.

Main results:

- Theorem `Submission.steps_writing`, `Gateway.submit_of_frames`: a submission posts its texts.
- Theorem `Gateway.journal_post_of_error`: what was written when a text failed.
- Theorem `System.remains_of_refused`: all that is left of a transaction that was not sent.
-/

namespace TerminalGateway

namespace Gateway

variable {World : Type}

/-! ## Texts up to the first that fails -/

/-- Writes texts one by one; tells why the first that failed did. -/
def post (link : Link World) (g : Gateway World) :
    List String → Except SendError Unit × Gateway World
  | [] => (.ok (), g)
  | text :: rest =>
      match g.send link text with
      | (.ok _, g) => g.post link rest
      | (.error error, g) => (.error error, g)

/-- The texts that were written. -/
def arrived (log : List Effect) : List String :=
  log.filterMap fun
    | .wrote _ text (.ok _) => some text
    | _ => none

theorem writes_post (link : Link World) (g : Gateway World) (texts : List String) :
    Writes g (g.post link texts).2 := by
  induction texts generalizing g with
  | nil => exact .refl g
  | cons text rest ih =>
      have hsend := writes_send link g text
      unfold post
      split <;> rename_i next heq <;> rw [heq] at hsend
      · exact hsend.trans (ih next)
      · exact hsend

/-- Where there is no writer nothing is written. -/
theorem post_of_no_writer (link : Link World) {g : Gateway World} (hwriter : g.writer = none)
    (text : String) (rest : List String) :
    g.post link (text :: rest) = (.error .notConnected, g) := by
  simp only [post, send, hwriter]

/-- All texts before the one that failed were written, and none after it. -/
theorem journal_post_of_error (link : Link World) {g next : Gateway World} {w : Nat}
    (hwriter : g.writer = some w) {texts : List String} {error : SendError}
    (hpost : g.post link texts = (.error error, next)) :
    ∃ before text after, texts = before ++ text :: after ∧
      next.journal = g.journal ++ written (some w) before ++ [.wrote w text (.error error)] := by
  induction texts generalizing g with
  | nil => cases hpost
  | cons text rest ih =>
      rcases hsent : link.send g.world w text with ⟨result, world⟩
      simp only [post, send_of_writer link hwriter, hsent] at hpost
      cases result with
      | ok _ =>
          rcases ih (g := { g with world := world }.record (.wrote w text (.ok ()))) hwriter hpost
            with ⟨before, failed, after, rfl, hjournal⟩
          refine ⟨text :: before, failed, after, rfl, hjournal.trans ?_⟩
          simp [record, written]
      | error reason =>
          cases hpost
          exact ⟨[], text, rest, rfl, by simp [record, written]⟩

end Gateway

namespace Submission

open Gateway

variable {World : Type}

/-! ## A submission to its end -/

/-- A submission that is over takes no more steps. -/
theorem steps_of_over (link : Link World) (time : Reading) (n : Nat) {submission : Submission}
    (hover : ∀ g : Gateway World, submission.step link time g = (submission, g))
    (g : Gateway World) : steps link time n submission g = (submission, g) := by
  induction n with
  | zero => rfl
  | succ n ih =>
      unfold steps
      rw [hover]
      exact ih

/-- A submission posts its texts, and takes its transaction back when one of them fails. -/
theorem steps_writing (link : Link World) (time : Reading) (id : Nat) {n : Nat}
    {frames : List String} (hn : frames.length + 1 ≤ n) (g : Gateway World) :
    steps link time n (.writing id frames) g =
      match g.post link frames with
      | (.ok _, g) => (.sent id, g)
      | (.error error, g) =>
          (.refused error, { g with pending := (g.pending.deregister id).2 }) := by
  induction frames generalizing n g with
  | nil =>
      obtain ⟨n, rfl⟩ := Nat.exists_eq_add_of_le' hn
      exact steps_of_over link time n (fun _ => rfl) g
  | cons frame frames ih =>
      -- Two steps are left where a text fails: to take the transaction back and to tell the caller.
      obtain ⟨n, rfl⟩ : ∃ m, n = m + 2 := Nat.exists_eq_add_of_le' (by simp at hn; omega)
      rw [List.length_cons] at hn
      rcases hsent : g.send link frame with ⟨result, next⟩
      cases result with
      | ok _ =>
          have hstep : steps link time (n + 2) (.writing id (frame :: frames)) g =
              steps link time (n + 1) (.writing id frames) next := by
            simp only [steps, step, hsent]
          simp only [post, hsent]
          exact hstep.trans (ih (by omega) next)
      | error error =>
          simp only [steps, step, post, hsent]
          exact steps_of_over link time n (fun _ => rfl) _

end Submission

namespace Gateway

open TerminalGateway.Transaction (Pending)

variable {World : Type} {g : Gateway World}

/-- The gateway with one more pending transaction, under the next number. -/
def entered (g : Gateway World) (time : Reading) (issuer : Nat) (intent : Intent) :
    Gateway World :=
  { g with
    pending := (g.pending.takeId.2.register ⟨g.pending.nextId, intent, time.now, issuer⟩).2 }

/-- Nothing is submitted while a gateway is not connected. -/
theorem submit_of_not_connected (link : Link World) (time : Reading) (issuer : Nat)
    (intent : Intent) (hstate : g.state ≠ .connected) :
    g.submit link time issuer intent = (.error .notConnected, g) := by
  have hsteps : Submission.steps link time Submission.stepCount (.waiting issuer intent) g =
      (.refused .notConnected, g) := by
    simp only [Submission.stepCount, Submission.steps, Submission.step, if_neg hstate]
  unfold submit
  rw [hsteps]

/-- A transaction that no text can carry spends its number and nothing else. -/
theorem submit_of_unmade (link : Link World) (time : Reading) (issuer : Nat) {intent : Intent}
    {error : SendError} (hstate : g.state = .connected)
    (hframes : Command.transaction g.settings.dialect g.pending.nextId g.settings.account intent =
      .error error) :
    g.submit link time issuer intent = (.error error, { g with pending := g.pending.takeId.2 }) := by
  have hsteps : Submission.steps link time Submission.stepCount (.waiting issuer intent) g =
      (.refused error, { g with pending := g.pending.takeId.2 }) := by
    simp only [Submission.stepCount, Submission.steps, Submission.step, if_pos hstate,
      Pending.takeId, hframes]
  unfold submit
  rw [hsteps]

/-- A transaction is made pending, its texts are posted, and it is taken back when one fails. -/
theorem submit_of_frames (link : Link World) (time : Reading) (issuer : Nat) {intent : Intent}
    {frames : List String} (hstate : g.state = .connected)
    (hframes : Command.transaction g.settings.dialect g.pending.nextId g.settings.account intent =
      .ok frames) :
    g.submit link time issuer intent =
      match (g.entered time issuer intent).post link frames with
      | (.ok _, g') => (.ok g.pending.nextId, g')
      | (.error error, g') =>
          (.error error, { g' with pending := (g'.pending.deregister g.pending.nextId).2 }) := by
  have hlength : frames.length ≤ 2 := by
    rcases Submission.frames_of_transaction hframes with ⟨order, rfl⟩ | ⟨order, request, -, rfl⟩
    · exact Nat.le_succ 1
    · exact Nat.le_refl 2
  have hsteps : Submission.steps link time Submission.stepCount (.waiting issuer intent) g =
      Submission.steps link time 3 (.writing g.pending.nextId frames)
        (g.entered time issuer intent) := by
    have hcount : Submission.stepCount = 3 + 3 := rfl
    rw [hcount]
    simp only [Submission.steps, Submission.step, if_pos hstate, Pending.takeId, hframes]
    rfl
  unfold submit
  rw [hsteps, Submission.steps_writing link time _ (by omega)]
  rcases (g.entered time issuer intent).post link frames with ⟨result, next⟩
  cases result <;> rfl

end Gateway

namespace Transaction.Pending

/-- A transaction that is made pending and taken back leaves the others as they were. -/
theorem without_register {pending : Pending} {entry : Entry}
    (hfresh : pending.find? entry.transactionId = none) :
    ((pending.register entry).2.without entry.transactionId).entries = pending.entries := by
  have hothers : (pending.without entry.transactionId).entries = pending.entries :=
    List.filter_eq_self.mpr fun other hother =>
      decide_eq_true (find?_eq_none.mp hfresh other hother)
  have hregister : (pending.register entry).2.entries = pending.entries ++ [entry] :=
    congrArg (· ++ [entry]) hothers
  have hwithout : ((pending.register entry).2.without entry.transactionId).entries =
      (pending.without entry.transactionId).entries ++
        [entry].filter fun other => other.transactionId ≠ entry.transactionId := by
    rw [without, hregister, List.filter_append]
    rfl
  rw [hwithout, hothers]
  simp

end Transaction.Pending

namespace System

open TerminalGateway.Gateway

variable {World : Type} {link : Link World}

/-! ## What remains -/

/-- What remains of a transaction that was not sent. -/
inductive Remains (g next : Gateway World) (intent : Intent) (error : SendError) : Prop
  /-- No text was written. -/
  | nothing (harrived : arrived next.journal = [])
  /-- The bridge got the order, and only the request for its result failed. -/
  | order (w : Nat) (order request : String) (hdialect : g.settings.dialect = .bridge)
      (hframes : Command.bridgeTransaction g.pending.nextId g.settings.account intent =
        .ok [order, request])
      (hjournal : next.journal = [.wrote w order (.ok ()), .wrote w request (.error error)])

/-- Texts that carry a transaction, one of which failed, leave nothing but perhaps the order. -/
theorem remains_of_post {g next : Gateway World} {intent : Intent} {frames : List String}
    {error : SendError} (time : Reading) (issuer : Nat) (hjournal : g.journal = [])
    (hframes : Command.transaction g.settings.dialect g.pending.nextId g.settings.account intent =
      .ok frames)
    (hpost : (g.entered time issuer intent).post link frames = (.error error, next)) :
    Remains g next intent error := by
  have hentered : (g.entered time issuer intent).journal = [] := hjournal
  have hshape := Submission.frames_of_transaction hframes
  cases hwriter : g.writer with
  | none =>
      refine .nothing ?_
      have hnothing : ∀ text rest, frames = text :: rest → next = g.entered time issuer intent := by
        rintro text rest rfl
        rw [post_of_no_writer link (g := g.entered time issuer intent) hwriter] at hpost
        cases hpost
        rfl
      have hnext : next = g.entered time issuer intent := by
        rcases hshape with ⟨order, hone⟩ | ⟨order, request, -, htwo⟩
        · exact hnothing _ _ hone
        · exact hnothing _ _ htwo
      rw [hnext, hentered]
      rfl
  | some w =>
      rcases journal_post_of_error link (g := g.entered time issuer intent) hwriter hpost with
        ⟨before, text, after, hsplit, hlog⟩
      rw [hentered, List.nil_append] at hlog
      cases before with
      | nil =>
          refine .nothing ?_
          rw [hlog]
          rfl
      | cons first others =>
          -- Only the bridge has a text before another, and then it is the order.
          rcases hshape with ⟨order, hone⟩ | ⟨order, request, hdialect, htwo⟩
          · simp [hone] at hsplit
          · have hpair : first = order ∧ others = [] ∧ text = request := by
              rw [htwo] at hsplit
              cases others <;> simp_all
            rcases hpair with ⟨rfl, rfl, rfl⟩
            rw [hdialect, htwo] at hframes
            exact .order w first text hdialect hframes hlog

/-- All that is left of a transaction that was not sent: the pending transactions are as they were,
and no text was written, unless the bridge got the order and only the request for its result
failed. -/
theorem remains_of_refused {settings : Settings} {world : World} {turns : List Turn}
    {s : System World} (hrun : (start settings world).run? link turns = some s) {time : Reading}
    {issuer : Nat} {intent : Intent} {error : SendError} {next : Gateway World}
    (hsubmit : s.cleared.submit link time issuer intent = (.error error, next)) :
    next.pending.entries = s.gateway.pending.entries ∧ Remains s.cleared next intent error := by
  by_cases hstate : s.cleared.state = .connected
  · cases hframes : Command.transaction s.cleared.settings.dialect s.cleared.pending.nextId
        s.cleared.settings.account intent with
    | error reason =>
        rw [submit_of_unmade link time issuer hstate hframes] at hsubmit
        cases hsubmit
        exact ⟨rfl, .nothing rfl⟩
    | ok frames =>
        rw [submit_of_frames link time issuer hstate hframes] at hsubmit
        rcases hpost : (s.cleared.entered time issuer intent).post link frames with ⟨result, after⟩
        have hpending : after.pending = (s.cleared.entered time issuer intent).pending := by
          have hwrites := writes_post link (s.cleared.entered time issuer intent) frames
          rw [hpost] at hwrites
          rcases hwrites with ⟨_, _, hafter, -⟩
          rw [show after = _ from hafter]
        rw [hpost] at hsubmit
        cases result with
        | ok _ => cases hsubmit
        | error reason =>
            cases hsubmit
            have hfresh : s.gateway.pending.takeId.2.find? s.gateway.pending.nextId = none :=
              ((ledger_of_run hrun).later _ (Nat.le_refl _)).pending
            refine ⟨?_, ?_⟩
            · dsimp only
              rw [hpending]
              exact Transaction.Pending.without_register hfresh
            · cases remains_of_post time issuer rfl hframes hpost with
              | nothing harrived => exact .nothing harrived
              | order w order request hdialect hframes hjournal =>
                  exact .order w order request hdialect hframes hjournal
  · rw [submit_of_not_connected link time issuer intent hstate] at hsubmit
    cases hsubmit
    exact ⟨rfl, .nothing rfl⟩

/-! ## An order without its request -/

/-- A link that is cut after two texts. -/
def briefLink : Link Nat where
  send count _ _ :=
    if count < 2 then (.ok (), count + 1) else (.error (.io "connection reset"), count)
  ping count _ := (.ok .awaitPong, count)
  close count _ := count

/-- The order that the bridge is asked to place. -/
def orderText : String :=
  Command.call "order_1" "sendTransaction"
    ["ACTION=NEW_ORDER\nACCOUNT=\nCLIENT_CODE=\nTRANS_ID=1\nCLASSCODE=TQBR\nSECCODE=SBER\n" ++
      "TYPE=M\nOPERATION=B\nPRICE=0\nQUANTITY=0"]

/-- The link is cut between the order and the request for its result. -/
theorem remains_of_refused_cutLink :
    ∃ s error next, (start bridgeSettings 0).run? briefLink bridgeLogin = some s ∧
      s.cleared.submit briefLink midnight 5 shareOrder.intent = (.error error, next) ∧
      next.pending.entries = s.gateway.pending.entries ∧
      Remains s.cleared next shareOrder.intent error := by
  have hwhole : (((start bridgeSettings 0).run? briefLink bridgeLogin).map fun s =>
      (s.cleared.submit briefLink midnight 5 shareOrder.intent).1) =
      some (.error (.io "connection reset")) := by decide +kernel
  rcases Option.map_eq_some_iff.mp hwhole with ⟨s, hrun, hrefused⟩
  have hsubmit : s.cleared.submit briefLink midnight 5 shareOrder.intent =
      (.error (.io "connection reset"),
        (s.cleared.submit briefLink midnight 5 shareOrder.intent).2) :=
    Prod.ext hrefused rfl
  exact ⟨s, _, _, hrun, hsubmit, remains_of_refused hrun hsubmit⟩

/-- A caller may be told that an order was not sent although the bridge got it. -/
theorem arrived_though_refused :
    ∃ s error next, (start bridgeSettings 0).run? briefLink bridgeLogin = some s ∧
      s.cleared.submit briefLink midnight 5 shareOrder.intent = (.error error, next) ∧
      arrived next.journal = [orderText] := by
  have hwhole : (((start bridgeSettings 0).run? briefLink bridgeLogin).map fun s =>
      let (result, next) := s.cleared.submit briefLink midnight 5 shareOrder.intent
      (result, arrived next.journal)) =
      some (.error (.io "connection reset"), [orderText]) := by decide +kernel
  rcases Option.map_eq_some_iff.mp hwhole with ⟨s, hrun, hpair⟩
  rcases Prod.mk.inj hpair with ⟨hrefused, harrived⟩
  exact ⟨s, _, _, hrun, Prod.ext hrefused rfl, harrived⟩

end System

end TerminalGateway
