import TerminalGateway.Proofs.System.Moves
import TerminalGateway.Proofs.Transaction.Ruling

/-!
# The books of a gateway

The books of a gateway are its pending transactions, its subscriptions, and the verdicts in its
journal: what those who submitted transactions and what sinks learn about their ends.  This module
says what each operation does to the books.  Most do nothing; the others are rulings.

Main definitions:

- `Effect.isVerdict`, `Books`, `books`: verdicts, and the books of a gateway.
- `Books.rule`: the books after a ruling.
- `ruling`: the ruling that a gateway makes when it takes up an item.
- `Submission.registers?`, `Submission.withdraws?`: what a submission is about to make pending or
  to take back.

Main results:

- Theorem `books_onReply`, `books_expire`: replies and searches for overdue transactions.
- Theorem `books_handle`: an item is taken up by its ruling.
- Theorem `Submission.books_step`: a step of a submission brings no verdict.
-/

namespace TerminalGateway.Gateway

open TerminalGateway.Message (Reply)
open TerminalGateway.Transaction (Notice Pending Ruling)

variable {World : Type}

/-- An effect that tells the end of a transaction. -/
def Effect.isVerdict : Effect → Bool
  | .settled _ _ => true
  | .called _ (.reply _) => true
  | _ => false

/-- The part of a gateway that deals with transactions. -/
structure Books where
  pending : Pending
  subscriptions : Subscriptions
  verdicts : List Effect

/-- The books of a gateway. -/
def books (g : Gateway World) : Books where
  pending := g.pending
  subscriptions := g.subscriptions
  verdicts := g.journal.filter Effect.isVerdict

/-- Sinks learn about the end of a transaction. -/
def announce (subscriptions : Subscriptions) (notice : Notice) : List Effect :=
  (subscriptions.publish (.reply notice)).called.map fun sink => .called sink (.reply notice)

/-- What is told when a ruling is made: first those who submitted the transactions that it ends
learn of it, then the sinks.  Sinks also learn of a reply to a transaction that is not pending. -/
def pronounce (subscriptions : Subscriptions) (pending : Pending) (ruling : Ruling) :
    List Effect :=
  (pending.ended ruling).map (fun ended => .settled ended.issuer ended.resolution) ++
    (pending.ended ruling).flatMap (fun ended => announce subscriptions ended.resolution.notice) ++
    (ruling.unknown? pending).toList.flatMap fun id =>
      announce subscriptions ⟨id, .any, .unrecognized⟩

/-- The books after a ruling. -/
def Books.rule (b : Books) (ruling : Ruling) : Books :=
  { b with
    pending := b.pending.left ruling
    verdicts := b.verdicts ++ pronounce b.subscriptions b.pending ruling }

/-! ## Single effects and fields -/

theorem books_record_of_not_isVerdict (g : Gateway World) {effect : Effect}
    (h : effect.isVerdict = false) : (g.record effect).books = g.books := by
  simp [books, record, h]

/-- Sinks learn about the end of a transaction. -/
theorem books_publish_reply (g : Gateway World) (notice : Notice) :
    (g.publish (.reply notice)).books =
      { g.books with verdicts := g.books.verdicts ++ announce g.subscriptions notice } := by
  have hall : (announce g.subscriptions notice).filter Effect.isVerdict =
      announce g.subscriptions notice := by
    refine List.filter_eq_self.mpr fun effect heffect => ?_
    rcases List.mem_map.mp heffect with ⟨sink, -, rfl⟩
    rfl
  simp only [books, publish, List.filter_append]
  congr 2

/-- Handing out any other event leaves the books as they are. -/
theorem books_publish_of_ne_reply (g : Gateway World) {event : Event}
    (h : ∀ notice, event ≠ .reply notice) : (g.publish event).books = g.books := by
  have hnone : ((g.subscriptions.publish event).called.map
      fun sink => Effect.called sink event).filter Effect.isVerdict = [] := by
    refine List.filter_eq_nil_iff.mpr fun effect heffect => ?_
    rcases List.mem_map.mp heffect with ⟨sink, -, rfl⟩
    cases event <;> simp [Effect.isVerdict] at h ⊢
  simp only [books, publish, List.filter_append, hnone, List.append_nil]

/-- Sinks learn about the ends of transactions in order. -/
theorem books_publishAll_replies (g : Gateway World) (notices : List Notice) :
    (g.publishAll (notices.map Event.reply)).books =
      { g.books with
        verdicts := g.books.verdicts ++ notices.flatMap (announce g.subscriptions) } := by
  induction notices generalizing g with
  | nil => simp [publishAll]
  | cons notice rest ih =>
      have hrest : g.publishAll ((notice :: rest).map Event.reply) =
          (g.publish (.reply notice)).publishAll (rest.map Event.reply) := rfl
      have hsubscriptions : (g.publish (.reply notice)).subscriptions = g.subscriptions := rfl
      rw [hrest, ih, books_publish_reply, hsubscriptions]
      simp

/-- Handing out other events leaves the books as they are. -/
theorem books_publishAll_of_ne_reply (g : Gateway World) {events : List Event}
    (h : ∀ event ∈ events, ∀ notice, event ≠ .reply notice) :
    (g.publishAll events).books = g.books := by
  induction events generalizing g with
  | nil => rfl
  | cons event rest ih =>
      have hrest := ih (g.publish event) fun later hlater => h later (List.mem_cons_of_mem _ hlater)
      exact hrest.trans (books_publish_of_ne_reply g (h event List.mem_cons_self))

@[simp] theorem books_trigger (g : Gateway World) (trigger : Connection.Trigger) :
    (g.trigger trigger).books = g.books := by
  unfold Gateway.trigger
  rcases g.life.apply trigger with ⟨after, life⟩
  dsimp only
  split
  · exact books_record_of_not_isVerdict _ rfl
  · exact (books_publish_of_ne_reply _ (by simp)).trans (books_record_of_not_isVerdict _ rfl)

@[simp] theorem books_nextGeneration (g : Gateway World) : g.nextGeneration.books = g.books :=
  rfl

@[simp] theorem books_answer (g : Gateway World) (result : Except GatewayError Unit) :
    (g.answer result).books = g.books := by
  unfold answer
  split
  · exact books_record_of_not_isVerdict _ rfl
  · rfl

/-! ## Writing -/

theorem books_of_writes {g next : Gateway World} (h : Writes g next) : next.books = g.books := by
  rcases h with ⟨world, effects, rfl, hwriting⟩
  have hnone : effects.filter Effect.isVerdict = [] := by
    refine List.filter_eq_nil_iff.mpr fun effect heffect => ?_
    have hwritten := hwriting effect heffect
    cases effect <;> simp [Effect.isWriting, Effect.isVerdict] at hwritten ⊢
  simp [books, hnone]

@[simp] theorem books_send (link : Link World) (g : Gateway World) (text : String) :
    (g.send link text).2.books = g.books :=
  books_of_writes (writes_send link g text)

@[simp] theorem books_sendAll (link : Link World) (g : Gateway World) (texts : List String) :
    (g.sendAll link texts).books = g.books :=
  books_of_writes (writes_sendAll link g texts)

@[simp] theorem books_closeLine (link : Link World) (g : Gateway World) (writer : Nat) :
    (g.closeLine link writer).books = g.books :=
  books_of_writes (writes_closeLine link g writer)

@[simp] theorem books_closeWriter (link : Link World) (g : Gateway World) :
    (g.closeWriter link).books = g.books :=
  (books_of_writes (writes_closeWriter link g)).trans rfl

@[simp] theorem books_installWriter (link : Link World) (g : Gateway World) (writer : Nat) :
    (g.installWriter link writer).books = g.books :=
  (books_of_writes (writes_installWriter link g writer)).trans rfl

@[simp] theorem books_requestFeed (link : Link World) (g : Gateway World) (asset : Asset) :
    (g.requestFeed link asset).books = g.books :=
  books_of_writes (writes_requestFeed link g asset)

@[simp] theorem books_replay (link : Link World) (g : Gateway World) :
    (g.replay link).books = g.books :=
  books_of_writes (writes_replay link g)

@[simp] theorem books_sayGoodbye (link : Link World) (g : Gateway World) :
    (g.sayGoodbye link).books = g.books :=
  books_of_writes (writes_sayGoodbye link g)

/-! ## Rulings -/

theorem books_record_of_isVerdict (g : Gateway World) {effect : Effect}
    (h : effect.isVerdict = true) :
    (g.record effect).books = { g.books with verdicts := g.books.verdicts ++ [effect] } := by
  simp [books, record, h]

/-- A search for overdue transactions is a ruling. -/
theorem books_expire (g : Gateway World) (time : Reading) (bound : Nat) :
    (g.expire time bound).books = g.books.rule (.expiry time.now bound) := by
  unfold expire
  rw [Pending.expire_eq]
  dsimp only
  have hnotices : ∀ ended : List Transaction.Completed,
      (ended.map fun e => Event.reply e.resolution.notice) =
        (ended.map fun e => e.resolution.notice).map Event.reply := by simp
  have hsettled : (((g.pending.ended (.expiry time.now bound)).map fun ended =>
      Effect.settled ended.issuer ended.resolution).filter Effect.isVerdict) =
      (g.pending.ended (.expiry time.now bound)).map fun ended =>
        Effect.settled ended.issuer ended.resolution := by
    refine List.filter_eq_self.mpr fun effect heffect => ?_
    rcases List.mem_map.mp heffect with ⟨ended, -, rfl⟩
    rfl
  rw [hnotices, books_publishAll_replies]
  simp [books, Books.rule, pronounce, hsettled, Ruling.unknown?, List.flatMap_map]

theorem books_expireAll (g : Gateway World) (time : Reading) :
    (g.expireAll time).books = g.books.rule (.expiry time.now 0) :=
  books_expire g time 0

/-- A reply is a ruling. -/
theorem books_onReply {g : Gateway World} (htidy : g.pending.IsTidy) (r : Reply) :
    (g.onReply r).books = g.books.rule (.reply r) := by
  rcases htidy.resolve_eq r with ⟨hended, hunknown, hleft⟩
  have hrule : g.books.rule (.reply r) =
      { g.books with
        pending := (g.pending.resolve r).2
        verdicts := g.books.verdicts ++
          ((g.pending.resolve r).1.ended.map
            (fun ended => Effect.settled ended.issuer ended.resolution) ++
          (g.pending.resolve r).1.ended.flatMap
            (fun ended => announce g.subscriptions ended.resolution.notice) ++
          (g.pending.resolve r).1.unknown?.toList.flatMap fun id =>
            announce g.subscriptions ⟨id, .any, .unrecognized⟩) } := by
    rw [hended, hunknown, hleft]
    rfl
  rw [hrule]
  unfold onReply
  rcases g.pending.resolve r with ⟨decision, pending⟩
  cases decision with
  | nothing => simp [books, Transaction.Decision.resolution?, Transaction.Decision.ended,
      Transaction.Decision.unknown?]
  | completed ended =>
      refine (books_publish_reply _ _).trans ?_
      rw [books_record_of_isVerdict _ rfl]
      simp [books, record, Transaction.Decision.ended, Transaction.Decision.unknown?]
  | unrecognized id =>
      refine (books_publish_reply _ _).trans ?_
      simp [books, Transaction.Decision.ended, Transaction.Decision.unknown?,
        Transaction.Resolution.notice]

/-! ## Sessions -/

@[simp] theorem books_stopTicker (g : Gateway World) : g.stopTicker.books = g.books := by
  unfold stopTicker
  split
  · exact books_record_of_not_isVerdict _ rfl
  · rfl

@[simp] theorem books_stopTasks (g : Gateway World) : g.stopTasks.books = g.books := by
  unfold stopTasks
  dsimp only
  split
  · exact (books_record_of_not_isVerdict _ rfl).trans (books_stopTicker g)
  · exact books_stopTicker g

@[simp] theorem books_openSession (g : Gateway World) : g.openSession.books = g.books :=
  (books_record_of_not_isVerdict _ rfl).trans (books_trigger g .connect)

@[simp] theorem books_onSessionOpen (link : Link World) (g : Gateway World) :
    (g.onSessionOpen link).books = g.books := by
  have hreset : ∀ g' : Gateway World,
      { g' with life := g'.life.resetRetries, heartbeat := g'.heartbeat.resetProbes }.books =
        g'.books := fun _ => rfl
  have hticker : ∀ g' : Gateway World, g'.startTicker.books = g'.books :=
    fun _ => books_record_of_not_isVerdict _ rfl
  unfold onSessionOpen
  simp only [books_answer, hticker, books_trigger, books_replay, hreset]
  rfl

@[simp] theorem books_closeSession (link : Link World) (g : Gateway World) :
    (g.closeSession link).books = g.books := by
  have hstage : (g.closeSession link).books =
      (((g.stopTasks).sayGoodbye link).closeWriter link).nextGeneration.books := rfl
  rw [hstage]
  simp

@[simp] theorem books_disconnect (link : Link World) (g : Gateway World) :
    (g.disconnect link).books = g.books := by
  unfold disconnect
  split <;> simp

/-- A refusal ends all transactions. -/
theorem books_onRefused (link : Link World) (g : Gateway World) (time : Reading)
    (error : AuthError) :
    (g.onRefused link time error).books = g.books.rule (.expiry time.now 0) := by
  unfold onRefused
  simp only [books_answer, books_expireAll, books_trigger, books_closeSession]

/-- Nobody waits for a session, and the policy does not allow another attempt. -/
def givesUp (g : Gateway World) : Bool :=
  g.caller.isNone && (g.life.policy.delay? g.life.attempts).isNone

/-- The ruling that is made when a session ended without being asked to. -/
def breakRuling (g : Gateway World) (time : Reading) : Ruling :=
  if g.givesUp then .expiry time.now 0 else .nothing

@[simp] theorem pronounce_nothing (subscriptions : Subscriptions) (pending : Pending) :
    pronounce subscriptions pending .nothing = [] := by
  have hended : pending.ended .nothing = [] := Pending.ended_eq_nil fun _ _ => rfl
  simp [pronounce, hended, Ruling.unknown?]

@[simp] theorem Books.rule_nothing (b : Books) : b.rule .nothing = b := by
  have hleft : b.pending.left .nothing = b.pending := Pending.left_eq_self fun _ _ => rfl
  simp [rule, hleft]

/-- When nobody waits and the policy gives up, all transactions end. -/
theorem books_answerOrRetry (g : Gateway World) (time : Reading) (error : ConnectError) :
    (g.answerOrRetry time error).books = g.books.rule (g.breakRuling time) := by
  have hstays : g.givesUp = false → g.books.rule (g.breakRuling time) = g.books := by
    intro hgoes
    simp [breakRuling, hgoes]
  unfold answerOrRetry
  cases hcaller : g.caller with
  | some caller =>
      rw [hstays (by simp [givesUp, hcaller])]
      exact books_answer g _
  | none =>
      unfold retry Connection.Lifecycle.scheduleRetry
      cases hdelay : g.life.policy.delay? g.life.attempts with
      | none =>
          have hgone : g.breakRuling time = .expiry time.now 0 := by
            simp [breakRuling, givesUp, hcaller, hdelay]
          rw [hgone]
          exact books_expireAll _ time
      | some delay =>
          rw [hstays (by simp [givesUp, hdelay])]
          dsimp only
          split
          · exact books_openSession _
          · exact books_record_of_not_isVerdict _ rfl

/-- The ruling that is made when a connection was lost. -/
def lossRuling (g : Gateway World) (time : Reading) : Ruling :=
  if g.state = .disconnected ∨ g.state = .disconnecting then .nothing else g.breakRuling time

/-- Whether a gateway gives up depends on who waits, on the policy and on the attempts made. -/
theorem breakRuling_congr {g next : Gateway World} (time : Reading)
    (hcaller : next.caller = g.caller) (hpolicy : next.life.policy = g.life.policy)
    (hattempts : next.life.attempts = g.life.attempts) :
    next.breakRuling time = g.breakRuling time := by
  have hgives : next.givesUp = g.givesUp := by
    unfold givesUp
    rw [hcaller, hpolicy, hattempts]
  unfold breakRuling
  rw [hgives]

/-- A trigger does not change whether a gateway gives up. -/
theorem breakRuling_trigger (g : Gateway World) (trigger : Connection.Trigger)
    (time : Reading) : (g.trigger trigger).breakRuling time = g.breakRuling time := by
  have hpolicy : (g.life.apply trigger).2.policy = g.life.policy := by
    unfold Connection.Lifecycle.apply
    split <;> rfl
  have hattempts : (g.life.apply trigger).2.attempts = g.life.attempts := by
    unfold Connection.Lifecycle.apply
    split <;> rfl
  have houtline := outline_trigger g trigger
  have hcaller : (g.trigger trigger).caller = g.caller :=
    congrArg (fun o => o.core.caller) houtline
  have hlife : (g.trigger trigger).life = (g.life.apply trigger).2 :=
    congrArg (fun o => o.core.life) houtline
  exact breakRuling_congr time hcaller (hlife ▸ hpolicy) (hlife ▸ hattempts)

/-- A connection that was not made may end all transactions. -/
theorem books_onConnectFailed (g : Gateway World) (time : Reading) (error : ConnectError) :
    (g.onConnectFailed time error).books = g.books.rule (g.breakRuling time) := by
  have hidle : { g with session := none, stage := .idle }.books = g.books := rfl
  have hruling : { g with session := none, stage := .idle }.breakRuling time =
      g.breakRuling time := rfl
  rw [onConnectFailed, books_answerOrRetry, breakRuling_trigger, books_trigger, hidle, hruling]

/-- A connection that was lost may end all transactions. -/
theorem books_onLost (link : Link World) (g : Gateway World) (time : Reading) :
    (g.onLost link time).books = g.books.rule (g.lossRuling time) := by
  have hidle : ∀ g' : Gateway World, { g' with stage := .idle }.books = g'.books := fun _ => rfl
  have hended : (((g.stopTasks).closeWriter link).nextGeneration).breakRuling time =
      g.breakRuling time := by
    have houtline : (((g.stopTasks).closeWriter link).nextGeneration).outline.core =
        { g.outline.core with
          writer := none
          ticker := none
          session := none
          life := g.outline.core.life.nextGeneration } := by simp
    have hcaller : (((g.stopTasks).closeWriter link).nextGeneration).caller = g.caller :=
      congrArg Core.caller houtline
    have hlife : (((g.stopTasks).closeWriter link).nextGeneration).life = g.life.nextGeneration :=
      congrArg Core.life houtline
    exact breakRuling_congr time hcaller (by rw [hlife]; rfl) (by rw [hlife]; rfl)
  unfold onLost lossRuling
  split
  · simp
  · rw [books_answerOrRetry, breakRuling_trigger, books_trigger, hidle, books_nextGeneration,
      books_closeWriter, books_stopTasks, ← hended]
    rfl

/-! ## Items -/

theorem ne_reply_of_ofMarket {kind : Message.MarketKind} {payload : Json.Value}
    {receivedAt : Calendar.Moment} {events : List Event}
    (h : Event.ofMarket kind payload receivedAt = .ok events) :
    ∀ event ∈ events, ∀ notice, event ≠ .reply notice := by
  cases kind <;> exact forall_of_map (by simp) h

theorem ne_reply_of_ofAccount {kind : Message.AccountKind} {payload : Json.Value}
    {events : List Event} (h : Event.ofAccount kind payload = .ok events) :
    ∀ event ∈ events, ∀ notice, event ≠ .reply notice := by
  cases kind with
  | orders => exact forall_of_map (by simp) h
  | trades => exact forall_of_map (by simp) h
  | _ => exact Except.ok.inj h ▸ by simp

/-- The ruling that a message brings. -/
def messageRuling (g : Gateway World) (time : Reading) (message : Message) : Ruling :=
  match message.kind, g.outline.core.verdictOn? message with
  | .reply r, _ => .reply r
  | _, some (.refuse _) => .expiry time.now 0
  | _, _ => .nothing

/-- The ruling that a frame of the current session brings. -/
def frameRuling (g : Gateway World) (time : Reading) (bytes : List UInt8) : Ruling :=
  match Message.decode g.settings.encoding bytes with
  | .ok message => g.messageRuling time message
  | .error _ => .nothing

/-- The ruling that a report of the current session brings. -/
def reportRuling (g : Gateway World) (time : Reading) : Transport.Event → Ruling
  | .frame bytes => g.frameRuling time bytes
  | .closed _ => g.lossRuling time
  | _ => .nothing

/-- The ruling that an item brings to a gateway that has not stopped. -/
def itemRuling (g : Gateway World) (time : Reading) : Item → Ruling
  | .close _ => .expiry time.now 0
  | .shutdown => .expiry time.now 0
  | .expirySweep => .expiry time.now g.settings.timeoutNanos
  | .connectFailed generation _ =>
      if generation = g.life.generation then g.breakRuling time else .nothing
  | .transport generation event =>
      if generation = g.life.generation then g.reportRuling time event else .nothing
  | .heartbeatTick generation =>
      if generation = g.life.generation ∧ g.state = .connected ∧
          g.heartbeat.isOverdue g.settings.probing.limit = true then g.lossRuling time
      else .nothing
  | _ => .nothing

/-- The ruling that an item brings. -/
def ruling (g : Gateway World) (time : Reading) (item : Item) : Ruling :=
  if g.running then g.itemRuling time item else .nothing

/-- A message is its ruling. -/
theorem books_onMessage {g : Gateway World} (htidy : g.pending.IsTidy) (link : Link World)
    (time : Reading) (message : Message) :
    (g.onMessage link time message).books = g.books.rule (g.messageRuling time message) := by
  have hother : (∀ kind, message.kind ≠ .lifecycle kind) →
      g.outline.core.verdictOn? message = none := g.outline.core.verdictOn?_eq_none
  unfold messageRuling
  cases hkind : message.kind with
  | lifecycle kind =>
      rw [onMessage_of_lifecycle link g time hkind]
      cases g.outline.core.verdictOn? message with
      | none => simp
      | some verdict =>
          cases verdict with
          | proceed => simp [onVerdict, books]
          | enter => simp [onVerdict]
          | refuse error => exact books_onRefused link g time error
  | market kind =>
      simp only [onMessage, hkind, hother (by simp [hkind]), Books.rule_nothing]
      cases hread : Event.ofMarket kind message.payload time.wall with
      | ok events => exact books_publishAll_of_ne_reply g (ne_reply_of_ofMarket hread)
      | error _ => rfl
  | account kind =>
      simp only [onMessage, hkind, hother (by simp [hkind]), Books.rule_nothing]
      cases hread : Event.ofAccount kind message.payload with
      | ok events => exact books_publishAll_of_ne_reply g (ne_reply_of_ofAccount hread)
      | error _ => rfl
  | reply r =>
      simp only [onMessage, hkind]
      exact books_onReply htidy r
  | unhandled =>
      simp only [onMessage, hkind, hother (by simp [hkind]), Books.rule_nothing]
      rfl

/-- A frame is its ruling. -/
theorem books_onFrame {g : Gateway World} (htidy : g.pending.IsTidy) (link : Link World)
    (time : Reading) (bytes : List UInt8) :
    (g.onFrame link time bytes).books = g.books.rule (g.frameRuling time bytes) := by
  unfold frameRuling
  cases hdecode : Message.decode g.settings.encoding bytes with
  | ok message =>
      rw [onFrame_of_decode link time hdecode]
      exact books_onMessage (g := g.countFrame) htidy link time message
  | error _ =>
      simp only [onFrame, hdecode, Books.rule_nothing]
      rfl

/-- A report of the current session is its ruling. -/
theorem books_onTransport {g : Gateway World} (htidy : g.pending.IsTidy) (link : Link World)
    (time : Reading) (event : Transport.Event) :
    (g.onTransport link time event).books = g.books.rule (g.reportRuling time event) := by
  cases event with
  | opened => exact (books_sendAll link _ _).trans g.books.rule_nothing.symm
  | frame bytes => exact books_onFrame htidy link time bytes
  | error text => exact g.books.rule_nothing.symm
  | closed reason => exact books_onLost link g time
  | pong =>
      refine Eq.trans ?_ g.books.rule_nothing.symm
      unfold onTransport onPong
      dsimp only
      split
      · exact books_publish_of_ne_reply _ (by simp)
      · rfl

@[simp] theorem books_probe (link : Link World) (g : Gateway World) :
    (g.probe link).books = g.books := by
  have hping := books_of_writes (writes_ping link g)
  unfold probe
  split <;> rename_i next heq <;> rw [heq] at hping
  · exact hping
  · exact (books_record_of_not_isVerdict _ rfl).trans hping
  · exact hping

/-- A reminder of a probe is its ruling. -/
theorem books_onTick (g : Gateway World) (link : Link World) (time : Reading)
    (generation : Nat) :
    (g.onTick link time generation).books =
      g.books.rule (g.itemRuling time (.heartbeatTick generation)) := by
  unfold onTick itemRuling
  by_cases hprobed : generation = g.life.generation ∧ g.state = .connected
  · by_cases hoverdue : g.heartbeat.isOverdue g.settings.probing.limit = true
    · simp [hprobed, hoverdue, books_onLost]
    · simp [hprobed, hoverdue]
  · have hquiet : ¬ (generation = g.life.generation ∧ g.state = .connected ∧
        g.heartbeat.isOverdue g.settings.probing.limit = true) :=
      fun h => hprobed ⟨h.1, h.2.1⟩
    simp [hprobed, hquiet]

/-- What an item does to the pending transactions, and the verdicts that it brings, are those of
its ruling. -/
theorem books_handle {g : Gateway World} (htidy : g.pending.IsTidy) (link : Link World)
    (time : Reading) (item : Item) :
    (g.handle link time item).books.pending = (g.books.rule (g.itemRuling time item)).pending ∧
      (g.handle link time item).books.verdicts =
        (g.books.rule (g.itemRuling time item)).verdicts := by
  -- Only items about subscriptions change the third part of the books.
  have hwhole : (g.handle link time item).books = g.books.rule (g.itemRuling time item) →
      (g.handle link time item).books.pending = (g.books.rule (g.itemRuling time item)).pending ∧
        (g.handle link time item).books.verdicts =
          (g.books.rule (g.itemRuling time item)).verdicts := by
    intro h
    rw [h]
    exact ⟨rfl, rfl⟩
  have hstays : (g.handle link time item).books = g.books → g.itemRuling time item = .nothing →
      (g.handle link time item).books = g.books.rule (g.itemRuling time item) := by
    intro hbooks hruling
    rw [hruling, Books.rule_nothing, hbooks]
  cases item with
  | connect caller =>
      refine hwhole (hstays ?_ rfl)
      simp only [handle, onConnect]
      split
      · exact books_openSession _
      · exact books_record_of_not_isVerdict _ rfl
  | close caller =>
      refine hwhole ((books_record_of_not_isVerdict _ rfl).trans ?_)
      rw [shut, books_expireAll, books_disconnect]
      rfl
  | subscribe asset sink declared =>
      have hsubscribe : (g.handle link time (.subscribe asset sink declared)).books =
          { g.books with subscriptions := (g.subscriptions.subscribe asset sink declared).2 } := by
        simp only [handle, onSubscribe]
        split
        · exact books_requestFeed link _ asset
        · rfl
      have hnothing : g.itemRuling time (.subscribe asset sink declared) = .nothing := rfl
      rw [hsubscribe, hnothing, Books.rule_nothing]
      exact ⟨rfl, rfl⟩
  | unsubscribe asset sink =>
      have hnothing : g.itemRuling time (.unsubscribe asset sink) = .nothing := rfl
      rw [hnothing, Books.rule_nothing]
      exact ⟨rfl, rfl⟩
  | shutdown =>
      have hshutdown : (g.handle link time .shutdown).books =
          ((g.shut link time).answer (.error .stopped)).books := rfl
      refine hwhole (hshutdown.trans ?_)
      rw [books_answer, shut, books_expireAll, books_disconnect]
      rfl
  | sessionReady generation writer =>
      refine hwhole (hstays ?_ rfl)
      simp only [handle, onSessionReady]
      split
      · exact books_installWriter link g writer
      · exact books_closeLine link g writer
  | connectFailed generation error =>
      by_cases hcurrent : generation = g.life.generation
      · refine hwhole ?_
        simpa [handle, itemRuling, hcurrent] using books_onConnectFailed g time error
      · exact hwhole (hstays (by simp [handle, hcurrent]) (by simp [itemRuling, hcurrent]))
  | transport generation event =>
      by_cases hcurrent : generation = g.life.generation
      · refine hwhole ?_
        simpa [handle, itemRuling, hcurrent] using books_onTransport htidy link time event
      · exact hwhole (hstays (by simp [handle, hcurrent]) (by simp [itemRuling, hcurrent]))
  | heartbeatTick generation => exact hwhole (books_onTick g link time generation)
  | expirySweep => exact hwhole (books_expire g time _)
  | reconnect generation =>
      refine hwhole (hstays ?_ rfl)
      simp only [handle, onReconnect]
      split
      · exact books_openSession g
      · rfl

/-- What an item does to the pending transactions, and the verdicts that it brings, are those of
its ruling, also if the gateway has stopped. -/
theorem books_step {g : Gateway World} (htidy : g.pending.IsTidy) (link : Link World)
    (time : Reading) (item : Item) :
    (g.step link time item).pending = g.pending.left (g.ruling time item) ∧
      (g.step link time item).journal.filter Effect.isVerdict =
        pronounce g.subscriptions g.pending (g.ruling time item) := by
  unfold Gateway.step ruling
  split
  · have hhandle := books_handle (g := { g with journal := [] }) htidy link time item
    exact ⟨hhandle.1, hhandle.2.trans (List.nil_append _)⟩
  · have hnothing := Books.rule_nothing ⟨g.pending, g.subscriptions, []⟩
    exact ⟨(congrArg Books.pending hnothing).symm, (congrArg Books.verdicts hnothing).symm⟩

end TerminalGateway.Gateway

namespace TerminalGateway.Submission

open TerminalGateway.Gateway
open TerminalGateway.Transaction (Entry Pending)

variable {World : Type}

/-! ## Submissions -/

/-- The transaction that a submission is about to make pending. -/
def registers? (time : Reading) : Submission → Option Entry
  | .numbered issuer intent transactionId _ => some ⟨transactionId, intent, time.now, issuer⟩
  | _ => none

/-- The number under which a submission is about to make its transaction pending. -/
def due? : Submission → Option Nat
  | .numbered _ _ transactionId _ => some transactionId
  | _ => none

/-- The transaction that a submission is about to take back. -/
def withdraws? : Submission → Option Nat
  | .failing transactionId _ => some transactionId
  | _ => none

/-- What is made pending has the number that was due. -/
theorem due?_of_registers {time : Reading} {submission : Submission} {entry : Entry}
    (h : submission.registers? time = some entry) :
    submission.due? = some entry.transactionId := by
  cases submission with
  | numbered issuer intent transactionId frames =>
      cases h
      rfl
  | _ => cases h

/-- Making a transaction pending concerns no other. -/
theorem find?_filed_of_registers {time : Reading} {submission : Submission} {entry : Entry}
    (h : submission.registers? time = some entry) (pending : Pending) (id : Nat) :
    (submission.filed time pending).find? id =
      if id = entry.transactionId then some entry else pending.find? id := by
  cases submission with
  | numbered issuer intent transactionId frames =>
      cases h
      exact pending.find?_register _ id
  | _ => cases h

/-- A step of a submission concerns only the transaction that it makes pending or takes back. -/
theorem find?_filed {time : Reading} {submission : Submission} {id : Nat}
    (h : ∀ entry, submission.registers? time = some entry → entry.transactionId ≠ id)
    (pending : Pending) :
    (submission.filed time pending).find? id =
      if submission.withdraws? = some id then none else pending.find? id := by
  cases submission with
  | numbered issuer intent transactionId frames =>
      have hother := h _ rfl
      exact (pending.find?_register _ id).trans (if_neg hother.symm)
  | failing transactionId error =>
      refine (pending.find?_without transactionId id).trans ?_
      simp only [withdraws?, Option.some.injEq, eq_comm]
  | _ => rfl

/-- What is pending after a step of a submission was pending before or is made pending by it. -/
theorem mem_filed {time : Reading} {submission : Submission} {pending : Pending} {entry : Entry}
    (h : entry ∈ (submission.filed time pending).entries) :
    entry ∈ pending.entries ∨ submission.registers? time = some entry := by
  cases submission with
  | numbered issuer intent transactionId frames =>
      rcases List.mem_append.mp h with hbefore | hnew
      · exact .inl (List.mem_of_mem_filter hbefore)
      · exact .inr (congrArg some (List.mem_singleton.mp hnew).symm)
  | failing transactionId error => exact .inl (List.mem_of_mem_filter h)
  | _ => exact .inl h

theorem tidy_filed {pending : Pending} (htidy : pending.IsTidy) (time : Reading)
    (submission : Submission) : (submission.filed time pending).IsTidy := by
  cases submission with
  | numbered issuer intent transactionId frames => exact htidy.register _
  | failing transactionId error => exact htidy.without transactionId
  | _ => exact htidy

theorem nextId_le_filed (pending : Pending) (time : Reading) (submission : Submission) :
    pending.nextId ≤ (submission.filed time pending).nextId := by
  cases submission with
  | admitted issuer intent => exact Nat.le_succ _
  | _ => exact Nat.le_refl _

/-- A step of a submission brings no verdict. -/
theorem books_step (link : Link World) (time : Reading) (g : Gateway World)
    (submission : Submission) :
    (submission.step link time g).2.books =
      { g.books with pending := submission.filed time g.pending } :=
  books_of_writes (submission.writes_step link time g)

/-- A transaction is carried by one text on the web server and by two on the bridge. -/
theorem frames_of_transaction {dialect : Dialect} {id : Nat} {account : TradeAccount}
    {intent : Intent} {frames : List String}
    (h : Command.transaction dialect id account intent = .ok frames) :
    (∃ order, frames = [order]) ∨
      ∃ order request, dialect = .bridge ∧ frames = [order, request] := by
  cases dialect with
  | web =>
      simp only [Command.transaction] at h
      cases hweb : Command.webTransaction id account intent with
      | ok order =>
          rw [hweb] at h
          cases h
          exact .inl ⟨order, rfl⟩
      | error reason =>
          rw [hweb] at h
          cases h
  | bridge =>
      simp only [Command.transaction, Command.bridgeTransaction] at h
      cases hcodes : Command.codesOf intent.asset with
      | ok codes =>
          rw [hcodes] at h
          cases h
          exact .inr ⟨_, _, rfl, rfl⟩
      | error reason =>
          rw [hcodes] at h
          cases h

/-- Only a submission that was admitted is given a number, and this is the next one. -/
theorem admitted_of_numbered {link : Link World} {time : Reading} {g : Gateway World}
    {submission : Submission} {issuer id : Nat} {intent : Intent} {frames : List String}
    (h : (submission.step link time g).1 = .numbered issuer intent id frames) :
    submission = .admitted issuer intent ∧ id = g.pending.nextId ∧ intent.asset ≠ .any := by
  cases submission with
  | waiting _ _ =>
      simp only [step] at h
      split at h <;> cases h
  | admitted _ wanted =>
      simp only [step] at h
      split at h <;> rename_i hframes
      · cases h
        refine ⟨rfl, rfl, fun hany => ?_⟩
        rw [Command.transaction_of_any _ _ _ hany] at hframes
        cases hframes
      · cases h
  | writing _ frames =>
      cases frames with
      | nil => cases h
      | cons frame frames =>
          rcases hsent : g.send link frame with ⟨result, next⟩
          cases result <;> simp [step, hsent] at h
  | numbered _ _ _ _ => cases h
  | failing _ _ => cases h
  | refused _ => cases h
  | sent _ => cases h

/-- A number that becomes due was the next one. -/
theorem due?_of_step {link : Link World} {time : Reading} {g : Gateway World}
    {submission : Submission} {id : Nat} (h : (submission.step link time g).1.due? = some id) :
    id = g.pending.nextId ∧ submission.registers? time = none ∧
      (submission.filed time g.pending).nextId = g.pending.nextId + 1 := by
  cases hnext : (submission.step link time g).1 with
  | numbered issuer intent transactionId frames =>
      rw [hnext] at h
      cases h
      rcases admitted_of_numbered hnext with ⟨rfl, hid, -⟩
      exact ⟨hid, rfl, rfl⟩
  | _ => simp [hnext, due?] at h

end TerminalGateway.Submission
