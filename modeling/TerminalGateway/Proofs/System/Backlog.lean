import TerminalGateway.Proofs.System.Vigil

/-!
# Reminders that pile up

A gateway takes up the items of its queue in the order in which they came.  A connection that knows
no probes answers each at once, but the answer goes to the end of the queue, behind all that waits
there.  While a gateway is held up, reminders may pile up in its queue, and all those that lie ahead
of the first answer are counted as unanswered.  So a session on such a connection is kept as long as
no more reminders pile up behind one that is taken up than the limit allows, and is lost otherwise.

Main definitions:

- `Backlog`, `Backlog.run?`: a system with the queue of its gateway, and its runs.
- `ahead`: the reminders that lie ahead of the first answer in a queue.
- `Backlog.isPaced`: in a run no more reminders pile up than a limit allows.
- `Backlog.Covered`: the probes of a session are answered, or an answer in the queue covers them.

Main results:

- Theorem `Backlog.exists_run`: a run with a queue is a run of the system.
- Theorem `Backlog.Covered.run`: where no more reminders pile up, the probes stay covered.
- Theorem `Backlog.loses_of_pile`: reminders beyond the limit lose a session.
- Theorem `Backlog.loses_only_by_pile`: a session is lost by nothing but such a pile.
-/

namespace TerminalGateway

open TerminalGateway.Gateway

/-! ## Queues -/

namespace Gateway

/-- An answer in a session. -/
def Item.isAnswerOf (generation : Nat) : Item → Bool
  | .transport n .pong => n = generation
  | _ => false

/-- A reminder of a probe in a session. -/
def Item.isReminderOf (generation : Nat) : Item → Bool
  | .heartbeatTick n => n = generation
  | _ => false

theorem Item.isReminderOf_iff {generation : Nat} {item : Item} :
    item.isReminderOf generation = true ↔ item = .heartbeatTick generation := by
  cases item <;> simp [isReminderOf]

/-- The reminders of a session that lie ahead of its first answer in a queue. -/
def ahead (generation : Nat) (queue : List Item) : Nat :=
  (queue.takeWhile fun item => !item.isAnswerOf generation).countP (Item.isReminderOf generation)

/-- The first reminder lies ahead of the answer behind it. -/
theorem ahead_cons_reminder (generation : Nat) (queue : List Item) :
    ahead generation (.heartbeatTick generation :: queue) = ahead generation queue + 1 := by
  simp [ahead, Item.isAnswerOf, Item.isReminderOf]

theorem ahead_le_cons {generation : Nat} {item : Item}
    (h : item.isAnswerOf generation = false) (queue : List Item) :
    ahead generation queue ≤ ahead generation (item :: queue) := by
  unfold ahead
  rw [List.takeWhile_cons_of_pos (by simp [h])]
  exact (List.sublist_cons_self _ _).countP_le

/-- What comes behind an answer does not matter. -/
theorem ahead_append (generation : Nat) (queue more : List Item) :
    ahead generation (queue ++ more) = ahead generation queue +
      if queue.any (Item.isAnswerOf generation) then 0 else ahead generation more := by
  induction queue with
  | nil => simp [ahead]
  | cons item rest ih =>
      cases hitem : item.isAnswerOf generation with
      | true => simp [ahead, hitem]
      | false =>
          have hany : (item :: rest).any (Item.isAnswerOf generation) =
              rest.any (Item.isAnswerOf generation) := by
            rw [List.any_cons, hitem, Bool.false_or]
          rw [hany]
          unfold ahead at ih ⊢
          rw [List.cons_append, List.takeWhile_cons_of_pos (by simp [hitem]),
            List.takeWhile_cons_of_pos (by simp [hitem]), List.countP_cons, List.countP_cons, ih]
          omega

theorem ahead_append_of_any {generation : Nat} {queue : List Item}
    (h : queue.any (Item.isAnswerOf generation) = true) (more : List Item) :
    ahead generation (queue ++ more) = ahead generation queue := by
  rw [ahead_append, if_pos h, Nat.add_zero]

/-- An answer at the end of a queue has the reminders of the queue ahead of it. -/
theorem ahead_append_answer (generation : Nat) (queue : List Item) :
    ahead generation (queue ++ [.transport generation .pong]) = ahead generation queue := by
  have hanswer : ahead generation [.transport generation .pong] = 0 := by
    simp [ahead, Item.isAnswerOf]
  rw [ahead_append, hanswer, ite_self, Nat.add_zero]

/-- The items that a gateway put into its own queue. -/
def queued (journal : List Effect) : List Item :=
  journal.filterMap fun
    | .enqueued item => some item
    | _ => none

end Gateway

/-- A system with the queue from which its gateway takes up items. -/
structure Backlog (World : Type) where
  system : System World
  /-- The items that wait, the next one first. -/
  queue : List Item := []

namespace Backlog

variable {World : Type} {link : Link World}

/-- What may happen next. -/
inductive Turn where
  /-- An item is put at the end of the queue. -/
  | post (item : Item)
  /-- The gateway takes up the item that waits first. -/
  | take (time : Reading)
  /-- Something happens beside the queue. -/
  | beside (turn : System.Turn)

/-- A gateway that has not connected yet, with an empty queue. -/
def start (settings : Settings) (world : World) : Backlog World where
  system := .start settings world

/-- The system goes on, with a queue of which these items are left. -/
def proceed? (link : Link World) (b : Backlog World) (turn : System.Turn) (left : List Item) :
    Option (Backlog World) :=
  (b.system.step? link turn).map fun next => ⟨next, left ++ queued next.gateway.journal⟩

/-- The backlog after a turn, nothing for a turn that is not due. -/
def step? (link : Link World) (b : Backlog World) : Turn → Option (Backlog World)
  | .post item => some { b with queue := b.queue ++ [item] }
  | .take time =>
      match b.queue with
      | [] => none
      | item :: rest => b.proceed? link (.item time item) rest
  | .beside turn => if turn.isItem then none else b.proceed? link turn b.queue

/-- The backlog after a run, nothing if one of its turns is not due. -/
def run? (link : Link World) : Backlog World → List Turn → Option (Backlog World)
  | b, [] => some b
  | b, turn :: rest => (b.step? link turn).bind fun next => next.run? link rest

/-- The item that waits first is taken up. -/
theorem step?_take {b : Backlog World} {item : Item} {rest : List Item}
    (hqueue : b.queue = item :: rest) (time : Reading) :
    b.step? link (.take time) = b.proceed? link (.item time item) rest := by
  simp [step?, hqueue]

theorem of_proceed {b next : Backlog World} {turn : System.Turn} {left : List Item}
    (h : b.proceed? link turn left = some next) :
    b.system.step? link turn = some next.system ∧
      next.queue = left ++ queued next.system.gateway.journal := by
  rcases Option.map_eq_some_iff.mp h with ⟨after, hafter, rfl⟩
  exact ⟨hafter, rfl⟩

/-- A turn puts an item into the queue, or is one of the system. -/
theorem step_cases {b next : Backlog World} {turn : Turn} (hstep : b.step? link turn = some next) :
    (∃ item, turn = .post item ∧ next = { b with queue := b.queue ++ [item] }) ∨
      (∃ time item rest, turn = .take time ∧ b.queue = item :: rest ∧
        b.system.step? link (.item time item) = some next.system ∧
        next.queue = rest ++ queued next.system.gateway.journal) ∨
      ∃ beside, turn = .beside beside ∧ beside.isItem = false ∧
        b.system.step? link beside = some next.system ∧
        next.queue = b.queue ++ queued next.system.gateway.journal := by
  cases turn with
  | post item => exact .inl ⟨item, rfl, (Option.some.inj hstep).symm⟩
  | take time =>
      simp only [step?] at hstep
      split at hstep
      · cases hstep
      · rename_i item rest hqueue
        exact .inr (.inl ⟨time, item, rest, rfl, hqueue, of_proceed hstep⟩)
  | beside turn =>
      simp only [step?] at hstep
      split at hstep
      · cases hstep
      · rename_i hitem
        exact .inr (.inr ⟨turn, rfl, Bool.eq_false_iff.mpr hitem, of_proceed hstep⟩)

/-- A run with a queue is a run of the system. -/
theorem exists_run {b last : Backlog World} {turns : List Turn}
    (hrun : b.run? link turns = some last) :
    ∃ steps, b.system.run? link steps = some last.system := by
  induction turns generalizing b with
  | nil =>
      cases hrun
      exact ⟨[], rfl⟩
  | cons turn rest ih =>
      rcases Option.bind_eq_some_iff.mp hrun with ⟨next, hstep, hrest⟩
      rcases ih hrest with ⟨steps, hsteps⟩
      rcases step_cases hstep with ⟨item, rfl, rfl⟩ | ⟨time, item, left, rfl, -, hnext, -⟩ |
        ⟨turn, rfl, -, hnext, -⟩
      · exact ⟨steps, hsteps⟩
      · exact ⟨.item time item :: steps, by rw [System.run?, hnext]; exact hsteps⟩
      · exact ⟨turn :: steps, by rw [System.run?, hnext]; exact hsteps⟩

/-! ## Sessions whose probes are answered at once -/

/-- No probe on a connection waits for an answer of the other side. -/
def IsPrompt (link : Link World) (writer : Nat) : Prop :=
  ∀ world, (link.ping world writer).1 ≠ .ok .awaitPong

/-- All probes of an open session are answered, or an answer is in the queue and covers them: with
the reminders ahead of it they are one more than the limit at most. -/
def Covered (link : Link World) (limit : Nat) (b : Backlog World) : Prop :=
  b.system.gateway.state = .connected →
    ∀ writer, b.system.gateway.writer = some writer → IsPrompt link writer →
      b.system.gateway.heartbeat.unanswered = 0 ∨
        b.queue.any (Item.isAnswerOf b.system.gateway.life.generation) = true ∧
          b.system.gateway.heartbeat.unanswered +
            ahead b.system.gateway.life.generation b.queue ≤ limit + 1

/-- If a reminder of the current session is taken up in this turn, no more of them than a limit are
left ahead of the first answer. -/
def isSpaced (limit : Nat) (b : Backlog World) : Turn → Bool
  | .take _ =>
      match b.queue with
      | .heartbeatTick generation :: rest =>
          generation ≠ b.system.gateway.life.generation || ahead generation rest ≤ limit
      | _ => true
  | _ => true

/-- In this run no more reminders pile up than a limit allows. -/
def isPaced (link : Link World) (limit : Nat) : Backlog World → List Turn → Bool
  | _, [] => true
  | b, turn :: rest =>
      b.isSpaced limit turn &&
        match b.step? link turn with
        | some next => next.isPaced link limit rest
        | none => true

variable {limit : Nat} {b next last : Backlog World}

/-- What comes to the end of the queue does not matter. -/
theorem Covered.append (h : Covered link limit b) (more : List Item) :
    Covered link limit { b with queue := b.queue ++ more } := by
  intro hstate writer hwriter hprompt
  refine (h hstate writer hwriter hprompt).imp_right fun ⟨hany, hahead⟩ => ⟨?_, ?_⟩
  · rw [List.any_append, hany, Bool.true_or]
  · exact ahead_append_of_any hany more ▸ hahead

/-- Nothing has to cover probes that are all answered. -/
theorem covered_of_unanswered (h : b.system.gateway.heartbeat.unanswered = 0) :
    Covered link limit b :=
  fun _ _ _ _ => .inl h

/-- What covers the probes of a session is left by a turn that does nothing to the counts. -/
theorem Covered.calm (h : Covered link limit b) (hsound : b.system.IsSound)
    {turn : System.Turn} {left more : List Item} (hqueue : next.queue = left ++ more)
    (hstep : b.system.step? link turn = some next.system)
    (hcalm : next.system.gateway.vitals = ⟨b.system.gateway.heartbeat, []⟩)
    (hleft : b.system.gateway.state = .connected → b.queue = left ∨ ∃ item,
      b.queue = item :: left ∧ item.isAnswerOf b.system.gateway.life.generation = false) :
    Covered link limit next := by
  suffices hkept : Covered link limit { next with queue := left } by
    have hmore := hkept.append more
    rwa [← hqueue] at hmore
  intro hstate writer hwriter hprompt
  rcases (System.move_of_step hsound hstep).connected hstate with ⟨hgeneration, hbefore⟩
  have hopen : b.system.gateway.state = .connected := by
    refine hbefore.resolve_right fun hmark => ?_
    have hvital : .triggered .sessionOpened (some .busy) ∈ next.system.gateway.vitals.effects :=
      List.mem_filter.mpr ⟨List.mem_of_mem_filter hmark, rfl⟩
    simp [hcalm] at hvital
  have hsame : next.system.gateway.writer = b.system.gateway.writer := by
    rcases System.connected_of_step hsound hstep hopen with ⟨-, hlost⟩ | ⟨-, hkept⟩
    · exact absurd hstate hlost
    · exact hkept
  have hheartbeat : next.system.gateway.heartbeat = b.system.gateway.heartbeat :=
    congrArg Vitals.heartbeat hcalm
  have hcovered := h hopen writer (hsame ▸ hwriter) hprompt
  have hnumber : next.system.gateway.life.generation = b.system.gateway.life.generation :=
    hgeneration
  dsimp only
  rw [hheartbeat, hnumber]
  refine hcovered.imp_right fun ⟨hany, hahead⟩ => ?_
  rcases hleft hopen with rfl | ⟨item, hbefore, hitem⟩
  · exact ⟨hany, hahead⟩
  · rw [hbefore] at hany hahead
    refine ⟨by simpa [hitem] using hany, le_trans ?_ hahead⟩
    exact Nat.add_le_add_left (ahead_le_cons hitem left) _

/-- A reminder that finds an open session alive tries a probe, and an answer that is given at once
goes to the end of the queue. -/
theorem gateway_of_probe {s after : System World} {time : Reading} {writer : Nat}
    (hsound : s.IsSound) (hstate : s.gateway.state = .connected)
    (hwriter : s.gateway.writer = some writer)
    (hdue : s.gateway.heartbeat.isOverdue s.gateway.settings.probing.limit = false)
    (hstep : s.step? link (.item time (.heartbeatTick s.gateway.life.generation)) = some after) :
    after.gateway = s.cleared.tried link writer := by
  rw [hsound.gateway_of_connected hstate hstep]
  refine (System.handle_tick hstate hwriter time).trans (if_neg ?_)
  simp [hdue]

/-- The answer to a probe covers it, with all that were sent before. -/
theorem Covered.probe (h : Covered link limit b) (hsound : b.system.IsSound) {time : Reading}
    {rest : List Item} {writer : Nat}
    (hqueue : b.queue = .heartbeatTick b.system.gateway.life.generation :: rest)
    (hspaced : ahead b.system.gateway.life.generation rest ≤ limit)
    (hstate : b.system.gateway.state = .connected)
    (hwriter : b.system.gateway.writer = some writer)
    (hdue : b.system.gateway.heartbeat.isOverdue b.system.gateway.settings.probing.limit = false)
    (hstep : b.system.step? link
      (.item time (.heartbeatTick b.system.gateway.life.generation)) = some next.system)
    (hnext : next.queue = rest ++ queued next.system.gateway.journal) :
    Covered link limit next := by
  have hgateway := gateway_of_probe hsound hstate hwriter hdue hstep
  intro _ other hother hprompt
  obtain rfl : writer = other := by
    have hkept : next.system.gateway.writer = some writer := by
      rw [hgateway]
      exact hwriter
    exact Option.some.inj (hkept.symm.trans hother)
  have hcovered := h hstate writer hwriter hprompt
  rw [hqueue, ahead_cons_reminder] at hcovered
  have hnever := hprompt b.system.gateway.world
  have hheartbeat : next.system.gateway.heartbeat =
      b.system.gateway.countedProbe (link.ping b.system.gateway.world writer).1 := by
    rw [hgateway]
    rfl
  have hnumber : next.system.gateway.life.generation = b.system.gateway.life.generation := by
    rw [hgateway]
    rfl
  have hqueued : queued next.system.gateway.journal =
      queued (b.system.gateway.echo (link.ping b.system.gateway.world writer).1) := by
    rw [hgateway]
    rfl
  rw [hheartbeat, hnumber, hnext, hqueued]
  generalize (link.ping b.system.gateway.world writer).1 = result at hnever ⊢
  rcases result with error | liveness
  · have hnothing : queued (b.system.gateway.echo (.error error)) = [] := rfl
    rw [hnothing, List.append_nil]
    refine hcovered.imp_right fun ⟨hany, hahead⟩ => ⟨hany, ?_⟩
    exact Nat.le_of_succ_le hahead
  · cases liveness with
    | awaitPong => exact absurd rfl hnever
    | immediate =>
        have hanswer : queued (b.system.gateway.echo (.ok .immediate)) =
            [.transport b.system.gateway.life.generation .pong] := rfl
        have hcount : (b.system.gateway.countedProbe (.ok .immediate)).unanswered =
            b.system.gateway.heartbeat.unanswered + 1 := rfl
        rw [hanswer, hcount, ahead_append_answer]
        refine .inr ⟨by simp [Item.isAnswerOf], ?_⟩
        rcases hcovered with hnone | ⟨-, hahead⟩ <;> omega

/-- An item is an answer of the current session if the gateway runs and the item names that
session. -/
theorem isAnswer_item (s : System World) (time : Reading) (item : Item) :
    s.isAnswer (.item time item) =
      (s.gateway.running && item.isAnswerOf s.gateway.life.generation) := by
  cases item with
  | transport generation event => cases event <;> simp [System.isAnswer, Item.isAnswerOf]
  | _ => simp [System.isAnswer, Item.isAnswerOf]

/-- A turn keeps the probes of a session covered if no more reminders pile up than the limit
allows. -/
theorem Covered.step (h : Covered link limit b) (hsound : b.system.IsSound)
    (hwriter : b.system.gateway.state = .connected → b.system.gateway.writer ≠ none) {turn : Turn}
    (hspaced : b.isSpaced limit turn = true) (hstep : b.step? link turn = some next) :
    Covered link limit next := by
  rcases step_cases hstep with ⟨item, rfl, rfl⟩ | ⟨time, item, rest, rfl, hqueue, hnext, hleft⟩ |
    ⟨beside, rfl, hitem, hnext, hleft⟩
  · exact h.append [item]
  · have hcalm : next.system.gateway.vitals = ⟨b.system.gateway.heartbeat, []⟩ →
        b.system.isAnswer (.item time item) = false → Covered link limit next := by
      intro hvitals hanswer
      refine h.calm hsound hleft hnext hvitals fun hstate => .inr ⟨item, hqueue, ?_⟩
      simpa [isAnswer_item, hsound.running_of_connected hstate] using hanswer
    have hlives := System.lives_of_step hwriter hnext
    have hheartbeat : next.system.gateway.vitals.heartbeat = next.system.gateway.heartbeat := rfl
    generalize b.system.beats _ next.system.gateway.journal = pulses at hlives
    generalize next.system.gateway.vitals = v at hlives hheartbeat hcalm
    -- Of the turns that do something to the counts only a probe leaves one unanswered.
    cases hlives with
    | calm hanswer => exact hcalm rfl hanswer
    | enter hrunning => exact covered_of_unanswered (hheartbeat ▸ rfl)
    | answer hrunning => exact covered_of_unanswered (hheartbeat ▸ rfl)
    | probe hrunning hstate hsome hdue =>
        have hahead : ahead b.system.gateway.life.generation rest ≤ limit := by
          simpa [isSpaced, hqueue] using hspaced
        exact h.probe hsound hqueue hahead hstate hsome hdue hnext hleft
  · have hlives := System.lives_of_step hwriter hnext
    have hvitals : next.system.gateway.vitals = ⟨b.system.gateway.heartbeat, []⟩ := by
      generalize b.system.beats _ next.system.gateway.journal = pulses at hlives
      generalize next.system.gateway.vitals = v at hlives ⊢
      cases hlives with
      | calm _ => rfl
      | _ => cases hitem
    exact h.calm hsound hleft hnext hvitals fun _ => .inl rfl

/-- Where no more reminders pile up than the limit allows, the probes of a session stay covered. -/
theorem Covered.run (h : Covered link limit b) {settings : Settings} {world : World}
    {steps : List System.Turn}
    (hreach : (System.start settings world).run? link steps = some b.system) {turns : List Turn}
    (hpaced : b.isPaced link limit turns = true) (hrun : b.run? link turns = some last) :
    Covered link limit last := by
  induction turns generalizing b steps with
  | nil => exact Option.some.inj hrun ▸ h
  | cons turn rest ih =>
      rcases Option.bind_eq_some_iff.mp hrun with ⟨next, hstep, hrest⟩
      simp only [isPaced, hstep, Bool.and_eq_true] at hpaced
      have hone : b.run? link [turn] = some next := by
        rw [run?, hstep]
        rfl
      rcases exists_run hone with ⟨more, hmore⟩
      have hnext : (System.start settings world).run? link (steps ++ more) = some next.system := by
        rw [System.run?_append, hreach]
        exact hmore
      have hsound := (System.isSound_start settings world).run hreach
      exact ih (h.step hsound (System.writer_of_connected hreach) hpaced.1 hstep) hnext hpaced.2
        hrest

/-! ## Reminders that pile up -/

/-- When a reminder is taken up, a session whose probes are all covered is not overdue. -/
theorem Covered.isOverdue (h : Covered link limit b)
    (hstate : b.system.gateway.state = .connected) {writer : Nat}
    (hwriter : b.system.gateway.writer = some writer) (hprompt : IsPrompt link writer)
    {rest : List Item}
    (hqueue : b.queue = .heartbeatTick b.system.gateway.life.generation :: rest) :
    b.system.gateway.heartbeat.isOverdue limit = false := by
  have hcovered := h hstate writer hwriter hprompt
  rw [hqueue, ahead_cons_reminder] at hcovered
  have hfew : b.system.gateway.heartbeat.unanswered ≤ limit := by omega
  simp [Connection.Heartbeat.isOverdue, hfew]

/-- A reminder that finds an open session alive does not lose it. -/
theorem not_loses_of_probe {s after : System World} {time : Reading} {writer : Nat}
    (hsound : s.IsSound) (hstate : s.gateway.state = .connected)
    (hwriter : s.gateway.writer = some writer)
    (hdue : s.gateway.heartbeat.isOverdue s.gateway.settings.probing.limit = false)
    (hstep : s.step? link (.item time (.heartbeatTick s.gateway.life.generation)) = some after) :
    ¬ s.Loses after := by
  intro hloses
  refine hloses.state ?_
  rw [gateway_of_probe hsound hstate hwriter hdue hstep]
  exact hstate

/-- Each reminder of a pile leaves one more probe unanswered, as the answers go behind the pile. -/
theorem exists_probed (hsound : b.system.IsSound) (hstate : b.system.gateway.state = .connected)
    {writer : Nat} (hwriter : b.system.gateway.writer = some writer)
    (himmediate : ∀ world, (link.ping world writer).1 = .ok .immediate)
    (hdue : b.system.gateway.heartbeat.isOverdue b.system.gateway.settings.probing.limit = false)
    {rest : List Item}
    (hqueue : b.queue = .heartbeatTick b.system.gateway.life.generation :: rest)
    (time : Reading) :
    ∃ next, b.step? link (.take time) = some next ∧
      next.system.gateway = b.system.cleared.tried link writer ∧
      next.system.gateway.heartbeat.unanswered = b.system.gateway.heartbeat.unanswered + 1 ∧
      next.queue = rest ++ [.transport b.system.gateway.life.generation .pong] := by
  obtain ⟨next, hnext⟩ : ∃ next, b.step? link (.take time) = some next :=
    ⟨_, (step?_take hqueue time).trans rfl⟩
  rcases of_proceed ((step?_take hqueue time).symm.trans hnext) with ⟨hstep, hleft⟩
  have hgateway := gateway_of_probe hsound hstate hwriter hdue hstep
  have hping : (link.ping b.system.cleared.world writer).1 = .ok .immediate := himmediate _
  refine ⟨next, hnext, hgateway, ?_, ?_⟩
  · rw [hgateway]
    simp only [tried, hping]
    rfl
  · rw [hleft, hgateway]
    simp only [tried, hping]
    rfl

/-- Reminders that pile up beyond the limit lose a session whose probes are all answered at
once. -/
theorem loses_of_pile (hsound : b.system.IsSound)
    (hstate : b.system.gateway.state = .connected) {writer : Nat}
    (hwriter : b.system.gateway.writer = some writer)
    (himmediate : ∀ world, (link.ping world writer).1 = .ok .immediate)
    (hlimit : b.system.gateway.settings.probing.limit = limit) (hpositive : 0 < limit)
    {times : List Reading} {rest : List Item}
    (hlength : b.system.gateway.heartbeat.unanswered + times.length = limit + 1)
    (hqueue : b.queue = List.replicate (times.length + 1)
      (.heartbeatTick b.system.gateway.life.generation) ++ rest) (time : Reading) :
    ∃ prev last, b.run? link (times.map .take) = some prev ∧
      prev.step? link (.take time) = some last ∧ prev.system.Loses last.system := by
  -- On the reminders that still find the session alive: the answer to each goes behind the pile.
  induction times generalizing b rest with
  | nil =>
      have hfirst : b.queue = .heartbeatTick b.system.gateway.life.generation :: rest := hqueue
      have hdue : b.system.gateway.heartbeat.isOverdue
          b.system.gateway.settings.probing.limit = true := by
        have hmany : b.system.gateway.heartbeat.unanswered = limit + 1 := hlength
        simp [Connection.Heartbeat.isOverdue, hlimit, hmany, hpositive]
      obtain ⟨last, hlast⟩ : ∃ last, b.step? link (.take time) = some last :=
        ⟨_, (step?_take hfirst time).trans rfl⟩
      have hstep := (of_proceed ((step?_take hfirst time).symm.trans hlast)).1
      have hlost : last.system.gateway = b.system.cleared.onLost link time := by
        rw [hsound.gateway_of_connected hstate hstep]
        exact (System.handle_tick hstate hwriter time).trans (if_pos hdue)
      exact ⟨b, last, rfl, hlast, System.loses_of_onLost hsound hstate hlost⟩
  | cons now times ih =>
      rw [List.length_cons, List.replicate_succ, List.cons_append] at hqueue
      have hdue : b.system.gateway.heartbeat.isOverdue
          b.system.gateway.settings.probing.limit = false := by
        have hfew : b.system.gateway.heartbeat.unanswered ≤ limit := by
          rw [List.length_cons] at hlength
          omega
        simp [Connection.Heartbeat.isOverdue, hlimit, hfew]
      rcases exists_probed hsound hstate hwriter himmediate hdue hqueue now with
        ⟨next, hnext, hgateway, hcount, hleft⟩
      have hstep := (of_proceed ((step?_take hqueue now).symm.trans hnext)).1
      have hnumber : next.system.gateway.life.generation =
          b.system.gateway.life.generation := by
        rw [hgateway]
        rfl
      rw [List.append_assoc, ← hnumber] at hleft
      rcases ih (hsound.step hstep) (by rw [hgateway]; exact hstate)
        (by rw [hgateway]; exact hwriter) (by rw [hgateway]; exact hlimit)
        (by rw [hcount, ← hlength, List.length_cons]; omega) hleft with
        ⟨prev, last, hrun, hlast, hloses⟩
      refine ⟨prev, last, ?_, hlast, hloses⟩
      rw [List.map_cons, run?, hnext]
      exact hrun

/-- A session on a connection without probes outlives every reminder as long as no more reminders
pile up ahead of an answer than the limit of the settings allows, and where the settings have no
limit.  With a limit, that many reminders and two more in a row lose it, although each probe was
answered at once. -/
theorem loses_only_by_pile {settings : Settings} {world : World} {turns : List Turn}
    {b : Backlog World} (hrun : (start settings world).run? link turns = some b)
    (hstate : b.system.gateway.state = .connected) {writer : Nat}
    (hwriter : b.system.gateway.writer = some writer)
    (himmediate : ∀ world, (link.ping world writer).1 = .ok .immediate) :
    (∀ generation rest, b.queue = .heartbeatTick generation :: rest →
      (0 < settings.probing.limit →
        (start settings world).isPaced link settings.probing.limit turns = true) →
      ∀ time, ∃ next, b.step? link (.take time) = some next ∧
        ¬ b.system.Loses next.system) ∧
    (0 < settings.probing.limit → ∀ (times : List Reading) (rest : List Item),
      b.system.gateway.heartbeat.unanswered + times.length = settings.probing.limit + 1 →
      b.queue = List.replicate (times.length + 1)
        (.heartbeatTick b.system.gateway.life.generation) ++ rest →
      ∀ time, ∃ prev last, b.run? link (times.map .take) = some prev ∧
        prev.step? link (.take time) = some last ∧ prev.system.Loses last.system) := by
  rcases exists_run hrun with ⟨steps, hreach⟩
  have hsound := (System.isSound_start settings world).run hreach
  have hsettings : b.system.gateway.settings = settings :=
    (System.onItsWay_of_run hreach).settings
  have hlimit := congrArg (fun settings => settings.probing.limit) hsettings
  refine ⟨?_, fun hpositive times rest hlength hqueue =>
    loses_of_pile hsound hstate hwriter himmediate hlimit hpositive hlength hqueue⟩
  intro generation rest hqueue hpaced time
  obtain ⟨next, hnext⟩ : ∃ next, b.step? link (.take time) = some next :=
    ⟨_, (step?_take hqueue time).trans rfl⟩
  have hstep := (of_proceed ((step?_take hqueue time).symm.trans hnext)).1
  refine ⟨next, hnext, ?_⟩
  by_cases hcurrent : generation = b.system.gateway.life.generation
  · obtain rfl := hcurrent
    refine not_loses_of_probe hsound hstate hwriter ?_ hstep
    rw [hsettings]
    rcases Nat.eq_zero_or_pos settings.probing.limit with hnone | hpositive
    · simp [Connection.Heartbeat.isOverdue, hnone]
    · have hprompt : IsPrompt link writer := fun world => by simp [himmediate world]
      have hstart : Covered link settings.probing.limit (start settings world) :=
        covered_of_unanswered rfl
      have hreached : (System.start settings world).run? link [] =
          some (start settings world).system := rfl
      have hcovered := hstart.run hreached (hpaced hpositive) hrun
      exact hcovered.isOverdue hstate hwriter hprompt hqueue
  · have hidle : next.system.gateway = b.system.cleared := by
      rw [hsound.gateway_of_connected hstate hstep]
      exact System.handle_tick_of_other (.inl hcurrent) time
    intro hloses
    refine hloses.state ?_
    rw [hidle]
    exact hstate

/-! ## A pile of three -/

/-- The items of a run, each taken up as soon as it is put into the queue. -/
def oneByOne (turns : List System.Turn) : List Turn :=
  turns.flatMap fun
    | .item time item => [.post item, .take time]
    | turn => [.beside turn]

/-- A link without probes. -/
def promptLink : Link Unit :=
  { System.openLink with ping := fun _ _ => (.ok .immediate, ()) }

/-- A login with the bridge, after which three reminders pile up, and some of them are taken up. -/
def heldUp (taken : Nat) : List Turn :=
  oneByOne System.bridgeLogin ++ List.replicate 3 (.post (.heartbeatTick 1)) ++
    List.replicate taken (.take System.midnight)

/-- The session stays open while the first two reminders are taken up, and no probe is answered. -/
theorem exists_heldUp {taken : Nat} (htaken : taken ≤ 2) :
    ∃ b rest, (start System.strictSettings ()).run? promptLink (heldUp taken) = some b ∧
      b.system.gateway.state = .connected ∧ b.system.gateway.life.generation = 1 ∧
      b.system.gateway.writer = some 7 ∧ b.system.gateway.heartbeat.unanswered = taken ∧
      b.queue = List.replicate (3 - taken) (.heartbeatTick 1) ++ rest := by
  have hfacts : ∀ taken ≤ 2,
      ((start System.strictSettings ()).run? promptLink (heldUp taken)).map (fun b =>
        decide (b.system.gateway.state = .connected ∧ b.system.gateway.life.generation = 1 ∧
          b.system.gateway.writer = some 7 ∧ b.system.gateway.heartbeat.unanswered = taken ∧
          (b.queue.take (3 - taken)).length = 3 - taken ∧
          (b.queue.take (3 - taken)).all (Item.isReminderOf 1) = true)) = some true := by
    decide +kernel
  rcases Option.map_eq_some_iff.mp (hfacts taken htaken) with ⟨b, hrun, hstands⟩
  rcases of_decide_eq_true hstands with
    ⟨hstate, hgeneration, hwriter, hcount, hlength, hreminders⟩
  have hpile : b.queue.take (3 - taken) = List.replicate (3 - taken) (.heartbeatTick 1) :=
    List.eq_replicate_iff.mpr ⟨hlength, fun item hitem =>
      Item.isReminderOf_iff.mp (List.all_eq_true.mp hreminders item hitem)⟩
  refine ⟨b, b.queue.drop (3 - taken), hrun, hstate, hgeneration, hwriter, hcount, ?_⟩
  rw [← hpile, List.take_append_drop]

/-- With a limit of one, the first of three reminders keeps the session and the last one loses
it. -/
theorem loses_only_by_pile_heldUp :
    ∃ b next prev last,
      (start System.strictSettings ()).run? promptLink (heldUp 0) = some b ∧
        b.step? promptLink (.take System.midnight) = some next ∧
        ¬ b.system.Loses next.system ∧
        b.run? promptLink [.take System.midnight, .take System.midnight] = some prev ∧
        prev.step? promptLink (.take System.midnight) = some last ∧
        prev.system.Loses last.system := by
  have hpaced : (start System.strictSettings ()).isPaced promptLink 1 (heldUp 0) = true := by
    decide +kernel
  rcases exists_heldUp (Nat.zero_le 2) with
    ⟨b, rest, hrun, hstate, hgeneration, hwriter, hcount, hqueue⟩
  rcases loses_only_by_pile hrun hstate hwriter (fun _ => rfl) with ⟨hkeeps, hloses⟩
  rcases hkeeps 1 _ hqueue (fun _ => hpaced) System.midnight with ⟨next, hnext, hkept⟩
  rcases hloses (by decide) [System.midnight, System.midnight] rest (by rw [hcount]; rfl)
    (by rw [hqueue, hgeneration]; rfl) System.midnight with ⟨prev, last, hprev, hlast, hlost⟩
  exact ⟨b, next, prev, last, hrun, hnext, hkept, hprev, hlast, hlost⟩

/-- A reminder may lose a session although every probe is answered at once. -/
theorem lost_though_prompt :
    ∃ turns prev last, (start System.strictSettings ()).run? promptLink turns = some prev ∧
      prev.system.gateway.state = .connected ∧ prev.system.gateway.writer = some 7 ∧
      (∀ world, (promptLink.ping world 7).1 = .ok .immediate) ∧
      prev.queue.head? = some (.heartbeatTick prev.system.gateway.life.generation) ∧
      prev.step? promptLink (.take System.midnight) = some last ∧
      prev.system.Loses last.system := by
  rcases exists_heldUp (Nat.le_refl 2) with
    ⟨prev, rest, hrun, hstate, hgeneration, hwriter, hcount, hqueue⟩
  rcases exists_run hrun with ⟨steps, hreach⟩
  have hsound := (System.isSound_start System.strictSettings ()).run hreach
  have hsettings : prev.system.gateway.settings = System.strictSettings :=
    (System.onItsWay_of_run hreach).settings
  have hlimit : prev.system.gateway.settings.probing.limit = 1 :=
    congrArg (fun settings => settings.probing.limit) hsettings
  have himmediate : ∀ world, (promptLink.ping world 7).1 = .ok .immediate := fun _ => rfl
  have hpile : prev.queue = List.replicate (([] : List Reading).length + 1)
      (.heartbeatTick prev.system.gateway.life.generation) ++ rest := by
    rw [hqueue, hgeneration]
    rfl
  have hunanswered : prev.system.gateway.heartbeat.unanswered + ([] : List Reading).length =
      1 + 1 := hcount
  rcases loses_of_pile hsound hstate hwriter himmediate hlimit Nat.one_pos hunanswered hpile
    System.midnight with ⟨same, last, hsame, hlast, hlost⟩
  obtain rfl : prev = same := Option.some.inj hsame
  refine ⟨heldUp 2, prev, last, hrun, hstate, hwriter, himmediate, ?_, hlast, hlost⟩
  rw [hqueue, hgeneration]
  rfl

end Backlog

end TerminalGateway
