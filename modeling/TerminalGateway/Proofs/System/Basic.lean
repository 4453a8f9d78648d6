import TerminalGateway.Gateway.Step
import TerminalGateway.Gateway.Submission
import Mathlib.Data.List.Induction
import Mathlib.Logic.Function.Basic

/-!
# A gateway among its tasks

A gateway takes up what its callers, its connections and its timers put into its queue, and
callers submit transactions beside the queue.  This module puts the gateway together with all
that is at work around it and leaves the order of events open: whatever may wait in the queue may
be taken up next.  What a task has put into the queue stays there when the task is stopped, so
stopping a task takes nothing back.

The rules for what may come are those of the tasks.  The task of a session reports once that
its connection was not made, or hands over its writer and then reports what its reader reads, of
which the opening is the first and comes once.  A delay that is over is reported once.  Answers
to probes and the reminders of probes may come at any time.

Main definitions:

- `System.Tasks`: the sessions under way and the delays under way.
- `System`, `System.Turn`: the gateway among its tasks, and what may happen next.
- `System.step?`, `System.run?`: one turn, and a run of them; nothing where a turn is not due.

Main results:

- Theorem `System.run?_append`: runs are put together and taken apart at any turn.
- Theorem `System.run_induction`: what holds at the start and is kept by every turn holds along
  every run.
-/

namespace TerminalGateway

open TerminalGateway.Gateway (Effect Item Link Reading)

namespace System

/-- How far the task that makes and reads the connection of a session has come. -/
inductive Progress where
  /-- There is no such task. -/
  | absent
  | connecting
  /-- The connection was made, and its reader has reported nothing yet. -/
  | ready
  | reading
  /-- The connection was not made. -/
  | failed
deriving Repr, DecidableEq

/-- What is at work for a gateway. -/
structure Tasks where
  /-- The task of each session. -/
  session : Nat → Progress := fun _ => .absent
  /-- The number of delays under way after which a session number is reported. -/
  timers : Nat → Nat := fun _ => 0

namespace Tasks

/-- The task of a session has come this far. -/
def advance (tasks : Tasks) (generation : Nat) (progress : Progress) : Tasks :=
  { tasks with session := Function.update tasks.session generation progress }

/-- What a gateway does may set tasks to work. -/
def note (tasks : Tasks) : Effect → Tasks
  | .startSession generation => tasks.advance generation .connecting
  | .retryAfter generation _ =>
      { tasks with
        timers := Function.update tasks.timers generation (tasks.timers generation + 1) }
  | _ => tasks

/-- The task of a session goes on from one point to the next, if that is where it stands. -/
def pass? (tasks : Tasks) (generation : Nat) (before after : Progress) : Option Tasks :=
  if tasks.session generation = before then some (tasks.advance generation after) else none

/-- The tasks after one of them has put an item into the queue, nothing if none of them could. -/
def yield? (tasks : Tasks) : Item → Option Tasks
  | .sessionReady generation _ => tasks.pass? generation .connecting .ready
  | .connectFailed generation _ => tasks.pass? generation .connecting .failed
  | .transport _ .pong => some tasks
  | .transport generation .opened => tasks.pass? generation .ready .reading
  | .transport generation _ => tasks.pass? generation .reading .reading
  | .reconnect generation =>
      if 0 < tasks.timers generation then
        some { tasks with
          timers := Function.update tasks.timers generation (tasks.timers generation - 1) }
      else none
  | _ => some tasks

end Tasks

/-- What may happen next. -/
inductive Turn where
  /-- The gateway takes up an item. -/
  | item (time : Reading) (item : Item)
  /-- A caller begins to submit a transaction. -/
  | submit (issuer : Nat) (intent : Intent)
  /-- A submission, known by its number, takes its next step. -/
  | advance (time : Reading) (number : Nat)
  /-- A caller writes a text of its own. -/
  | raw (text : String)

/-- The tasks at the beginning of a turn, nothing if the turn is not due. -/
def Tasks.take? (tasks : Tasks) : Turn → Option Tasks
  | .item _ item => tasks.yield? item
  | _ => some tasks

end System

/-- A gateway, its tasks, the submissions so far, and all that was done to others. -/
structure System (World : Type) where
  gateway : Gateway World
  tasks : System.Tasks := {}
  submissions : List Submission := []
  /-- Everything that was done to others, oldest first. -/
  log : List Effect := []

namespace System

variable {World : Type}

/-- A gateway that has not connected yet, with nothing at work. -/
def start (settings : Settings) (world : World) : System World where
  gateway := .start settings world

/-- The gateway at the beginning of a turn in which it takes up no item. -/
def cleared (s : System World) : Gateway World :=
  { s.gateway with journal := [] }

/-- The system after a turn that left the gateway like this. -/
def leave (s : System World) (g : Gateway World) : System World :=
  { s with
    gateway := g
    tasks := g.journal.foldl Tasks.note s.tasks
    log := s.log ++ g.journal }

/-- The system after a turn, nothing for a turn that is not due. -/
def step? (link : Link World) (s : System World) : Turn → Option (System World)
  | .item time item =>
      (s.tasks.yield? item).map fun tasks =>
        { s with tasks := tasks }.leave (s.gateway.step link time item)
  | .submit issuer intent =>
      let submissions := s.submissions ++ [Submission.waiting issuer intent]
      some ({ s with submissions := submissions }.leave s.cleared)
  | .advance time number =>
      (s.submissions[number]?).map fun submission =>
        let (next, g) := submission.step link time s.cleared
        { s with submissions := s.submissions.set number next }.leave g
  | .raw text => some (s.leave (s.cleared.sendRaw link text).2)

/-- The system after a run, nothing if one of its turns is not due. -/
def run? (link : Link World) : System World → List Turn → Option (System World)
  | s, [] => some s
  | s, turn :: rest => (s.step? link turn).bind fun next => next.run? link rest

/-! ## Runs -/

variable {link : Link World}

/-- A turn goes from the tasks that take it up to the tasks that the gateway sets to work. -/
theorem of_step {s next : System World} {turn : Turn} (hstep : s.step? link turn = some next) :
    ∃ tasks, s.tasks.take? turn = some tasks ∧
      next.tasks = next.gateway.journal.foldl Tasks.note tasks ∧
      next.log = s.log ++ next.gateway.journal := by
  cases turn with
  | item time item =>
      rcases Option.map_eq_some_iff.mp hstep with ⟨tasks, htasks, rfl⟩
      exact ⟨tasks, htasks, rfl, rfl⟩
  | submit issuer intent =>
      cases hstep
      exact ⟨s.tasks, rfl, rfl, rfl⟩
  | advance time number =>
      rcases Option.map_eq_some_iff.mp hstep with ⟨submission, hsubmission, rfl⟩
      exact ⟨s.tasks, rfl, rfl, rfl⟩
  | raw text =>
      cases hstep
      exact ⟨s.tasks, rfl, rfl, rfl⟩

/-- Runs are put together and taken apart at any turn. -/
theorem run?_append (s : System World) (first second : List Turn) :
    s.run? link (first ++ second) =
      (s.run? link first).bind fun middle => middle.run? link second := by
  induction first generalizing s with
  | nil => rfl
  | cons turn rest ih =>
      cases hstep : s.step? link turn with
      | none => simp [run?, hstep]
      | some next => simp [run?, hstep, ih]

theorem run?_concat (s : System World) (turns : List Turn) (turn : Turn) :
    s.run? link (turns ++ [turn]) =
      (s.run? link turns).bind fun middle => middle.step? link turn := by
  rw [run?_append]
  simp [run?]

theorem run?_concat_of_eq {s middle next : System World} {turns : List Turn} {turn : Turn}
    (hrun : s.run? link turns = some middle) (hstep : middle.step? link turn = some next) :
    s.run? link (turns ++ [turn]) = some next := by
  rw [run?_concat, hrun]
  exact hstep

/-- What holds at the start and is kept by every turn holds along every run. -/
theorem run_induction {s : System World} {motive : List Turn → System World → Prop}
    (start : motive [] s)
    (turn : ∀ {turns turn middle next}, s.run? link turns = some middle → motive turns middle →
      middle.step? link turn = some next → motive (turns ++ [turn]) next)
    {turns : List Turn} {last : System World} (hrun : s.run? link turns = some last) :
    motive turns last := by
  induction turns using List.reverseRecOn generalizing last with
  | nil =>
      cases hrun
      exact start
  | append_singleton turns final ih =>
      rw [run?_concat, Option.bind_eq_some_iff] at hrun
      rcases hrun with ⟨middle, hmiddle, hstep⟩
      exact turn hmiddle (ih hmiddle) hstep

end System

end TerminalGateway
