import TerminalGateway.Proofs.Race.Jobs

/-!
# Submissions beside a gateway at work

A gateway among its tasks whose items are taken up job by job, so that submissions may take steps
between any two jobs.  The next item is taken up when no job is left.

Main definitions:

- `Race`, `Race.Turn`: a system with the jobs that its gateway has left, and what may happen next.
- `Race.step?`, `Race.run?`: one turn, and a run of them; nothing where a turn is not due.

Main results:

- Theorem `Race.step_of_step?`: the three kinds of turns.
- Theorem `Race.run?_append`, `Race.run_induction`: runs turn by turn.
-/

namespace TerminalGateway

open TerminalGateway.Gateway (Effect Item Job Link Reading)

/-- A system with the jobs that its gateway has left for the item that it has taken up. -/
structure Race (World : Type) where
  system : System World
  agenda : List Job := []

namespace Race

/-- What may happen next. -/
inductive Turn where
  /-- The gateway takes up an item. -/
  | take (time : Reading) (item : Item)
  /-- The gateway does the next job of the item. -/
  | work (time : Reading)
  /-- A caller begins to submit a transaction. -/
  | submit (issuer : Nat) (intent : Intent)
  /-- A submission, known by its number, takes its next step. -/
  | advance (time : Reading) (number : Nat)
  /-- A caller writes a text of its own. -/
  | raw (text : String)

/-- The turn of the system, for what happens beside the gateway's own work. -/
def Turn.beside? : Turn → Option System.Turn
  | .submit issuer intent => some (.submit issuer intent)
  | .advance time number => some (.advance time number)
  | .raw text => some (.raw text)
  | _ => none

/-- The gateway takes up an item. -/
def Turn.isTake : Turn → Bool
  | .take _ _ => true
  | _ => false

variable {World : Type}

/-- A gateway that has not connected yet, with nothing at work. -/
def start (settings : Settings) (world : World) : Race World where
  system := .start settings world

/-- The race after a turn, nothing for a turn that is not due. -/
def step? (link : Link World) (shards : List (Nat → Bool)) (r : Race World) :
    Turn → Option (Race World)
  | .take time item =>
      match r.agenda with
      | [] =>
          (r.system.tasks.yield? item).map fun tasks =>
            let (g, jobs) := r.system.gateway.take link time item
            ⟨{ r.system with tasks := tasks }.leave g, jobs⟩
      | _ :: _ => none
  | .work time =>
      match r.agenda with
      | [] => none
      | job :: rest =>
          let (g, jobs) := r.system.cleared.perform link shards time job
          some ⟨r.system.leave g, jobs ++ rest⟩
  | .submit issuer intent =>
      (r.system.step? link (.submit issuer intent)).map fun s => ⟨s, r.agenda⟩
  | .advance time number =>
      (r.system.step? link (.advance time number)).map fun s => ⟨s, r.agenda⟩
  | .raw text => (r.system.step? link (.raw text)).map fun s => ⟨s, r.agenda⟩

/-- The race after a run, nothing if one of its turns is not due. -/
def run? (link : Link World) (shards : List (Nat → Bool)) :
    Race World → List Turn → Option (Race World)
  | r, [] => some r
  | r, turn :: rest => (r.step? link shards turn).bind fun next => next.run? link shards rest

/-! ## Turns -/

variable {link : Link World} {shards : List (Nat → Bool)}

/-- What a turn does. -/
inductive Step (link : Link World) (shards : List (Nat → Bool)) (r : Race World) :
    Turn → Race World → Prop where
  | take {time : Reading} {item : Item} {tasks : System.Tasks} (hagenda : r.agenda = [])
      (htasks : r.system.tasks.yield? item = some tasks) :
      Step link shards r (.take time item)
        ⟨{ r.system with tasks := tasks }.leave (r.system.gateway.take link time item).1,
          (r.system.gateway.take link time item).2⟩
  | work {time : Reading} {job : Job} {rest : List Job} (hagenda : r.agenda = job :: rest) :
      Step link shards r (.work time)
        ⟨r.system.leave (r.system.cleared.perform link shards time job).1,
          (r.system.cleared.perform link shards time job).2 ++ rest⟩
  | beside {turn : Turn} {aside : System.Turn} {s : System World}
      (haside : turn.beside? = some aside) (hstep : r.system.step? link aside = some s) :
      Step link shards r turn ⟨s, r.agenda⟩

/-- A turn takes up an item, does a job, or happens beside both. -/
theorem step_of_step? {r next : Race World} {turn : Turn}
    (hstep : r.step? link shards turn = some next) : Step link shards r turn next := by
  have hbeside : ∀ {aside : System.Turn}, turn.beside? = some aside →
      ((r.system.step? link aside).map fun s => (⟨s, r.agenda⟩ : Race World)) = some next →
        Step link shards r turn next := by
    intro aside haside hmap
    rcases Option.map_eq_some_iff.mp hmap with ⟨s, hs, rfl⟩
    exact .beside haside hs
  cases turn with
  | take time item =>
      simp only [step?] at hstep
      split at hstep <;> rename_i hagenda
      · rcases Option.map_eq_some_iff.mp hstep with ⟨tasks, htasks, rfl⟩
        exact .take hagenda htasks
      · cases hstep
  | work time =>
      simp only [step?] at hstep
      split at hstep <;> rename_i hagenda
      · cases hstep
      · cases hstep
        exact .work hagenda
  | submit issuer intent => exact hbeside rfl hstep
  | advance time number => exact hbeside rfl hstep
  | raw text => exact hbeside rfl hstep

/-- What happens beside the gateway's own work takes up no item. -/
theorem not_item_of_beside? {turn : Turn} {aside : System.Turn} (h : turn.beside? = some aside) :
    ∀ time item, aside ≠ .item time item := by
  cases turn <;> cases h <;> simp

/-! ## Runs -/

/-- Runs are put together and taken apart at any turn. -/
theorem run?_append (r : Race World) (first second : List Turn) :
    r.run? link shards (first ++ second) =
      (r.run? link shards first).bind fun middle => middle.run? link shards second := by
  induction first generalizing r with
  | nil => rfl
  | cons turn rest ih =>
      cases hstep : r.step? link shards turn with
      | none => simp [run?, hstep]
      | some next => simp [run?, hstep, ih]

/-- What holds at the start and is kept by every turn holds along every run. -/
theorem run_induction {r : Race World} {motive : List Turn → Race World → Prop}
    (start : motive [] r)
    (turn : ∀ {turns turn middle next}, motive turns middle →
      Step link shards middle turn next → motive (turns ++ [turn]) next)
    {turns : List Turn} {last : Race World} (hrun : r.run? link shards turns = some last) :
    motive turns last := by
  induction turns using List.reverseRecOn generalizing last with
  | nil =>
      cases hrun
      exact start
  | append_singleton turns final ih =>
      rw [run?_append, Option.bind_eq_some_iff] at hrun
      rcases hrun with ⟨middle, hmiddle, hlast⟩
      have hstep : middle.step? link shards final = some last := by simpa [run?] using hlast
      exact turn (ih hmiddle) (step_of_step? hstep)

end Race

end TerminalGateway
