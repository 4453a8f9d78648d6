import TerminalGateway.Proofs.Race.Basic

/-!
# The outlook of a gateway at work

While a gateway still has jobs to do, its core is not yet what it will be after the item.  What it
will be is already settled: submissions change neither the core nor the jobs, and how a job changes
the core depends on the core alone.  So the outlook on the core after the last job, with the marks
that are still to come, stays the same until then, and when no job is left a system is as sound as
if all of its items had been taken up as a whole.

Main definitions:

- `Job.outlook`, `foresee`: the outline after a job, and after several.
- `Race.IsSound`: a gateway at work that stands to its tasks as it should.

Main results:

- Theorem `foresee_perform`, `foresee_take`: doing a job does not change the outlook, and taking up
  an item makes it that of the whole item.
- Theorem `Race.IsSound.step`, `Race.isSound_of_run`: every turn and run leaves a race sound.
-/

namespace TerminalGateway

namespace Gateway

variable {World : Type}

/-! ## Outlines after jobs -/

/-- The outline after something happened to the connection. -/
def Outline.trigger (o : Outline) (trigger : Connection.Trigger) : Outline :=
  ⟨{ o.core with life := (o.core.life.apply trigger).2 },
    o.marks ++ [.triggered trigger (o.core.life.apply trigger).1]⟩

/-- The outline after the caller who waits was answered. -/
def Outline.answer (o : Outline) (result : Except GatewayError Unit) : Outline :=
  ⟨{ o.core with caller := none }, o.marks ++ o.core.answerMarks result⟩

/-- The outline after a session was begun, in whatever state. -/
def Outline.openSession (o : Outline) : Outline :=
  let o := o.trigger .connect
  let life := o.core.life.nextGeneration
  ⟨{ o.core with life := life, stage := .transport, session := some life.generation },
    o.marks ++ [.startSession life.generation]⟩

/-- The outline after the caller who waits was told, or another attempt was decided on. -/
def Outline.answerOrRetry (o : Outline) (error : ConnectError) : Outline :=
  match o.core.caller, o.core.life.policy.delay? o.core.life.attempts with
  | some _, _ => o.answer (.error (.connect error))
  | none, none => o
  | none, some delay =>
      let counted : Outline := { o with core := o.core.counted }
      if delay = 0 then counted.openSession
      else { counted with marks := o.marks ++ [.retryAfter o.core.life.generation delay] }

/-- The outline after a job and those that come next for it. -/
def Job.outlook (o : Outline) : Job → Outline
  | .takeWriter => { o with core := { o.core with writer := none } }
  | .retire trigger =>
      Outline.trigger
        { o with core := { o.core with life := o.core.life.nextGeneration, stage := .idle } } trigger
  | .answerOrRetry error => o.answerOrRetry error
  | .enter =>
      let o := o.trigger .replayDone
      Outline.answer
        { o with core := { o.core with ticker := some o.core.life.generation } } (.ok ())
  | .refuse error => o.answer (.error (.auth error))
  | .stop =>
      let o := o.answer (.error .stopped)
      { o with core := { o.core with running := false } }
  | _ => o

/-- The outline after several jobs. -/
def foresee (jobs : List Job) (o : Outline) : Outline :=
  jobs.foldl Job.outlook o

@[simp] theorem foresee_nil (o : Outline) : foresee [] o = o :=
  rfl

@[simp] theorem foresee_cons (job : Job) (rest : List Job) (o : Outline) :
    foresee (job :: rest) o = foresee rest (job.outlook o) :=
  rfl

theorem foresee_append (first second : List Job) (o : Outline) :
    foresee (first ++ second) o = foresee second (foresee first o) :=
  List.foldl_append

theorem outline_openSession_eq (g : Gateway World) :
    g.openSession.outline = g.outline.openSession := by
  have hopen : g.openSession.outline =
      ⟨{ (g.trigger .connect).nextGeneration.outline.core with
          stage := .transport
          session := some (g.trigger .connect).nextGeneration.outline.core.life.generation },
        (g.trigger .connect).nextGeneration.outline.marks ++
          [.startSession (g.trigger .connect).nextGeneration.outline.core.life.generation]⟩ :=
    outline_record_of_isMark _ rfl
  rw [hopen, outline_nextGeneration, outline_trigger]
  rfl

theorem outline_answerOrRetry_eq (g : Gateway World) (time : Reading) (error : ConnectError) :
    (g.answerOrRetry time error).outline = g.outline.answerOrRetry error := by
  have hcaller : g.outline.core.caller = g.caller := rfl
  have hlife : g.outline.core.life = g.life := rfl
  unfold Gateway.answerOrRetry Outline.answerOrRetry
  rw [hcaller, hlife]
  cases g.caller with
  | some caller => exact outline_answer g _
  | none =>
      unfold retry Connection.Lifecycle.scheduleRetry
      cases g.life.policy.delay? g.life.attempts with
      | none => exact outline_expireAll _ time
      | some delay =>
          dsimp only
          split
          · exact outline_openSession_eq _
          · exact outline_record_of_isMark _ rfl

/-- Doing a job does not change the outlook. -/
theorem foresee_perform (link : Link World) (shards : List (Nat → Bool)) (time : Reading)
    (g : Gateway World) (job : Job) :
    foresee (g.perform link shards time job).2 (g.perform link shards time job).1.outline =
      job.outlook g.outline := by
  cases job with
  | say texts =>
      cases texts with
      | nil => rfl
      | cons text rest =>
          have hsend := outline_send link g text
          rcases hsent : g.send link text with ⟨result, next⟩
          rw [hsent] at hsend
          cases result with
          | ok _ =>
              simp only [perform, hsent]
              exact hsend
          | error _ =>
              simp only [perform, hsent]
              exact hsend
  | takeWriter =>
      cases hwriter : g.writer with
      | none =>
          simp only [perform, hwriter]
          simp [Job.outlook, outline, hwriter]
      | some writer =>
          simp only [perform, hwriter]
          rfl
  | closeLine writer => exact outline_closeLine link g writer
  | retire trigger => exact outline_trigger _ trigger
  | answerOrRetry error =>
      have hwhole := outline_answerOrRetry_eq g time error
      unfold Gateway.answerOrRetry at hwhole
      cases hcaller : g.caller with
      | some caller =>
          simp only [hcaller] at hwhole
          simp only [perform, hcaller]
          exact hwhole
      | none =>
          simp only [hcaller] at hwhole
          rcases hretry : g.life.scheduleRetry with ⟨delay, life⟩
          cases delay with
          | none =>
              simp only [retry, hretry, hcaller, outline_expireAll] at hwhole
              simp only [perform, hcaller, hretry]
              exact hwhole
          | some delay =>
              simp only [perform, hcaller, hretry]
              exact hwhole
  | expire bound => rfl
  | look now bound parts found => cases parts <;> rfl
  | finish ids ended =>
      cases ids with
      | nil => exact outline_publishAll g _
      | cons id ids =>
          cases hfound : g.pending.find? id with
          | none =>
              simp only [perform, hfound]
              rfl
          | some entry =>
              simp only [perform, hfound]
              exact outline_record_of_not_isMark _ rfl
  | enter =>
      have henter : (g.perform link shards time .enter).1.outline =
          ((g.trigger .replayDone).startTicker.answer (.ok ())).outline := rfl
      refine henter.trans ?_
      rw [outline_answer, outline_startTicker, outline_trigger]
      rfl
  | release caller => exact outline_record_of_not_isMark g rfl
  | refuse error => exact outline_answer g _
  | stop =>
      have hstop : ∀ g' : Gateway World, { g' with running := false }.outline =
          { g'.outline with core := { g'.outline.core with running := false } } := fun _ => rfl
      exact (hstop _).trans (by rw [outline_answer]; rfl)

/-- Jobs that are worked off with nothing in between lead to what was foreseen. -/
theorem WorkedOff.outline_eq {link : Link World} {shards : List (Nat → Bool)} {time : Reading}
    {jobs : List Job} {g last : Gateway World} (h : WorkedOff link shards time jobs g last) :
    last.outline = foresee jobs g.outline := by
  induction h with
  | done g => rfl
  | job h ih =>
      rw [ih, foresee_append, foresee_perform]
      rfl

/-- Taking up an item makes the outlook that of the whole item. -/
theorem foresee_take (link : Link World) (time : Reading) {g : Gateway World}
    (htidy : g.pending.IsTidy) (item : Item) :
    foresee (g.take link time item).2 (g.take link time item).1.outline =
      (g.step link time item).outline :=
  (workedOff_take htidy item).outline_eq.symm

/-! ## Marks to come -/

/-- The outline with marks from before. -/
def Outline.after (o : Outline) (marks : List Effect) : Outline :=
  ⟨o.core, marks ++ o.marks⟩

theorem Outline.trigger_after (o : Outline) (marks : List Effect) (trigger : Connection.Trigger) :
    (o.after marks).trigger trigger = (o.trigger trigger).after marks := by
  simp [Outline.after, Outline.trigger]

theorem Outline.answer_after (o : Outline) (marks : List Effect)
    (result : Except GatewayError Unit) :
    (o.after marks).answer result = (o.answer result).after marks := by
  simp [Outline.after, Outline.answer]

theorem Outline.openSession_after (o : Outline) (marks : List Effect) :
    (o.after marks).openSession = o.openSession.after marks := by
  simp [Outline.after, Outline.openSession, Outline.trigger]

theorem Outline.answerOrRetry_after (o : Outline) (marks : List Effect) (error : ConnectError) :
    (o.after marks).answerOrRetry error = (o.answerOrRetry error).after marks := by
  have hcore : (o.after marks).core = o.core := rfl
  unfold Outline.answerOrRetry
  rw [hcore]
  split
  · exact o.answer_after marks _
  · rfl
  · dsimp only
    split
    · exact Outline.openSession_after ⟨o.core.counted, o.marks⟩ marks
    · simp [Outline.after]

/-- What a job does to an outline does not depend on the marks from before. -/
theorem Job.outlook_after (job : Job) (o : Outline) (marks : List Effect) :
    job.outlook (o.after marks) = (job.outlook o).after marks := by
  cases job with
  | retire trigger =>
      exact Outline.trigger_after
        { o with core := { o.core with life := o.core.life.nextGeneration, stage := .idle } }
        marks trigger
  | answerOrRetry error => exact o.answerOrRetry_after marks error
  | enter => simp [Job.outlook, Outline.after, Outline.trigger, Outline.answer]
  | refuse error => exact o.answer_after marks _
  | stop => simp [Job.outlook, Outline.after, Outline.answer]
  | _ => rfl

theorem foresee_after (jobs : List Job) (o : Outline) (marks : List Effect) :
    foresee jobs (o.after marks) = (foresee jobs o).after marks := by
  induction jobs generalizing o with
  | nil => rfl
  | cons job rest ih => rw [foresee_cons, foresee_cons, job.outlook_after, ih]

end Gateway

namespace System

open TerminalGateway.Gateway

variable {World : Type} {link : Link World} {s next : System World} {turn : Turn}

/-- What happens beside the gateway's own work changes nothing of its outline. -/
theorem outline_of_beside (hstep : s.step? link turn = some next)
    (hbeside : ∀ time item, turn ≠ .item time item) : next.gateway.outline = ⟨s.core, []⟩ := by
  cases turn with
  | item time item => exact absurd rfl (hbeside time item)
  | submit issuer intent =>
      cases hstep
      rfl
  | advance time number =>
      rcases Option.map_eq_some_iff.mp hstep with ⟨submission, -, rfl⟩
      exact outline_submission_step link time s.cleared submission
  | raw text =>
      cases hstep
      exact outline_sendRaw link s.cleared text

theorem core_of_beside (hstep : s.step? link turn = some next)
    (hbeside : ∀ time item, turn ≠ .item time item) : next.core = s.core := by
  rw [core, outline_of_beside hstep hbeside]

end System

namespace Race

open TerminalGateway.Gateway
open TerminalGateway.System (Sound Tasks)

variable {World : Type} {link : Link World} {shards : List (Nat → Bool)}

/-! ## Soundness -/

/-- The core that the gateway will have after its last job, and the marks that are still to come. -/
def outlook (r : Race World) : Outline :=
  foresee r.agenda ⟨r.system.core, []⟩

/-- The gateway will stand to its tasks as it should when it has done its jobs. -/
def IsSound (r : Race World) : Prop :=
  Sound r.outlook.core (r.system.tasks.noteAll r.outlook.marks)

/-- When no job is left a race is as sound as its system. -/
theorem IsSound.system {r : Race World} (hsound : r.IsSound) (hagenda : r.agenda = []) :
    r.system.IsSound := by
  unfold IsSound outlook at hsound
  rw [hagenda] at hsound
  exact hsound

/-- The marks of a job go from the outlook to the tasks. -/
theorem isSound_of_leave {s : System World} {g : Gateway World} {jobs : List Job} {o : Outline}
    (hforeseen : foresee jobs g.outline = o) (hsound : Sound o.core (s.tasks.noteAll o.marks)) :
    IsSound ⟨s.leave g, jobs⟩ := by
  have houtline : g.outline = Outline.after ⟨g.outline.core, []⟩ g.outline.marks := by
    simp [Outline.after]
  rw [houtline, foresee_after] at hforeseen
  have htasks : (s.leave g).tasks = s.tasks.noteAll g.outline.marks :=
    Tasks.foldl_note_eq_noteAll s.tasks g.journal
  have hcore : (s.leave g).core = g.outline.core := rfl
  unfold IsSound outlook
  rw [htasks, hcore, ← Tasks.noteAll_append]
  rw [← hforeseen] at hsound
  exact hsound

/-- A turn leaves a race sound. -/
theorem IsSound.step {r next : Race World} {turn : Turn} (hsound : r.IsSound)
    (htidy : r.system.gateway.pending.IsTidy) (hstep : Step link shards r turn next) :
    next.IsSound := by
  cases hstep with
  | @take time item tasks hagenda htasks =>
      refine isSound_of_leave (s := { r.system with tasks := tasks })
        (foresee_take link time htidy item) ?_
      exact (System.move_of_item (hsound.system hagenda) htasks).sound (hsound.system hagenda) htasks
  | @work time job rest hagenda =>
      refine isSound_of_leave (foresee_append _ _ _) ?_
      rw [foresee_perform]
      unfold IsSound outlook at hsound
      rw [hagenda] at hsound
      exact hsound
  | @beside turn aside s haside hstep =>
      have hbeside := not_item_of_beside? haside
      have houtline := System.outline_of_beside hstep hbeside
      rcases System.of_step hstep with ⟨tasks, htake, htasks, -⟩
      have hsame : s.tasks = r.system.tasks := by
        rw [htasks, Tasks.foldl_note_eq_noteAll]
        have hmarks : s.gateway.journal.filter Effect.isMark = [] :=
          congrArg Outline.marks houtline
        rw [hmarks]
        cases aside with
        | item time item => exact absurd rfl (hbeside time item)
        | _ => exact (Option.some.inj htake).symm
      have hcore : s.core = r.system.core := System.core_of_beside hstep hbeside
      unfold IsSound outlook at hsound ⊢
      dsimp only
      rw [hsame, hcore]
      exact hsound

end Race

end TerminalGateway
