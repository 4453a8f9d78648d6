import TerminalGateway.Proofs.System.Coverage
import TerminalGateway.Proofs.System.Login
import TerminalGateway.Proofs.System.Tally

/-!
# Malformed input

A frame that cannot be read, a message of which one row cannot be read, and a message of no known
kind have no effect: a run without them leaves the same system, but for what is counted.  What is
counted is told by what becomes of each frame of a current session.

Main definitions:

- `System.receptions`: what becomes of the frames that a run takes up in current sessions.
- `System.withoutInert`: the turns of a run but for those that take up a frame without effect.
- `System.Alike`: systems that differ in what is counted.

Main results:

- Theorem `System.gateway_of_inert`: a frame without effect is counted and changes nothing else.
- Theorem `System.Alike.step`: a turn does the same to systems that differ in what is counted.
- Theorem `System.malformed_inert`: every run is the same without the frames that have no effect.
-/

namespace TerminalGateway

namespace Gateway

/-! ## Counts of many frames -/

theorem Counters.add_assoc (first second third : Counters) :
    first + second + third = first + (second + third) := by
  simp only [Counters.add_def, Nat.add_assoc]

theorem Counters.zero_add (counters : Counters) : {} + counters = counters := by
  simp only [Counters.add_def, Nat.zero_add]

/-- Each frame is counted once, and counted as what becomes of it. -/
def Reception.tallied (receptions : List Reception) : Counters where
  frames := receptions.length
  decodeErrors := receptions.count .rejected
  unhandled := receptions.count .unhandled

theorem Reception.tallied_cons (reception : Reception) (rest : List Reception) :
    tallied (reception :: rest) = reception.count + tallied rest := by
  cases reception <;> simp [tallied, count, Counters.add_def, Nat.add_comm]

theorem Reception.tallied_append (first second : List Reception) :
    tallied (first ++ second) = tallied first + tallied second := by
  simp [tallied, Counters.add_def]

end Gateway

namespace System

open TerminalGateway.Gateway

variable {World : Type} {link : Link World}

/-! ## Frames of the current session -/

/-- What becomes of the frame that a turn takes up, if it is one of the current session. -/
def reception? (s : System World) : Turn → Option Reception
  | .item time (.transport generation (.frame bytes)) =>
      if s.gateway.running = true ∧ generation = s.gateway.life.generation then
        some (.ofFrame s.gateway.settings.encoding time.wall bytes)
      else none
  | _ => none

/-- A turn takes up a frame of the current session that has no effect. -/
def takesInert (s : System World) (turn : Turn) : Bool :=
  (s.reception? turn).any Reception.isInert

/-- What becomes of the frames that a run takes up in current sessions, oldest first. -/
def receptions (link : Link World) : System World → List Turn → List Reception
  | _, [] => []
  | s, turn :: rest =>
      match s.step? link turn with
      | some next => (s.reception? turn).toList ++ next.receptions link rest
      | none => []

/-- The turns of a run but for those that take up a frame without effect. -/
def withoutInert (link : Link World) : System World → List Turn → List Turn
  | _, [] => []
  | s, turn :: rest =>
      match s.step? link turn with
      | some next =>
          if s.takesInert turn then next.withoutInert link rest
          else turn :: next.withoutInert link rest
      | none => []

theorem reception?_eq_some {s : System World} {turn : Turn} {reception : Reception} :
    s.reception? turn = some reception ↔
      ∃ time bytes,
        turn = .item time (.transport s.gateway.life.generation (.frame bytes)) ∧
        s.gateway.running = true ∧
        reception = .ofFrame s.gateway.settings.encoding time.wall bytes := by
  unfold reception?
  constructor
  · intro h
    split at h
    · split at h
      · rename_i hcurrent
        obtain ⟨hrunning, rfl⟩ := hcurrent
        exact ⟨_, _, rfl, hrunning, (Option.some.inj h).symm⟩
      · cases h
    · cases h
  · rintro ⟨time, bytes, rfl, hrunning, rfl⟩
    exact if_pos ⟨hrunning, rfl⟩

/-- What a turn takes up has an effect, if the turn is left in. -/
theorem filter_of_not_takesInert {s : System World} {turn : Turn}
    (h : s.takesInert turn = false) :
    (s.reception? turn).toList.filter Reception.isInert = [] ∧
      (s.reception? turn).toList.filter (fun reception => !reception.isInert) =
        (s.reception? turn).toList := by
  unfold takesInert at h
  cases hreception : s.reception? turn with
  | none => exact ⟨rfl, rfl⟩
  | some reception =>
      rw [hreception] at h
      have hheard : reception.isInert = false := h
      simp [hheard]

/-- A frame of the current session is handed to the gateway, and only its effects are new. -/
theorem step_of_reception {s next : System World} {turn : Turn} {reception : Reception}
    (hreception : s.reception? turn = some reception) (hstep : s.step? link turn = some next) :
    ∃ time bytes, reception = .ofFrame s.gateway.settings.encoding time.wall bytes ∧
      next = s.leave (s.cleared.onFrame link time bytes) := by
  rcases reception?_eq_some.mp hreception with ⟨time, bytes, rfl, hrunning, rfl⟩
  rcases Option.map_eq_some_iff.mp hstep with ⟨tasks, htake, rfl⟩
  refine ⟨time, bytes, rfl, ?_⟩
  rcases Tasks.of_pass? htake with ⟨hsession, rfl⟩
  have hsame : s.tasks.advance s.gateway.life.generation .reading = s.tasks := by
    rw [Tasks.advance, ← hsession, Function.update_eq_self]
  have hcurrent : s.cleared.life.isCurrent s.gateway.life.generation :=
    (Connection.Lifecycle.isCurrent_iff _ _).mpr rfl
  have hhandle : s.gateway.step link time (.transport s.gateway.life.generation (.frame bytes)) =
      s.cleared.onFrame link time bytes := by
    unfold Gateway.step
    rw [if_pos hrunning]
    exact if_pos hcurrent
  rw [hsame, hhandle]

/-- A frame without effect is counted, and nothing else changes. -/
theorem gateway_of_inert {s next : System World} {turn : Turn} {reception : Reception}
    (hreception : s.reception? turn = some reception) (hinert : reception.isInert = true)
    (hstep : s.step? link turn = some next) :
    next = { s with gateway := s.cleared.shift id reception.count } := by
  rcases step_of_reception hreception hstep with ⟨time, bytes, rfl, rfl⟩
  have hframe := onFrame_of_isInert link s.cleared time hinert
  rw [hframe, leave]
  simp [shift, cleared]

/-! ## What a run counts -/

/-- A turn counts for what becomes of its frame. -/
theorem tally_of_step {s next : System World} {turn : Turn}
    (hstep : s.step? link turn = some next) :
    next.gateway.tally = s.gateway.tally + Reception.tallied (s.reception? turn).toList := by
  cases hreception : s.reception? turn with
  | some reception =>
      rcases step_of_reception hreception hstep with ⟨time, bytes, rfl, rfl⟩
      rw [Option.toList_some, Reception.tallied_cons]
      exact tally_onFrame link s.cleared time bytes
  | none =>
      change next.gateway.tally = s.gateway.tally
      cases turn with
      | item time item =>
          rcases Option.map_eq_some_iff.mp hstep with ⟨tasks, -, rfl⟩
          change (s.gateway.step link time item).tally = _
          unfold Gateway.step
          split <;> rename_i hrunning
          · refine tally_handle link _ time fun bytes hitem => ?_
            have hsome := reception?_eq_some.mpr ⟨time, bytes, congrArg (Turn.item time) hitem,
              hrunning, rfl⟩
            rw [hreception] at hsome
            cases hsome
          · rfl
      | submit issuer intent =>
          cases hstep
          rfl
      | advance time number =>
          rcases Option.map_eq_some_iff.mp hstep with ⟨submission, -, rfl⟩
          exact tally_submissionStep link time s.cleared submission
      | raw text =>
          cases hstep
          exact tally_sendRaw link s.cleared text

/-- A run counts for what becomes of the frames that it takes up in current sessions. -/
theorem tally_of_run {s last : System World} {turns : List Turn}
    (hrun : s.run? link turns = some last) :
    last.gateway.tally = s.gateway.tally + Reception.tallied (s.receptions link turns) := by
  induction turns generalizing s with
  | nil =>
      cases hrun
      rfl
  | cons turn rest ih =>
      rcases Option.bind_eq_some_iff.mp hrun with ⟨next, hstep, hrest⟩
      rw [ih hrest, tally_of_step hstep, Counters.add_assoc, ← Reception.tallied_append]
      simp only [receptions, hstep]

/-! ## Systems that differ in what is counted -/

/-- The first system is the second, with more counted. -/
structure Alike (more : Counters) (last kept : System World) : Prop where
  /-- The journal is that of the last turn alone, which may have had no effect. -/
  gateway : last.gateway = { kept.gateway.shift id more with journal := last.gateway.journal }
  submissions : last.submissions = kept.submissions
  tasks : last.tasks = kept.tasks
  /-- The same was done to others, in the same order. -/
  log : last.log = kept.log

namespace Alike

variable {more : Counters} {s kept next last : System World} {turn : Turn}

theorem refl (s : System World) : Alike {} s s :=
  ⟨rfl, rfl, rfl, rfl⟩

theorem cleared (h : Alike more s kept) : s.cleared = kept.cleared.shift id more := by
  rw [System.cleared, h.gateway]
  rfl

/-- Systems that differ in what is counted take a frame up alike. -/
theorem reception?_eq (h : Alike more s kept) (turn : Turn) :
    s.reception? turn = kept.reception? turn := by
  have hrunning : s.gateway.running = kept.gateway.running := by rw [h.gateway]; rfl
  have hlife : s.gateway.life = kept.gateway.life := by rw [h.gateway]; rfl
  have hsettings : s.gateway.settings = kept.gateway.settings := by rw [h.gateway]; rfl
  simp only [System.reception?, hrunning, hlife, hsettings]

/-- A turn does the same to systems that differ in what is counted. -/
theorem step (h : Alike more s kept) (hstep : s.step? link turn = some next) :
    ∃ keptNext, kept.step? link turn = some keptNext ∧ Alike more next keptNext := by
  have hcarries : ∀ writer, link.CarriesAll id writer :=
    fun _ current _ => link.carries_id current
  rcases of_step hstep with ⟨tasks, htake, -, -⟩
  rw [h.tasks] at htake
  rcases step?_shift h.cleared h.submissions (hcarries _)
      (fun _ _ _ _ writer _ => link.carries_id writer) htake hstep with
    ⟨taken, submissions, g, htaken, rfl, hkeptStep⟩
  rw [h.tasks, htake] at htaken
  obtain rfl : tasks = taken := Option.some.inj htaken
  refine ⟨_, hkeptStep, rfl, rfl, rfl, ?_⟩
  exact congrArg (· ++ g.journal) h.log

/-- A frame without effect may be left out. -/
theorem inert (h : Alike more s kept) {reception : Reception}
    (hreception : s.reception? turn = some reception) (hinert : reception.isInert = true)
    (hstep : s.step? link turn = some next) : Alike (more + reception.count) next kept := by
  obtain rfl := gateway_of_inert hreception hinert hstep
  refine ⟨?_, h.submissions, h.tasks, h.log⟩
  change s.cleared.shift id reception.count = _
  rw [h.cleared]
  simp only [shift, Counters.add_assoc]
  rfl

/-- A run and the run without the frames that have no effect lead to systems that differ in what
is counted of these frames, and the second takes up the other frames alone. -/
theorem run (h : Alike more s kept) {turns : List Turn} (hrun : s.run? link turns = some last) :
    ∃ keptLast, kept.run? link (s.withoutInert link turns) = some keptLast ∧
      Alike (more + Reception.tallied ((s.receptions link turns).filter Reception.isInert))
        last keptLast ∧
      kept.receptions link (s.withoutInert link turns) =
        (s.receptions link turns).filter fun reception => !reception.isInert := by
  induction turns generalizing more s kept with
  | nil =>
      cases hrun
      exact ⟨kept, rfl, h, rfl⟩
  | cons turn rest ih =>
      rcases Option.bind_eq_some_iff.mp hrun with ⟨next, hstep, hrest⟩
      cases htakes : s.takesInert turn with
      | true =>
          rcases (Option.any_eq_true _ _).mp htakes with ⟨reception, hreception, hinert⟩
          rcases ih (h.inert hreception hinert hstep) hrest with
            ⟨keptLast, hkeptRun, hlast, hheard⟩
          rw [Counters.add_assoc, ← Reception.tallied_cons] at hlast
          refine ⟨keptLast, ?_, ?_, ?_⟩
          · simpa [withoutInert, hstep, htakes] using hkeptRun
          · simpa [receptions, hstep, hreception, hinert] using hlast
          · simpa [withoutInert, receptions, hstep, htakes, hreception, hinert] using hheard
      | false =>
          rcases filter_of_not_takesInert htakes with ⟨hnone, hall⟩
          rcases h.step hstep with ⟨keptNext, hkeptStep, hnext⟩
          rcases ih hnext hrest with ⟨keptLast, hkeptRun, hlast, hheard⟩
          refine ⟨keptLast, ?_, ?_, ?_⟩
          · simpa [withoutInert, hstep, htakes, run?, hkeptStep] using hkeptRun
          · simpa [receptions, hstep, hnone] using hlast
          · rw [h.reception?_eq] at hall
            simpa [withoutInert, receptions, hstep, htakes, hkeptStep, h.reception?_eq, hall] using
              hheard

end Alike

/-! ## Runs without malformed input -/

/-- Every run is the same without the frames of current sessions that cannot be read, without the
messages that cannot be read to the end and without the messages of no known kind: the gateway,
its tasks and the submissions are the same, and the same was done to others in the same order.
Only the counts differ, by one frame for each that was left out and by one of what became of it.
What is counted over the whole run is each frame of a current session, and what became of it. -/
theorem malformed_inert {settings : Settings} {world : World} {turns : List Turn}
    {s : System World} (hrun : (start settings world).run? link turns = some s) :
    ∃ kept,
      (start settings world).run? link ((start settings world).withoutInert link turns) =
        some kept ∧
      Alike (Reception.tallied
        (((start settings world).receptions link turns).filter Reception.isInert)) s kept ∧
      (start settings world).receptions link ((start settings world).withoutInert link turns) =
        ((start settings world).receptions link turns).filter
          (fun reception => !reception.isInert) ∧
      s.gateway.tally = Reception.tallied ((start settings world).receptions link turns) := by
  rcases (Alike.refl _).run hrun with ⟨kept, hkept, halike, hheard⟩
  rw [Counters.zero_add] at halike
  have htally := tally_of_run hrun
  exact ⟨kept, hkept, halike, hheard, htally.trans (Counters.zero_add _)⟩

/-! ## A noisy session -/

/-- A bar of a minute of trading, as the web server writes it. -/
def minuteBar : String :=
  "\x7b\"d\":\"2024-01-15 10:00:00\",\"o\":1,\"h\":3,\"l\":1,\"c\":2,\"v\":10\x7d"

/-- A message with some bars of a share. -/
def hearBars (bars : String) : Turn :=
  hear 1 ("\x7b\"msgid\":21016,\"graph\":\x7b\"QJSIM¦SBER\":[" ++ bars ++ "]\x7d\x7d")

/-- A share is watched in a session of the web server.  A frame breaks off, a message is of no
known kind, and a message has a good bar and one without prices, before a message has a bar. -/
def noisy : List Turn :=
  .item midnight (.subscribe (share "SBER") 0 [.candle]) :: webLogin ++
    [webEntry, hear 1 "\x7b\"msgid\":21016,", hear 1 "\x7b\"msgid\":12345\x7d",
      hearBars (minuteBar ++ ",\x7b\"d\":\"2024-01-15 10:01:00\"\x7d"), hearBars minuteBar]

/-- Three frames of the noisy session have no effect. -/
theorem malformed_inert_noisy :
    ∃ s kept, (start webSettings ()).run? openLink noisy = some s ∧
      (start webSettings ()).run? openLink
        ((start webSettings ()).withoutInert openLink noisy) = some kept ∧
      (start webSettings ()).receptions openLink noisy =
        [.heard, .heard, .rejected, .unhandled, .rejected, .heard] ∧
      Alike { frames := 3, decodeErrors := 2, unhandled := 1 } s kept ∧
      s.gateway.tally = { frames := 6, decodeErrors := 2, unhandled := 1 } := by
  have hreceptions : (start webSettings ()).receptions openLink noisy =
      [.heard, .heard, .rejected, .unhandled, .rejected, .heard] := by decide +kernel
  have hdue : ((start webSettings ()).run? openLink noisy).isSome = true := by decide +kernel
  rcases Option.isSome_iff_exists.mp hdue with ⟨s, hrun⟩
  rcases malformed_inert hrun with ⟨kept, hkept, halike, -, htally⟩
  rw [hreceptions] at halike htally
  exact ⟨s, kept, hrun, hkept, hreceptions, halike, htally⟩

end System

end TerminalGateway
