import TerminalGateway.Proofs.Frame.Pieces
import TerminalGateway.Simulation.Attached
import TerminalGateway.Transport.Socket
import TerminalGateway.Transport.WebSocket

/-!
# The protocol of readers

A gateway relies on the order in which a reader reports: first the opening, then frames, answers to
probes and errors, and the end as the last word.  The readers of all three kinds of connections
keep to it, whatever arrives and whenever the gateway stops listening.  No frame that was read is
lost.  After the end a reader neither reads nor says anything.  After a report that nobody listened
to it reads nothing, and says nothing but this: the error of a failed connection and the end are
said together, so if nobody listened to the error the end is said all the same.

Main definitions:

- `Act`, `Reader.transcript`: what a reader does, step by step.
- `Act.readings`, `Act.said`, `Act.taken`: what was read and said, and what the gateway has taken.
- `Act.IsQuiet`: what may happen after the end and after a refusal.
- `Reader.Accords`: what a reader does agrees with what it has to report.
- `Reader.Keeps`: a reader keeps to the protocol for some arrivals up to the end.

Main results:

- Theorem `Reader.told_transcript`: what a reader says are its reports.
- Theorem `Reader.taken_transcript`: the gateway takes the first of them.
- Theorem `Reader.keeps_of_course`: a reader that ends with its last words keeps to the protocol.
- Theorem `keeps_of_readers`: the readers of lines, sockets and WebSockets do.
- Theorem `closed_after_refusal`: the end of a failed connection is said after a refusal.
- Theorem `Simulation.Attached.read_of_open`: what a reader at work puts into the queue are its
  reports.
-/

namespace TerminalGateway.Transport

/-! ## What a reader does -/

/-- One step of a reader. -/
inductive Act (ι : Type) where
  | read (arrival : ι)
  /-- It reports, and the gateway takes the report or not. -/
  | told (event : Event) (accepted : Bool)

namespace Act

variable {ι : Type}

/-- All that was read. -/
def readings (acts : List (Act ι)) : List ι :=
  acts.filterMap fun
    | .read arrival => some arrival
    | .told _ _ => none

/-- All that was said. -/
def said (acts : List (Act ι)) : List Event :=
  acts.filterMap fun
    | .read _ => none
    | .told event _ => some event

/-- All that the gateway has taken. -/
def taken (acts : List (Act ι)) : List Event :=
  acts.filterMap fun
    | .told event true => some event
    | _ => none

/-- The last word of a reader. -/
def isLast : Event → Bool
  | .closed _ => true
  | _ => false

/-- What may be left to do after a report that the gateway did not take: nothing, or to say the end
of a failed connection after its error. -/
def MayFollow (reason : CloseReason) (event : Event) (after : List (Act ι)) : Prop :=
  after = [] ∨ ∃ text, reason = .error text ∧ event = .error text ∧
    after = [.told (.closed reason) false]

/-- After the end nothing more is read or said.  After a report that the gateway did not take
nothing more is read, and nothing more said but the end of a failed connection after its error. -/
def IsQuiet (reason : CloseReason) (acts : List (Act ι)) : Prop :=
  ∀ before event accepted after, acts = before ++ .told event accepted :: after →
    (isLast event = true → after = []) ∧ (accepted = false → MayFollow reason event after)

@[simp] theorem readings_nil : readings ([] : List (Act ι)) = [] :=
  rfl

@[simp] theorem taken_nil : taken ([] : List (Act ι)) = [] :=
  rfl

@[simp] theorem said_nil : said ([] : List (Act ι)) = [] :=
  rfl

@[simp] theorem readings_read (arrival : ι) (acts : List (Act ι)) :
    readings (.read arrival :: acts) = arrival :: readings acts :=
  rfl

@[simp] theorem readings_told (event : Event) (accepted : Bool) (acts : List (Act ι)) :
    readings (.told event accepted :: acts) = readings acts :=
  rfl

@[simp] theorem said_read (arrival : ι) (acts : List (Act ι)) :
    said (.read arrival :: acts) = said acts :=
  rfl

@[simp] theorem said_told (event : Event) (accepted : Bool) (acts : List (Act ι)) :
    said (.told event accepted :: acts) = event :: said acts :=
  rfl

@[simp] theorem taken_read (arrival : ι) (acts : List (Act ι)) :
    taken (.read arrival :: acts) = taken acts :=
  rfl

@[simp] theorem taken_told (event : Event) (accepted : Bool) (acts : List (Act ι)) :
    taken (.told event accepted :: acts) =
      if accepted then event :: taken acts else taken acts := by
  cases accepted <;> rfl

@[simp] theorem readings_append (first second : List (Act ι)) :
    readings (first ++ second) = readings first ++ readings second :=
  List.filterMap_append

@[simp] theorem said_append (first second : List (Act ι)) :
    said (first ++ second) = said first ++ said second :=
  List.filterMap_append

@[simp] theorem taken_append (first second : List (Act ι)) :
    taken (first ++ second) = taken first ++ taken second :=
  List.filterMap_append

variable {reason : CloseReason} {acts : List (Act ι)}

theorem isQuiet_nil : IsQuiet reason ([] : List (Act ι)) := by
  intro before event accepted after hacts
  simp at hacts

theorem IsQuiet.read (h : IsQuiet reason acts) (arrival : ι) :
    IsQuiet reason (.read arrival :: acts) := by
  intro before event accepted after hacts
  cases before with
  | nil => simp at hacts
  | cons act before => exact h before event accepted after (List.cons.inj hacts).2

/-- A report is followed by nothing if it is the end, and by what may follow it if it is refused. -/
theorem IsQuiet.told (h : IsQuiet reason acts) {event : Event} {accepted : Bool}
    (hlast : isLast event = true → acts = []) (hrefused : accepted = false →
      MayFollow reason event acts) : IsQuiet reason (.told event accepted :: acts) := by
  intro before other answer after hacts
  cases before with
  | nil =>
      obtain ⟨hhead, rfl⟩ := List.cons.inj hacts
      cases hhead
      exact ⟨hlast, hrefused⟩
  | cons act before => exact h before other answer after (List.cons.inj hacts).2

end Act

namespace Reader

open Act

variable {σ ι : Type} {react : Reader σ ι}

/-- Says something to a gateway that takes some more reports. -/
def tell (patience : Nat) : List Event → List (Act ι)
  | [] => []
  | event :: rest => .told event (decide (0 < patience)) :: tell (patience - 1) rest

/-- What a reader does with arrivals once its connection is open. -/
def acts (react : Reader σ ι) (patience : Nat) (state : σ) : List ι → List (Act ι)
  | [] => []
  | arrival :: rest =>
      .read arrival ::
        match react state arrival with
        | .finish events => tell patience events
        | .goOn events next =>
            if events.length ≤ patience then
              tell patience events ++ acts react (patience - events.length) next rest
            else tell patience (events.take (patience + 1))

/-- What a reader does for a gateway that takes some reports and then no more. -/
def transcript (react : Reader σ ι) (patience : Nat) (state : σ) (arrivals : List ι) :
    List (Act ι) :=
  .told .opened (decide (0 < patience)) ::
    if 0 < patience then acts react (patience - 1) state arrivals else []

/-! ## Saying something -/

@[simp] theorem said_tell (patience : Nat) (events : List Event) :
    said (tell patience events : List (Act ι)) = events := by
  induction events generalizing patience with
  | nil => rfl
  | cons event rest ih => simp [tell, ih]

@[simp] theorem readings_tell (patience : Nat) (events : List Event) :
    readings (tell patience events : List (Act ι)) = [] := by
  induction events generalizing patience with
  | nil => rfl
  | cons event rest ih => simp [tell, ih]

@[simp] theorem taken_tell (patience : Nat) (events : List Event) :
    taken (tell patience events : List (Act ι)) = events.take patience := by
  induction events generalizing patience with
  | nil => simp [tell]
  | cons event rest ih =>
      cases patience with
      | zero => simp [tell, ih]
      | succ patience => simp [tell, ih]

/-- Words are followed by nothing if only the last of them may be refused. -/
theorem isQuiet_tell {reason : CloseReason} {patience : Nat} {events : List Event}
    (hwords : ∀ event ∈ events, isLast event = false) (hlength : events.length ≤ patience + 1) :
    IsQuiet reason (tell patience events : List (Act ι)) := by
  induction events generalizing patience with
  | nil => exact isQuiet_nil
  | cons event rest ih =>
      have hrest : rest.length ≤ patience := by simpa using hlength
      refine (ih (fun e he => hwords e (List.mem_cons_of_mem _ he)) (by omega)).told ?_ ?_
      · intro hlast
        simp [hwords event List.mem_cons_self] at hlast
      · intro hrefused
        obtain rfl : patience = 0 := by simpa using hrefused
        obtain rfl : rest = [] := List.length_eq_zero_iff.mp (Nat.le_zero.mp hrest)
        exact .inl rfl

/-- Words that are all taken may be followed by more. -/
theorem isQuiet_tell_append {reason : CloseReason} {patience : Nat} {events : List Event}
    {later : List (Act ι)} (hwords : ∀ event ∈ events, isLast event = false)
    (htaken : events.length ≤ patience) (hlater : IsQuiet reason later) :
    IsQuiet reason (tell patience events ++ later) := by
  induction events generalizing patience with
  | nil => exact hlater
  | cons event rest ih =>
      have hpositive : 0 < patience := by simp at htaken; omega
      refine (ih (fun e he => hwords e (List.mem_cons_of_mem _ he))
        (by simp at htaken; omega)).told ?_ ?_
      · simp [hwords event List.mem_cons_self]
      · simp [hpositive]

/-- The last words of a reader: the end, and the error before it if the connection failed. -/
def lastWords : CloseReason → List Event
  | .peer text => [.closed (.peer text)]
  | .error text => [.error text, .closed (.error text)]

/-- The end is followed by nothing, and an error that is refused by the end. -/
theorem isQuiet_tell_lastWords (reason : CloseReason) (patience : Nat) :
    IsQuiet reason (tell patience (lastWords reason) : List (Act ι)) := by
  have hend : ∀ patience, IsQuiet reason (tell patience [.closed reason] : List (Act ι)) :=
    fun _ => isQuiet_nil.told (fun _ => rfl) fun _ => .inl rfl
  cases reason with
  | peer text => exact hend patience
  | error text =>
      refine (hend (patience - 1)).told (by simp [isLast]) fun hrefused => ?_
      obtain rfl : patience = 0 := by simpa using hrefused
      exact .inr ⟨text, rfl, rfl, rfl⟩

/-! ## What a reader says are its reports -/

theorem said_acts (patience : Nat) (state : σ) (arrivals : List ι) :
    said (acts react patience state arrivals) = follow react patience state arrivals := by
  induction arrivals generalizing patience state with
  | nil => rfl
  | cons arrival rest ih =>
      simp only [acts, follow, said_read]
      cases react state arrival with
      | finish events => simp
      | goOn events next => dsimp only; split <;> simp [ih]

/-- What a reader says are its reports. -/
theorem told_transcript (patience : Nat) (state : σ) (arrivals : List ι) :
    said (transcript react patience state arrivals) = reports react patience state arrivals := by
  cases patience with
  | zero => simp [transcript, reports]
  | succ patience => simp [transcript, reports, said_acts]

/-- Of arrivals once the connection is open the gateway takes the first reports. -/
theorem taken_acts (patience : Nat) (state : σ) (arrivals : List ι) :
    taken (acts react patience state arrivals) =
      (follow react patience state arrivals).take patience := by
  induction arrivals generalizing patience state with
  | nil => simp [acts, follow]
  | cons arrival rest ih =>
      simp only [acts, follow, taken_read]
      cases react state arrival with
      | finish events => simp
      | goOn events next =>
          dsimp only
          split
          · rename_i hheard
            simp [ih, List.take_append, List.take_of_length_le hheard]
          · simp [List.take_take]

/-- The gateway takes the first reports of a reader. -/
theorem taken_transcript (patience : Nat) (state : σ) (arrivals : List ι) :
    taken (transcript react patience state arrivals) =
      (reports react patience state arrivals).take patience := by
  cases patience with
  | zero => simp [transcript]
  | succ patience => simp [transcript, reports, taken_acts]

/-! ## Up to the end -/

/-- What a reader says of arrivals of which none ends it, and its state after them. -/
def course? (react : Reader σ ι) : σ → List ι → Option (List Event × σ)
  | state, [] => some ([], state)
  | state, arrival :: rest =>
      match react state arrival with
      | .finish _ => none
      | .goOn events next =>
          (course? react next rest).map fun (later, last) => (events ++ later, last)

/-- A report between the opening and the end. -/
def isWord : Event → Bool
  | .frame _ => true
  | .error _ => true
  | .pong => true
  | _ => false

theorem isLast_of_isWord {event : Event} (h : isWord event = true) : isLast event = false := by
  cases event <;> simp [isWord, isLast] at h ⊢

/-- The frame that is reported. -/
def frame? : Event → Option (List UInt8)
  | .frame bytes => some bytes
  | _ => none

/-- What a reader does agrees with what it has to report: the opening, some words, and its last
words after the last arrival.  It says all of it up to the first report that the gateway does not
take, and its last words in full if it comes to them.  Nothing is read beyond the end, and
everything up to it is read if all words are taken. -/
structure Accords (body : List ι) (ending : ι) (words : List Event) (reason : CloseReason)
    (patience : Nat) (acts : List (Act ι)) : Prop where
  said_eq : said acts =
    if words.length < patience then .opened :: (words ++ lastWords reason)
    else (.opened :: words).take (patience + 1)
  taken_eq : taken acts = (.opened :: (words ++ lastWords reason)).take patience
  readings_prefix : readings acts <+: body ++ [ending]
  readings_eq : words.length < patience → readings acts = body ++ [ending]
  isQuiet : IsQuiet reason acts

/-- A reader keeps to the protocol for arrivals up to the end, which bring these frames, and which
fail with this text if they do.  However many reports the gateway takes, all are the opening, then
frames, answers to probes and errors, and at last the end, once. -/
def Keeps (react : Reader σ ι) (state : σ) (body : List ι) (ending : ι) (failure : Option String)
    (frames : List (List UInt8)) : Prop :=
  ∃ (words : List Event) (reason : CloseReason), (∀ event ∈ words, isWord event = true) ∧
    words.filterMap frame? = frames ∧ (∀ text, failure = some text ↔ reason = .error text) ∧
    ∀ patience rest, Accords body ending words reason patience
      (transcript react patience state (body ++ ending :: rest))

section Course

variable {state last : σ} {body : List ι} {ending : ι} {words final : List Event}
  {reason : CloseReason} {failure : Option String}

/-- A reader that reads on up to the end reads on after the first arrival. -/
theorem goOn_of_course {arrival : ι}
    (h : course? react state (arrival :: body) = some (words, last)) :
    ∃ events next later, react state arrival = .goOn events next ∧
      course? react next body = some (later, last) ∧ words = events ++ later := by
  cases hreact : react state arrival with
  | finish events => simp [course?, hreact] at h
  | goOn events next =>
      simp only [course?, hreact, Option.map_eq_some_iff] at h
      rcases h with ⟨⟨later, end_⟩, hrest, hpair⟩
      obtain ⟨rfl, rfl⟩ : events ++ later = words ∧ end_ = last := Prod.mk.inj hpair
      exact ⟨events, next, later, rfl, hrest, rfl⟩

/-- The reports of arrivals up to the end: the words of all that come before it and the last ones,
or the words up to the first that nobody listens to. -/
theorem follow_of_course (hcourse : course? react state body = some (words, last))
    (hending : react last ending = .finish final) (patience : Nat) (rest : List ι) :
    follow react patience state (body ++ ending :: rest) =
      if words.length ≤ patience then words ++ final else words.take (patience + 1) := by
  induction body generalizing state words patience with
  | nil =>
      obtain ⟨rfl, rfl⟩ : [] = words ∧ state = last := by simpa [course?] using hcourse
      simp [follow, hending]
  | cons arrival body ih =>
      rcases goOn_of_course hcourse with ⟨events, next, later, hreact, hrest, rfl⟩
      simp only [List.cons_append, follow, hreact, List.length_append]
      by_cases hheard : events.length ≤ patience
      · rw [if_pos hheard, ih hrest]
        by_cases hall : events.length + later.length ≤ patience
        · rw [if_pos (by omega), if_pos hall, List.append_assoc]
        · have hevents : events.take (patience + 1) = events := List.take_of_length_le (by omega)
          rw [if_neg (by omega), if_neg hall, List.take_append, hevents,
            Nat.sub_add_comm hheard]
      · rw [if_neg hheard, if_neg (by omega), List.take_append_of_le_length (by omega)]

/-- The reports from the opening on: all of them if the gateway comes to the last words, or those up
to the first that nobody listens to. -/
theorem reports_of_course (hcourse : course? react state body = some (words, last))
    (hending : react last ending = .finish final) (patience : Nat) (rest : List ι) :
    reports react patience state (body ++ ending :: rest) =
      if words.length < patience then .opened :: (words ++ final)
      else (.opened :: words).take (patience + 1) := by
  cases patience with
  | zero => simp [reports]
  | succ patience =>
      simp only [reports, follow_of_course hcourse hending, Nat.lt_succ_iff, List.take_succ_cons]
      split <;> rfl

/-- Arrivals are read up to the end if all words are taken, and never beyond it. -/
theorem readings_of_course (hcourse : course? react state body = some (words, last))
    (hending : react last ending = .finish final) (patience : Nat) (rest : List ι) :
    readings (acts react patience state (body ++ ending :: rest)) <+: body ++ [ending] ∧
      (words.length ≤ patience →
        readings (acts react patience state (body ++ ending :: rest)) = body ++ [ending]) := by
  induction body generalizing state words patience with
  | nil =>
      obtain ⟨rfl, rfl⟩ : [] = words ∧ state = last := by simpa [course?] using hcourse
      simp [acts, hending]
  | cons arrival body ih =>
      rcases goOn_of_course hcourse with ⟨events, next, later, hreact, hrest, rfl⟩
      simp only [List.cons_append, acts, hreact, List.length_append]
      by_cases hheard : events.length ≤ patience
      · rcases ih hrest (patience - events.length) with ⟨hread, hall⟩
        rw [if_pos hheard]
        refine ⟨by simpa using hread, fun hlong => ?_⟩
        simpa using hall (by omega)
      · rw [if_neg hheard]
        exact ⟨by simp, fun hlong => absurd hlong (by omega)⟩

/-- A reader is quiet after the end, and after a refusal before the end or at it. -/
theorem isQuiet_of_course (hcourse : course? react state body = some (words, last))
    (hwords : ∀ event ∈ words, isWord event = true)
    (hending : react last ending = .finish (lastWords reason)) (patience : Nat) (rest : List ι) :
    IsQuiet reason (acts react patience state (body ++ ending :: rest)) := by
  induction body generalizing state words patience with
  | nil =>
      obtain ⟨rfl, rfl⟩ : [] = words ∧ state = last := by simpa [course?] using hcourse
      simp only [List.nil_append, acts, hending]
      exact (isQuiet_tell_lastWords reason patience).read ending
  | cons arrival body ih =>
      rcases goOn_of_course hcourse with ⟨events, next, later, hreact, hrest, rfl⟩
      have hsaid : ∀ e ∈ events, isLast e = false := fun e he =>
        isLast_of_isWord (hwords e (List.mem_append_left _ he))
      have hlater := ih hrest (fun e he => hwords e (List.mem_append_right _ he))
        (patience - events.length)
      simp only [List.cons_append, acts, hreact]
      by_cases hheard : events.length ≤ patience
      · rw [if_pos hheard]
        exact (isQuiet_tell_append hsaid hheard hlater).read arrival
      · rw [if_neg hheard]
        exact (isQuiet_tell (fun e he => hsaid e (List.mem_of_mem_take he))
          (List.length_take_le _ _)).read arrival

/-- What a reader does for a gateway that takes the opening. -/
theorem transcript_succ (patience : Nat) (state : σ) (arrivals : List ι) :
    transcript react (patience + 1) state arrivals =
      .told .opened true :: acts react patience state arrivals := by
  simp [transcript]

/-- What a reader does agrees with its words if nothing but words comes before its last ones. -/
theorem accords_of_course (hcourse : course? react state body = some (words, last))
    (hwords : ∀ event ∈ words, isWord event = true)
    (hending : react last ending = .finish (lastWords reason)) (patience : Nat) (rest : List ι) :
    Accords body ending words reason patience
      (transcript react patience state (body ++ ending :: rest)) := by
  constructor
  case said_eq => rw [told_transcript, reports_of_course hcourse hending]
  case taken_eq =>
    rw [taken_transcript, reports_of_course hcourse hending]
    split
    · rfl
    · rename_i hmore
      rw [List.take_take, Nat.min_eq_left (Nat.le_succ patience), ← List.cons_append,
        List.take_append_of_le_length (by simp; omega)]
  case readings_prefix =>
    cases patience with
    | zero => exact List.nil_prefix
    | succ patience =>
        rw [transcript_succ, readings_told]
        exact (readings_of_course hcourse hending patience rest).1
  case readings_eq =>
    intro hlong
    cases patience with
    | zero => exact absurd hlong (Nat.not_lt_zero _)
    | succ patience =>
        rw [transcript_succ, readings_told]
        exact (readings_of_course hcourse hending patience rest).2 (Nat.le_of_lt_succ hlong)
  case isQuiet =>
    cases patience with
    | zero => exact isQuiet_nil.told (fun _ => rfl) fun _ => .inl rfl
    | succ patience =>
        rw [transcript_succ]
        exact (isQuiet_of_course hcourse hwords hending patience rest).told (by simp [isLast])
          (by simp)

/-- A reader keeps to the protocol if nothing but words comes before its last words. -/
theorem keeps_of_course (hcourse : course? react state body = some (words, last))
    (hwords : ∀ event ∈ words, isWord event = true)
    (hending : react last ending = .finish (lastWords reason))
    (hfailure : ∀ text, failure = some text ↔ reason = .error text) :
    Keeps react state body ending failure (words.filterMap frame?) :=
  ⟨words, reason, hwords, rfl, hfailure, accords_of_course hcourse hwords hending⟩

end Course

/-- What a reader without memory says of arrivals of which none ends it, if each brings one report
or none. -/
theorem course?_of_words {react : Reader Unit ι} {word? : ι → Option Event} {body : List ι}
    (hbody : ∀ arrival ∈ body, react () arrival = .goOn (word? arrival).toList ()) :
    course? react () body = some (body.filterMap word?, ()) := by
  induction body with
  | nil => rfl
  | cons arrival rest ih =>
      have hrest := ih fun a ha => hbody a (List.mem_cons_of_mem _ ha)
      simp only [course?, hbody arrival List.mem_cons_self, hrest, Option.map_some]
      cases hword : word? arrival <;> simp [hword]

/-- A reader without memory keeps to the protocol if each arrival before the end brings one word or
none. -/
theorem keeps_of_words {react : Reader Unit ι} {word? : ι → Option Event}
    {read? : ι → Option (List UInt8)} {body : List ι} {ending : ι} {reason : CloseReason}
    {failure : Option String}
    (hbody : ∀ arrival ∈ body, react () arrival = .goOn (word? arrival).toList ())
    (hword : ∀ arrival word, word? arrival = some word → isWord word = true)
    (hframe : ∀ arrival, (word? arrival).bind frame? = read? arrival)
    (hending : react () ending = .finish (lastWords reason))
    (hfailure : ∀ text, failure = some text ↔ reason = .error text) :
    Keeps react () body ending failure (body.filterMap read?) := by
  have hwords : ∀ event ∈ body.filterMap word?, isWord event = true := by
    intro event hevent
    rcases List.mem_filterMap.mp hevent with ⟨arrival, -, harrival⟩
    exact hword arrival event harrival
  have hframes : (body.filterMap word?).filterMap frame? = body.filterMap read? := by
    rw [List.filterMap_filterMap]
    exact List.filterMap_congr fun arrival _ => hframe arrival
  rw [← hframes]
  exact keeps_of_course (course?_of_words hbody) hwords hending hfailure

end Reader

/-! ## The three readers -/

open Reader

namespace Channel

/-- The arrival is the last that a reader takes up. -/
def Arrival.isEnd : Arrival → Bool
  | .close _ => true
  | .dropped => true
  | .closedLocally => true
  | _ => false

/-- The frame that arrives. -/
def Arrival.frame? : Arrival → Option (List UInt8)
  | .frame bytes => some bytes
  | _ => none

/-- What is reported of an arrival that is not the last. -/
def Arrival.word? : Arrival → Option Event
  | .frame bytes => some (.frame bytes)
  | .pong => some .pong
  | _ => none

/-- The reader of a line keeps to the protocol.  A line does not fail. -/
theorem keeps {body : List Arrival} {ending : Arrival}
    (hbody : ∀ arrival ∈ body, arrival.isEnd = false) (hending : ending.isEnd = true) :
    Keeps react () body ending none (body.filterMap Arrival.frame?) := by
  obtain ⟨text, hfinish⟩ : ∃ text, react () ending = .finish (lastWords (.peer text)) := by
    cases ending with
    | frame bytes => cases hending
    | pong => cases hending
    | _ => exact ⟨_, rfl⟩
  have hwords : ∀ arrival ∈ body, react () arrival = .goOn arrival.word?.toList () := by
    intro arrival harrival
    have hgoes := hbody arrival harrival
    cases arrival with
    | frame bytes => rfl
    | pong => rfl
    | _ => cases hgoes
  refine keeps_of_words hwords ?_ ?_ hfinish (by simp)
  · rintro ⟨⟩ word ⟨⟩ <;> rfl
  · rintro ⟨⟩ <;> rfl

end Channel

namespace Socket

open TerminalGateway.Frame (Splitter Cut)

/-- The arrival is the last that a reader takes up. -/
def Arrival.isEnd : Arrival → Bool
  | .bytes _ => false
  | _ => true

/-- The text of an arrival that tells of a failure. -/
def Arrival.failure? : Arrival → Option String
  | .failed cause => some cause
  | _ => none

/-- Of a socket a reader reports what its splitter makes of the reads. -/
theorem course?_react (splitter : Splitter) (reads : List (List UInt8)) :
    course? react splitter (reads.map Arrival.bytes) =
      some ((splitter.pushAll reads).1.map report, (splitter.pushAll reads).2) := by
  induction reads generalizing splitter with
  | nil => rfl
  | cons data rest ih => simp [course?, react, Splitter.pushAll, ih]

theorem isWord_report (cut : Cut) : isWord (report cut) = true := by
  cases cut <;> rfl

theorem frame?_report (cut : Cut) : frame? (report cut) = cut.frame? := by
  cases cut <;> rfl

/-- The reader of a socket keeps to the protocol. -/
theorem keeps (splitter : Splitter) (reads : List (List UInt8)) {ending : Arrival}
    (hending : ending.isEnd = true) :
    Keeps react splitter (reads.map Arrival.bytes) ending ending.failure?
      ((splitter.pushAll reads).1.filterMap Cut.frame?) := by
  have hwords : ∀ event ∈ (splitter.pushAll reads).1.map report, isWord event = true := by
    intro event hevent
    rcases List.mem_map.mp hevent with ⟨cut, -, rfl⟩
    exact isWord_report cut
  have hframes : ((splitter.pushAll reads).1.map report).filterMap frame? =
      (splitter.pushAll reads).1.filterMap Cut.frame? := by
    rw [List.filterMap_map]
    exact List.filterMap_congr fun cut _ => frame?_report cut
  have hcourse := course?_react splitter reads
  rw [← hframes]
  cases ending with
  | bytes data => cases hending
  | eof =>
      have hfinish : react (splitter.pushAll reads).2 .eof =
          .finish (lastWords (.peer "eof")) := rfl
      exact keeps_of_course hcourse hwords hfinish (by simp [Arrival.failure?])
  | failed text =>
      have hfinish : react (splitter.pushAll reads).2 (.failed text) =
          .finish (lastWords (.error text)) := rfl
      exact keeps_of_course hcourse hwords hfinish (by simp [Arrival.failure?])

end Socket

namespace WebSocket

/-- The arrival is the last that a reader takes up. -/
def Arrival.isEnd : Arrival → Bool
  | .close _ => true
  | .failed _ => true
  | .ended => true
  | _ => false

/-- The frame that arrives. -/
def Arrival.frame? : Arrival → Option (List UInt8)
  | .text characters => some (Text.Utf8.encode characters.toList)
  | .binary data => some data
  | _ => none

/-- The text of an arrival that tells of a failure. -/
def Arrival.failure? : Arrival → Option String
  | .failed cause => some cause
  | _ => none

/-- What is reported of an arrival that is not the last. -/
def Arrival.word? : Arrival → Option Event
  | .text characters => some (.frame (Text.Utf8.encode characters.toList))
  | .binary data => some (.frame data)
  | .pong _ => some .pong
  | _ => none

/-- The reader of a WebSocket keeps to the protocol. -/
theorem keeps {body : List Arrival} {ending : Arrival}
    (hbody : ∀ arrival ∈ body, arrival.isEnd = false) (hending : ending.isEnd = true) :
    Keeps react () body ending ending.failure? (body.filterMap Arrival.frame?) := by
  have hwords : ∀ arrival ∈ body, react () arrival = .goOn arrival.word?.toList () := by
    intro arrival harrival
    have hgoes := hbody arrival harrival
    cases arrival with
    | text _ => rfl
    | binary _ => rfl
    | ping _ => rfl
    | pong _ => rfl
    | _ => cases hgoes
  have hword : ∀ arrival word, Arrival.word? arrival = some word → isWord word = true := by
    rintro ⟨⟩ word ⟨⟩ <;> rfl
  have hframe : ∀ arrival, (Arrival.word? arrival).bind frame? = arrival.frame? := by
    rintro ⟨⟩ <;> rfl
  obtain ⟨reason, hfinish, hfailure⟩ : ∃ reason, react () ending = .finish (lastWords reason) ∧
      ∀ text, ending.failure? = some text ↔ reason = .error text := by
    cases ending with
    | close frame => exact ⟨.peer (closeText frame), rfl, by simp [Arrival.failure?]⟩
    | failed text => exact ⟨.error text, rfl, by simp [Arrival.failure?]⟩
    | ended => exact ⟨.peer "stream ended", rfl, by simp [Arrival.failure?]⟩
    | _ => cases hending
  exact keeps_of_words hwords hword hframe hfinish hfailure

end WebSocket

/-! ## Keeping to the protocol -/

/-- The readers of all kinds of connections keep to the protocol, whatever arrives before the end
and whatever the end is.  Lines do not fail.  Sockets and WebSockets may, and then their readers say
the error and the end together. -/
theorem keeps_of_readers :
    (∀ body ending, (∀ arrival ∈ body, Channel.Arrival.isEnd arrival = false) →
      Channel.Arrival.isEnd ending = true →
      Keeps Channel.react () body ending none (body.filterMap Channel.Arrival.frame?)) ∧
    (∀ splitter reads ending, Socket.Arrival.isEnd ending = true →
      Keeps Socket.react splitter (reads.map Socket.Arrival.bytes) ending ending.failure?
        ((splitter.pushAll reads).1.filterMap Frame.Cut.frame?)) ∧
    (∀ body ending, (∀ arrival ∈ body, WebSocket.Arrival.isEnd arrival = false) →
      WebSocket.Arrival.isEnd ending = true →
      Keeps WebSocket.react () body ending ending.failure?
        (body.filterMap WebSocket.Arrival.frame?)) :=
  ⟨fun _ _ => Channel.keeps, fun splitter reads _ => Socket.keeps splitter reads,
    fun _ _ => WebSocket.keeps⟩

/-- A socket whose messages end with a zero. -/
def zeroEnded : Frame.Splitter where
  delimiter := [0]
  maxLength := 8
  delimiter_ne := by simp

/-- A line is closed by the client when two frames are under way, a socket fails in the middle of a
frame, and a WebSocket is closed after a probe. -/
theorem keeps_of_readers_ends :
    Keeps Channel.react () [.frame [1], .pong, .frame [2]] .closedLocally none [[1], [2]] ∧
      Keeps Socket.react zeroEnded [.bytes [1, 0, 2], .bytes [2, 0, 3]] (.failed "reset")
        (some "reset") [[1], [2, 2]] ∧
      Keeps WebSocket.react () [.text "1", .ping [], .binary [2]] (.close none) none
        [[49], [2]] := by
  have hsocket := keeps_of_readers.2.1 zeroEnded [[1, 0, 2], [2, 0, 3]] (.failed "reset") rfl
  have hcuts : (zeroEnded.pushAll [[1, 0, 2], [2, 0, 3]]).1.filterMap Frame.Cut.frame? =
      [[1], [2, 2]] := by decide +kernel
  rw [hcuts] at hsocket
  exact ⟨keeps_of_readers.1 [.frame [1], .pong, .frame [2]] .closedLocally (by decide) rfl,
    hsocket, keeps_of_readers.2.2 [.text "1", .ping [], .binary [2]] (.close none) (by decide) rfl⟩

/-- A connection fails when the gateway has taken the opening and takes no more.  Socket and
WebSocket alike say the error, which is refused, and after it the end. -/
theorem closed_after_refusal :
    transcript Socket.react 1 zeroEnded [.failed "reset"] =
        [.told .opened true, .read (.failed "reset"), .told (.error "reset") false,
          .told (.closed (.error "reset")) false] ∧
      transcript WebSocket.react 1 () [.failed "reset"] =
        [.told .opened true, .read (.failed "reset"), .told (.error "reset") false,
          .told (.closed (.error "reset")) false] :=
  ⟨rfl, rfl⟩

end TerminalGateway.Transport

namespace TerminalGateway.Simulation.Attached

open TerminalGateway.Gateway (Item)
open TerminalGateway.Transport (Channel.Arrival Channel.react Hub Reader)

/-! ## A reader at work -/

/-- A queue with somebody to take from it takes every report. -/
theorem report_of_open (generation : Nat) {queue : Queue Item} (hopen : queue.isOpen = true)
    (events : List Transport.Event) :
    ∃ later, report generation queue events = (true, later) ∧ later.isOpen = true ∧
      later.items = queue.items ++ events.map (.transport generation) := by
  induction events generalizing queue with
  | nil => exact ⟨queue, rfl, hopen, by simp⟩
  | cons event rest ih =>
      obtain ⟨next, hpush, hnext, hitems⟩ : ∃ next,
          queue.push (.transport generation event) = (true, next) ∧ next.isOpen = true ∧
            next.items = queue.items ++ [.transport generation event] := by
        simp [Queue.push, Queue.raise, Queue.offer, hopen]
      rcases ih hnext with ⟨later, hreport, hlater, hrest⟩
      refine ⟨later, ?_, hlater, ?_⟩
      · simp only [report, hpush, hreport]
      · rw [hrest, hitems]
        simp

/-- What a reader at work puts into the queue are its reports. -/
theorem follow_of_open (generation : Nat) {queue : Queue Item} (hopen : queue.isOpen = true)
    {patience : Nat} {arrivals : List Channel.Arrival} (hpatience : arrivals.length ≤ patience) :
    (follow generation queue arrivals).2.items =
      queue.items ++ (Reader.follow Channel.react patience () arrivals).map
        (.transport generation) := by
  induction arrivals generalizing queue patience with
  | nil => simp [follow, Reader.follow]
  | cons arrival rest ih =>
      have hfinish : ∀ events, Channel.react () arrival = .finish events →
          (follow generation queue (arrival :: rest)).2.items =
            queue.items ++ (Reader.follow Channel.react patience () (arrival :: rest)).map
              (.transport generation) := by
        intro events hreact
        rcases report_of_open generation hopen events with ⟨later, hreport, -, hitems⟩
        simp only [follow, Reader.follow, hreact, hreport, hitems]
      have hgoOn : ∀ event, Channel.react () arrival = .goOn [event] () →
          (follow generation queue (arrival :: rest)).2.items =
            queue.items ++ (Reader.follow Channel.react patience () (arrival :: rest)).map
              (.transport generation) := by
        intro event hreact
        have hroom : 1 ≤ patience := by simp at hpatience; omega
        rcases report_of_open generation hopen [event] with ⟨later, hreport, hlater, hitems⟩
        simp only [follow, Reader.follow, hreact, hreport]
        have hfewer : rest.length ≤ patience - 1 := by simp at hpatience; omega
        rw [ih hlater hfewer, hitems]
        simp [hroom]
      cases arrival with
      | frame bytes => exact hgoOn _ rfl
      | pong => exact hgoOn _ rfl
      | close reason => exact hfinish _ rfl
      | dropped => exact hfinish _ rfl
      | closedLocally => exact hfinish _ rfl

/-- What a reader that begins its work on a line puts into the queue are its reports of the line,
the opening first. -/
theorem read_of_open (reader : Attached) (hub : Hub) {queue : Queue Item}
    (hopen : queue.isOpen = true) (hbegun : reader.begun = false) {patience : Nat}
    (hpatience : (hub.arrivals reader.line).length ≤ patience) :
    (reader.read hub queue).2.2.items =
      queue.items ++ (Reader.reports Channel.react (patience + 1) () (hub.arrivals reader.line)).map
        (.transport reader.generation) := by
  rcases report_of_open reader.generation hopen [.opened] with ⟨later, hreport, hlater, hitems⟩
  have hfollow := follow_of_open reader.generation hlater hpatience
  have hqueue : (reader.read hub queue).2.2 =
      (follow reader.generation later (hub.arrivals reader.line)).2 := by
    simp only [read, hbegun, hreport, if_true, Bool.false_eq_true, if_false]
    split <;> rfl
  rw [hqueue, hfollow, hitems]
  simp [Reader.reports]

end TerminalGateway.Simulation.Attached
