import TerminalGateway.Proofs.Frame.Splitting

/-!
# Going on with a search

A splitter notes how far its bytes were searched, and goes on from there when more of them come.
A splitter without that note searches all its bytes each time.  Both cut a stream in the same
places, read by read, because the note never passes over a delimiter: not one that a read cut in
two, not one that overlaps itself, and not after a message was taken or thrown away.

Main definitions:

- `Rescanner`: a splitter that searches its buffer from the start each time.
- `Splitter.Passes`: the states a splitter passes through while it takes a read.
- `Splitter.SearchesAll`: a search that goes on passes over nothing.

Main results:

- Theorem `Splitter.Passes.searchesAll`: no search during a read passes over a delimiter.
- Theorem `Splitter.push_rescanner`: a read brings the same to both splitters.
- Theorem `Splitter.push_eq_rescan`: the same after any reads.
-/

namespace TerminalGateway.Frame

/-! ## Searching from the start -/

/-- A stream of bytes on its way to being split, without a note of how far it was searched. -/
structure Rescanner where
  delimiter : List UInt8
  /-- The greatest length of an unfinished message. -/
  maxLength : Nat
  /-- The bytes of the unfinished message. -/
  buffer : List UInt8 := []
  delimiter_ne : delimiter ≠ []

namespace Rescanner

/-- The position of the first delimiter, searched for from the start of the buffer. -/
def find? (r : Rescanner) : Option Nat :=
  Splitter.findFrom r.delimiter 0 r.buffer

/-- The splitter after the message that ends at a delimiter's position was taken. -/
def advance (r : Rescanner) (position : Nat) : Rescanner :=
  { r with buffer := r.buffer.drop (position + r.delimiter.length) }

variable {r : Rescanner}

theorem firstAt_of_find? {position : Nat} (hfind : r.find? = some position) :
    FirstAt r.delimiter r.buffer position := by
  rcases Splitter.firstAt_of_findFrom hfind with ⟨found, rfl, hfirst⟩
  rwa [Nat.zero_add]

theorem absent_of_find? (hfind : r.find? = none) : Absent r.delimiter r.buffer :=
  Splitter.absent_of_findFrom hfind

theorem length_advance_lt {position : Nat} (hfind : r.find? = some position) :
    (r.advance position).buffer.length < r.buffer.length := by
  have hend := (firstAt_of_find? hfind).occurs.end_le r.delimiter_ne
  have hpos := List.length_pos_iff.mpr r.delimiter_ne
  simp only [advance, List.length_drop]
  omega

/-- All complete segments of the buffer, behind those found before in reverse order, and the
splitter with the rest. -/
def segments (found : List (List UInt8)) (r : Rescanner) : List (List UInt8) × Rescanner :=
  match _found : r.find? with
  | none => (found.reverse, r)
  | some position => segments (r.buffer.take position :: found) (r.advance position)
termination_by r.buffer.length
decreasing_by exact length_advance_lt _found

theorem segments_of_none {found : List (List UInt8)} (hfind : r.find? = none) :
    segments found r = (found.reverse, r) := by
  rw [segments]
  split
  · rfl
  · simp_all

theorem segments_of_some {found : List (List UInt8)} {position : Nat}
    (hfind : r.find? = some position) :
    segments found r = segments (r.buffer.take position :: found) (r.advance position) := by
  rw [segments]
  split
  · simp_all
  · simp_all

/-- Takes a read. -/
def push (r : Rescanner) (data : List UInt8) : List Cut × Rescanner :=
  let (parts, rest) := segments [] { r with buffer := r.buffer ++ data }
  if rest.buffer.length ≤ rest.maxLength then (messages parts, rest)
  else (messages parts ++ [.oversize rest.maxLength], { rest with buffer := [] })

/-- Takes reads one after the other. -/
def pushAll (r : Rescanner) : List (List UInt8) → List Cut × Rescanner
  | [] => ([], r)
  | data :: reads =>
      let (cuts, next) := r.push data
      let (later, last) := next.pushAll reads
      (cuts ++ later, last)

theorem pushAll_cons (r : Rescanner) (data : List UInt8) (reads : List (List UInt8)) :
    r.pushAll (data :: reads) =
      ((r.push data).1 ++ ((r.push data).2.pushAll reads).1,
        ((r.push data).2.pushAll reads).2) :=
  rfl

end Rescanner

namespace Splitter

/-! ## The two searches -/

/-- The splitter with its note thrown away. -/
def rescanner (s : Splitter) : Rescanner where
  delimiter := s.delimiter
  maxLength := s.maxLength
  buffer := s.buffer
  delimiter_ne := s.delimiter_ne

variable {s t : Splitter} {data : List UInt8}

/-- A buffer without a delimiter is searched in vain. -/
theorem find?_rescanner_of_absent (habsent : Absent s.delimiter s.buffer) :
    s.rescanner.find? = none := by
  cases hfind : s.rescanner.find? with
  | none => rfl
  | some position => exact absurd (Rescanner.firstAt_of_find? hfind).occurs (habsent position)

/-- Where no delimiter ends within the bytes that were scanned, the search that goes on finds
what a search of the whole buffer finds: there is only one first delimiter. -/
theorem IsScanned.find?_eq (hscanned : s.IsScanned) : s.find? = s.rescanner.find? := by
  cases hfind : s.find? with
  | none => exact (find?_rescanner_of_absent (absent_of_find? hscanned hfind)).symm
  | some position =>
      have hfirst := firstAt_of_find? hscanned hfind
      cases hwhole : s.rescanner.find? with
      | none => exact absurd hfirst.occurs (Rescanner.absent_of_find? hwhole position)
      | some other => rw [hfirst.unique (Rescanner.firstAt_of_find? hwhole)]

/-- A search that goes on where the one before it stopped passes over nothing. -/
structure SearchesAll (s : Splitter) : Prop where
  scanned_le : s.scanned ≤ s.buffer.length
  /-- What is left to search is a part of the buffer. -/
  resumeAt_le : s.resumeAt ≤ s.buffer.length
  /-- No delimiter begins before the place where the search goes on. -/
  absent : ∀ position < s.resumeAt, ¬ OccursAt s.delimiter s.buffer position
  find?_eq : s.find? = s.rescanner.find?

theorem IsScanned.searchesAll (hscanned : s.IsScanned) : s.SearchesAll where
  scanned_le := hscanned.scanned_le
  resumeAt_le := Nat.le_trans (Nat.sub_le _ _) hscanned.scanned_le
  absent _ hlt := hscanned.of_lt_resumeAt hlt
  find?_eq := hscanned.find?_eq

/-! ## During a read -/

/-- The states a splitter passes through while it takes a read. -/
inductive Passes (s : Splitter) (data : List UInt8) : Splitter → Prop where
  /-- The new bytes are behind those that were kept. -/
  | extended : Passes s data { s with buffer := s.buffer ++ data }
  /-- A segment was taken with its delimiter. -/
  | taken {t : Splitter} {position : Nat} (h : Passes s data t) (hshort : t.isShort = false)
      (hfind : t.find? = some position) : Passes s data (t.advance position)
  /-- The search came to the end of the buffer. -/
  | searched {t : Splitter} (h : Passes s data t) (hshort : t.isShort = false)
      (hfind : t.find? = none) : Passes s data { t with scanned := t.buffer.length }
  /-- What was left is too long and was thrown away. -/
  | dropped {t : Splitter} (h : Passes s data t) (habsent : Absent t.delimiter t.buffer)
      (hlong : t.maxLength < t.buffer.length) :
      Passes s data { t with buffer := [], scanned := 0 }

/-- No delimiter ends within the bytes that were scanned, at any time during a read. -/
theorem Passes.isScanned (hsettled : s.IsSettled) (h : Passes s data t) : t.IsScanned := by
  induction h with
  | extended => exact (isScanned_of_absent hsettled.absent hsettled.scanned_le).append data
  | taken _ _ _ _ => exact isScanned_of_scanned_eq_zero rfl
  | searched _ _ hfind ih =>
      have habsent := absent_of_find? ih hfind
      exact isScanned_of_absent habsent (Nat.le_refl _)
  | dropped _ _ _ _ => exact isScanned_of_scanned_eq_zero rfl

/-- No search during a read passes over a delimiter. -/
theorem Passes.searchesAll (hsettled : s.IsSettled) (h : Passes s data t) : t.SearchesAll :=
  (h.isScanned hsettled).searchesAll

/-- Taking all segments is a part of a read. -/
theorem Passes.segments (found : List (List UInt8)) (h : Passes s data t) :
    Passes s data (t.segments found).2 := by
  induction found, t using segments.induct with
  | case1 found t hshort => rwa [Splitter.segments, dif_pos hshort]
  | case2 found t hshort hfind =>
      rw [Splitter.segments, dif_neg hshort, hfind]
      exact h.searched (Bool.eq_false_iff.mpr hshort) hfind
  | case3 found t hshort position hfind ih =>
      rw [Splitter.segments, dif_neg hshort, hfind]
      exact ih (h.taken (Bool.eq_false_iff.mpr hshort) hfind)

/-- The splitter that a read leaves is the last it passes through. -/
theorem IsSettled.passes_push (hsettled : s.IsSettled) (data : List UInt8) :
    Passes s data (s.push data).2 := by
  have hextended : Passes s data { s with buffer := s.buffer ++ data } := .extended
  have hlast := hextended.segments []
  rcases segments_spec [] _ (hextended.isScanned hsettled) with
    ⟨parts, rest, hparts, hsegmented, -, hdelimiter, -⟩
  rw [hparts] at hlast
  unfold push
  simp only [hparts]
  split <;> rename_i hfits
  · exact hlast
  · exact hlast.dropped (hdelimiter ▸ hsegmented.absent_tail) (Nat.lt_of_not_le hfits)

/-! ## The same from both splitters -/

/-- The same segments are taken by a splitter that searches from the start.  The induction is on
the splitter's own search; a short buffer, which it does not search, holds no delimiter. -/
theorem segments_rescanner (found : List (List UInt8)) (hscanned : s.IsScanned) :
    s.rescanner.segments found = ((s.segments found).1, (s.segments found).2.rescanner) := by
  induction found, s using segments.induct with
  | case1 found s hshort =>
      rw [segments, dif_pos hshort,
        Rescanner.segments_of_none (find?_rescanner_of_absent (absent_of_isShort hshort))]
  | case2 found s hshort hfind =>
      rw [segments, dif_neg hshort, hfind,
        Rescanner.segments_of_none (hscanned.find?_eq ▸ hfind)]
      rfl
  | case3 found s hshort position hfind ih =>
      rw [segments, dif_neg hshort, hfind,
        Rescanner.segments_of_some (hscanned.find?_eq ▸ hfind)]
      exact ih (isScanned_of_scanned_eq_zero rfl)

/-- A read brings the same messages to a splitter that searches from the start, and leaves it
with the same bytes. -/
theorem push_rescanner (hsettled : s.IsSettled) (data : List UInt8) :
    s.rescanner.push data = ((s.push data).1, (s.push data).2.rescanner) := by
  have hscanned : IsScanned { s with buffer := s.buffer ++ data } :=
    (isScanned_of_absent hsettled.absent hsettled.scanned_le).append data
  have hsegments : Rescanner.segments []
      { s.rescanner with buffer := s.rescanner.buffer ++ data } = _ :=
    segments_rescanner [] hscanned
  generalize hparts : segments [] { s with buffer := s.buffer ++ data } = taken at hsegments
  rcases taken with ⟨parts, rest⟩
  simp only [Rescanner.push, Splitter.push, hsegments, hparts]
  have hfits : (rest.rescanner.buffer.length ≤ rest.rescanner.maxLength) =
      (rest.buffer.length ≤ rest.maxLength) := rfl
  simp only [hfits]
  split
  · rfl
  · rfl

/-- What a read leaves holds no delimiter and is not too long. -/
theorem IsSettled.push (hsettled : s.IsSettled) (data : List UInt8) :
    (s.push data).2.IsSettled ∧ (s.push data).2.delimiter = s.delimiter ∧
      (s.push data).2.maxLength = s.maxLength ∧
      (s.push data).2.buffer.length ≤ s.maxLength := by
  rcases push_cases hsettled data with ⟨parts, tail, -, hdelimiter, hmax, hnext, hcases⟩
  refine ⟨hnext, hdelimiter, hmax, ?_⟩
  rcases hcases with ⟨hfits, -, hbuffer⟩ | ⟨-, -, hbuffer⟩
  · rwa [hbuffer]
  · rw [hbuffer]
    exact Nat.zero_le _

/-- Between the reads of a sequence a splitter is settled. -/
theorem IsSettled.pushAll (hsettled : s.IsSettled) (reads : List (List UInt8)) :
    (s.pushAll reads).2.IsSettled ∧ (s.pushAll reads).2.delimiter = s.delimiter ∧
      (s.pushAll reads).2.maxLength = s.maxLength := by
  induction reads generalizing s with
  | nil => exact ⟨hsettled, rfl, rfl⟩
  | cons data reads ih =>
      rcases hsettled.push data with ⟨hnext, hdelimiter, hmax, -⟩
      rw [pushAll_cons, ← hdelimiter, ← hmax]
      exact ih hnext

/-- A sequence of reads brings the same to both splitters. -/
theorem pushAll_rescanner (hsettled : s.IsSettled) (reads : List (List UInt8)) :
    s.rescanner.pushAll reads = ((s.pushAll reads).1, (s.pushAll reads).2.rescanner) := by
  induction reads generalizing s with
  | nil => rfl
  | cons data reads ih =>
      rw [Rescanner.pushAll_cons, pushAll_cons, push_rescanner hsettled data]
      dsimp only
      rw [ih (hsettled.push data).1]

/-- One read, taken by a splitter and by one that searches its buffer from the start. -/
structure ReadsAlike (delimiter : List UInt8) (maxLength : Nat) (s : Splitter) (r : Rescanner)
    (data : List UInt8) : Prop where
  cuts_eq : (s.push data).1 = (r.push data).1
  buffer_eq : (s.push data).2.buffer = (r.push data).2.buffer
  /-- No search passes over a delimiter, in any state from the first to the last. -/
  searches : ∀ t, Passes s data t → t.SearchesAll
  passes_last : Passes s data (s.push data).2
  /-- What is kept holds no delimiter. -/
  absent : Absent delimiter (s.push data).2.buffer
  length_le : (s.push data).2.pending ≤ maxLength

theorem IsSettled.readsAlike (hsettled : s.IsSettled) (data : List UInt8) :
    ReadsAlike s.delimiter s.maxLength s s.rescanner data := by
  have hsame := push_rescanner hsettled data
  rcases hsettled.push data with ⟨hnext, hdelimiter, -, hlength⟩
  refine ⟨?_, ?_, fun t h => h.searchesAll hsettled, hsettled.passes_push data, ?_, hlength⟩
  · rw [hsame]
  · rw [hsame]
    rfl
  · exact hdelimiter ▸ hnext.absent

/-- After any reads, a splitter takes the next as one does that searches its whole buffer each
time: the same comes out, messages that were thrown away included, the same bytes are kept, and
no search on the way passes over a delimiter or leaves the buffer. -/
theorem push_eq_rescan {delimiter : List UInt8} (hne : delimiter ≠ []) (maxLength : Nat) :
    ∃ s, ofDelimiter delimiter maxLength = .ok s ∧ ∀ reads data,
      (s.pushAll reads).1 =
          ((Rescanner.mk delimiter maxLength [] hne).pushAll reads).1 ∧
        ReadsAlike delimiter maxLength (s.pushAll reads).2
          ((Rescanner.mk delimiter maxLength [] hne).pushAll reads).2 data := by
  refine ⟨⟨delimiter, maxLength, [], 0, hne⟩, dif_neg hne, fun reads data => ?_⟩
  have hfirst : IsSettled ⟨delimiter, maxLength, [], 0, hne⟩ := ⟨absent_nil hne, Nat.le_refl _⟩
  have hsame := pushAll_rescanner hfirst reads
  rcases hfirst.pushAll reads with ⟨hlast, hdelimiter, hmax⟩
  have halike := hlast.readsAlike data
  rw [hdelimiter, hmax] at halike
  simp only [rescanner] at hsame
  rw [hsame]
  exact ⟨rfl, halike⟩

/-- A delimiter that overlaps itself is found where a read cut it, and the rest is thrown away
when it is too long, by both splitters. -/
theorem push_eq_rescan_overlapping :
    ∃ s, ofDelimiter [1, 1] 2 = .ok s ∧
      (s.pushAll [[2, 1]]).2.scanned = 2 ∧
      ((s.pushAll [[2, 1]]).2.push [1, 1, 3, 3]).1 = [.frame [2], .oversize 2] ∧
      ReadsAlike [1, 1] 2 (s.pushAll [[2, 1]]).2
        ((Rescanner.mk [1, 1] 2 [] (by decide)).pushAll [[2, 1]]).2 [1, 1, 3, 3] := by
  have hne : ([1, 1] : List UInt8) ≠ [] := by decide
  rcases push_eq_rescan hne 2 with ⟨s, hs, hall⟩
  refine ⟨s, hs, ?_, ?_, (hall [[2, 1]] [1, 1, 3, 3]).2⟩
  · cases hs
    decide +kernel
  · cases hs
    decide +kernel

end Splitter

end TerminalGateway.Frame
