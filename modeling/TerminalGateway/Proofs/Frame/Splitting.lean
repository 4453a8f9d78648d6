import TerminalGateway.Proofs.Frame.Search

/-!
# Splitting a stream

The messages of a stream are the segments between its delimiters: the stream is cut at the first
occurrence of the delimiter, and what follows that occurrence is cut in the same way.  A splitter
gets the stream in reads of any lengths.  However it is cut into reads, the same messages come out
and the same unfinished one is kept, as long as none grows too long.

Main definitions:

- `Segmented`: the segments of a text, and what comes behind the last delimiter.
- `messages`: what a splitter makes of segments.
- `Splitter.pushAll`, `Splitter.Fits`: a sequence of reads, and one in which nothing is thrown
  away.

Main results:

- Theorem `Segmented.append`: a text that goes on is segmented from its unfinished end.
- Theorem `Splitter.push_cases`: what a single read brings.
- Theorem `Splitter.segmented_of_fits`: what a sequence of reads brings.
- Theorem `Splitter.messages_of_stream`: the same for every way to cut a stream.
-/

namespace TerminalGateway.Frame

/-! ## Segments -/

/-- The segments of a text between the occurrences of a delimiter, taken from the left and without
overlap, and what comes behind the last of them. -/
inductive Segmented (delimiter : List UInt8) :
    List UInt8 → List (List UInt8) → List UInt8 → Prop where
  | tail {text} (habsent : Absent delimiter text) : Segmented delimiter text [] text
  | cut {text position segments tail} (hfirst : FirstAt delimiter text position)
      (hrest : Segmented delimiter (text.drop (position + delimiter.length)) segments tail) :
      Segmented delimiter text (text.take position :: segments) tail

namespace Segmented

variable {delimiter text tail : List UInt8} {segments : List (List UInt8)}

/-- No delimiter is left behind the last one. -/
theorem absent_tail (h : Segmented delimiter text segments tail) : Absent delimiter tail := by
  induction h with
  | tail habsent => exact habsent
  | cut hfirst hrest ih => exact ih

/-- A text has its segments in one way only. -/
theorem unique {others : List (List UInt8)} {other : List UInt8}
    (h : Segmented delimiter text segments tail)
    (hother : Segmented delimiter text others other) : segments = others ∧ tail = other := by
  induction h generalizing others with
  | tail habsent =>
      cases hother with
      | tail _ => exact ⟨rfl, rfl⟩
      | cut hfirst _ => exact absurd hfirst.occurs (habsent _)
  | cut hfirst hrest ih =>
      cases hother with
      | tail habsent => exact absurd hfirst.occurs (habsent _)
      | cut hsecond hlater =>
          obtain rfl := hfirst.unique hsecond
          rcases ih hlater with ⟨rfl, rfl⟩
          exact ⟨rfl, rfl⟩

/-- When a text goes on, its segments stay, and what follows them is segmented from its
unfinished end. -/
theorem append (hne : delimiter ≠ []) {more last : List UInt8} {later : List (List UInt8)}
    (h : Segmented delimiter text segments tail)
    (hlater : Segmented delimiter (tail ++ more) later last) :
    Segmented delimiter (text ++ more) (segments ++ later) last := by
  induction h with
  | tail habsent => exact hlater
  | @cut text position segments tail hfirst hrest ih =>
      have hend := hfirst.occurs.end_le hne
      have htake : (text ++ more).take position = text.take position :=
        List.take_append_of_le_length (by omega)
      have hdrop : (text ++ more).drop (position + delimiter.length) =
          text.drop (position + delimiter.length) ++ more :=
        List.drop_append_of_le_length hend
      rw [List.cons_append, ← htake]
      refine .cut (hfirst.append hne more) ?_
      rw [hdrop]
      exact ih hlater

end Segmented

/-- The messages among segments: those that are not empty. -/
def messages (segments : List (List UInt8)) : List Cut :=
  (segments.filter fun segment => !segment.isEmpty).map .frame

theorem messages_append (first second : List (List UInt8)) :
    messages (first ++ second) = messages first ++ messages second := by
  simp [messages]

/-! ## A single read -/

namespace Splitter

/-- Only bytes that were scanned are passed over, so a buffer may grow. -/
theorem IsScanned.append {s : Splitter} (h : s.IsScanned) (data : List UInt8) :
    { s with buffer := s.buffer ++ data }.IsScanned where
  scanned_le := by
    have hle := h.scanned_le
    simp only [List.length_append]
    omega
  absent position hend := by
    have hwithin : position + s.delimiter.length ≤ s.buffer.length :=
      Nat.le_trans hend h.scanned_le
    exact fun hoccurs => h.absent position hend ((occursAt_append hwithin data).mp hoccurs)

/-- A buffer without a delimiter was scanned however far the search went. -/
theorem isScanned_of_absent {s : Splitter} (habsent : Absent s.delimiter s.buffer)
    (hle : s.scanned ≤ s.buffer.length) : s.IsScanned :=
  ⟨hle, fun position _ => habsent position⟩

/-- Where nothing was scanned nothing is passed over. -/
theorem isScanned_of_scanned_eq_zero {s : Splitter} (hzero : s.scanned = 0) : s.IsScanned where
  scanned_le := by omega
  absent position hend := by
    have hpos := s.delimiter_pos
    omega

/-- A splitter takes all complete segments from its buffer and keeps the rest. -/
theorem segments_spec (found : List (List UInt8)) (s : Splitter) (hscanned : s.IsScanned) :
    ∃ parts rest, segments found s = (found.reverse ++ parts, rest) ∧
      Segmented s.delimiter s.buffer parts rest.buffer ∧ rest.IsScanned ∧
      rest.delimiter = s.delimiter ∧ rest.maxLength = s.maxLength := by
  induction found, s using segments.induct with
  | case1 found s hshort =>
      refine ⟨[], s, ?_, .tail (absent_of_isShort hshort), hscanned, rfl, rfl⟩
      rw [segments, dif_pos hshort, List.append_nil]
  | case2 found s hshort hfind =>
      have habsent := absent_of_find? hscanned hfind
      refine ⟨[], { s with scanned := s.buffer.length }, ?_, .tail habsent,
        isScanned_of_absent habsent (Nat.le_refl _), rfl, rfl⟩
      rw [segments, dif_neg hshort, hfind, List.append_nil]
  | case3 found s hshort position hfind ih =>
      rcases ih (isScanned_of_scanned_eq_zero rfl) with
        ⟨parts, rest, hparts, hsegmented, hrest, hdelimiter, hlength⟩
      refine ⟨s.buffer.take position :: parts, rest, ?_,
        .cut (firstAt_of_find? hscanned hfind) hsegmented, hrest, hdelimiter, hlength⟩
      rw [segments, dif_neg hshort, hfind]
      simp only [hparts, List.reverse_cons, List.append_assoc, List.singleton_append]

/-- A splitter between two reads: its buffer holds no delimiter. -/
structure IsSettled (s : Splitter) : Prop where
  absent : Absent s.delimiter s.buffer
  scanned_le : s.scanned ≤ s.buffer.length

/-- A read completes the segments of what was kept and what is new.  What comes behind the last
delimiter is kept, unless it is too long: then it is thrown away, and this is reported after the
messages. -/
theorem push_cases {s : Splitter} (hsettled : s.IsSettled) (data : List UInt8) :
    ∃ parts tail, Segmented s.delimiter (s.buffer ++ data) parts tail ∧
      (s.push data).2.delimiter = s.delimiter ∧ (s.push data).2.maxLength = s.maxLength ∧
      (s.push data).2.IsSettled ∧
      ((tail.length ≤ s.maxLength ∧ (s.push data).1 = messages parts ∧
          (s.push data).2.buffer = tail) ∨
        (s.maxLength < tail.length ∧
          (s.push data).1 = messages parts ++ [.oversize s.maxLength] ∧
          (s.push data).2.buffer = [])) := by
  have hscanned := (isScanned_of_absent hsettled.absent hsettled.scanned_le).append data
  rcases segments_spec [] _ hscanned with
    ⟨parts, rest, hparts, hsegmented, hrest, hdelimiter, hlength⟩
  simp only at hsegmented hdelimiter hlength
  refine ⟨parts, rest.buffer, hsegmented, ?_⟩
  unfold push
  simp only [hparts, List.reverse_nil, List.nil_append]
  split <;> rename_i hfits <;> rw [hlength] at hfits
  · have habsent : Absent rest.delimiter rest.buffer := hdelimiter ▸ hsegmented.absent_tail
    exact ⟨hdelimiter, hlength, ⟨habsent, hrest.scanned_le⟩, .inl ⟨hfits, rfl, rfl⟩⟩
  · refine ⟨hdelimiter, hlength, ⟨absent_nil rest.delimiter_ne, Nat.le_refl _⟩,
      .inr ⟨Nat.lt_of_not_le hfits, ?_, rfl⟩⟩
    rw [hlength]
    rfl

/-! ## A sequence of reads -/

/-- Takes reads one after the other. -/
def pushAll (s : Splitter) : List (List UInt8) → List Cut × Splitter
  | [] => ([], s)
  | data :: reads =>
      let (cuts, next) := s.push data
      let (later, last) := next.pushAll reads
      (cuts ++ later, last)

theorem pushAll_cons (s : Splitter) (data : List UInt8) (reads : List (List UInt8)) :
    s.pushAll (data :: reads) =
      ((s.push data).1 ++ ((s.push data).2.pushAll reads).1,
        ((s.push data).2.pushAll reads).2) :=
  rfl

/-- Nothing is thrown away for being too long. -/
def Fits (s : Splitter) (reads : List (List UInt8)) : Prop :=
  ∀ limit, .oversize limit ∉ (s.pushAll reads).1

/-- Where nothing is thrown away, reads complete the segments of what was kept and all that is
new. -/
theorem segmented_of_fits {s : Splitter} (hsettled : s.IsSettled) {reads : List (List UInt8)}
    (hfits : s.Fits reads) :
    ∃ parts, Segmented s.delimiter (s.buffer ++ reads.flatten) parts (s.pushAll reads).2.buffer ∧
      (s.pushAll reads).1 = messages parts := by
  induction reads generalizing s with
  | nil =>
      refine ⟨[], ?_, rfl⟩
      rw [List.flatten_nil, List.append_nil]
      exact .tail hsettled.absent
  | cons data reads ih =>
      rcases push_cases hsettled data with
        ⟨parts, tail, hsegmented, hdelimiter, -, hnext, hcases⟩
      have hcuts : (s.pushAll (data :: reads)).1 =
          (s.push data).1 ++ ((s.push data).2.pushAll reads).1 := rfl
      have hlater : (s.push data).2.Fits reads := fun limit hmem =>
        hfits limit (hcuts ▸ List.mem_append_right _ hmem)
      rcases ih hnext hlater with ⟨later, hrest, hmessages⟩
      rcases hcases with ⟨-, hpushed, hbuffer⟩ | ⟨-, hpushed, -⟩
      · rw [hdelimiter, hbuffer] at hrest
        refine ⟨parts ++ later, ?_, ?_⟩
        · rw [List.flatten_cons, ← List.append_assoc]
          exact hsegmented.append s.delimiter_ne hrest
        · rw [hcuts, hpushed, hmessages, messages_append]
      · exact absurd (hcuts ▸ List.mem_append_left _ (by simp [hpushed])) (hfits s.maxLength)

/-- Every text has its segments. -/
theorem exists_segmented {delimiter : List UInt8} (hne : delimiter ≠ []) (text : List UInt8) :
    ∃ segments tail, Segmented delimiter text segments tail := by
  have hsettled : IsSettled ⟨delimiter, 0, [], 0, hne⟩ := ⟨absent_nil hne, Nat.le_refl _⟩
  rcases push_cases hsettled text with ⟨segments, tail, hsegmented, -⟩
  exact ⟨segments, tail, hsegmented⟩

/-- Before the first read nothing but the buffer is unfinished. -/
theorem IsSettled.tail_eq {s : Splitter} (h : s.IsSettled) {segments : List (List UInt8)}
    {tail : List UInt8} (hsegmented : Segmented s.delimiter (s.buffer ++ [].flatten) segments tail) :
    tail = s.buffer := by
  rw [List.flatten_nil, List.append_nil] at hsegmented
  exact (hsegmented.unique (.tail h.absent)).2

/-- Nothing is thrown away exactly if after none of the reads what is unfinished is too long.  By
induction on the reads: a read that throws nothing away leaves the unfinished end of what came. -/
theorem fits_iff {s : Splitter} (hsettled : s.IsSettled) (hbuffer : s.buffer.length ≤ s.maxLength)
    (reads : List (List UInt8)) :
    s.Fits reads ↔ ∀ early, early <+: reads → ∀ segments tail,
      Segmented s.delimiter (s.buffer ++ early.flatten) segments tail →
        tail.length ≤ s.maxLength := by
  induction reads generalizing s with
  | nil =>
      refine iff_of_true (fun limit hmem => absurd hmem List.not_mem_nil) ?_
      intro early hearly segments tail hsegmented
      obtain rfl := List.prefix_nil.mp hearly
      rwa [hsettled.tail_eq hsegmented]
  | cons data reads ih =>
      rcases push_cases hsettled data with
        ⟨parts, tail, hsegmented, hdelimiter, hmax, hnext, hcases⟩
      rcases hcases with ⟨htail, hpushed, hkept⟩ | ⟨htail, hpushed, -⟩
      · have hgoesOn : ∀ {more segments last}, Segmented s.delimiter (tail ++ more) segments last →
            Segmented s.delimiter (s.buffer ++ (data ++ more)) (parts ++ segments) last := by
          intro more segments last hlast
          rw [← List.append_assoc]
          exact hsegmented.append s.delimiter_ne hlast
        have hfirst : s.Fits (data :: reads) ↔ (s.push data).2.Fits reads := by
          unfold Fits
          simp [pushAll_cons, hpushed, messages]
        rw [hfirst, ih hnext (by rwa [hkept, hmax]), hdelimiter, hkept, hmax]
        constructor
        · intro hlater early hearly segments last hlast
          cases early with
          | nil => rwa [hsettled.tail_eq hlast]
          | cons other early =>
              rcases List.cons_prefix_cons.mp hearly with ⟨rfl, hmore⟩
              rcases exists_segmented s.delimiter_ne (tail ++ early.flatten) with
                ⟨later, rest, hsegments⟩
              rcases hlast.unique (hgoesOn hsegments) with ⟨-, rfl⟩
              exact hlater early hmore later last hsegments
        · intro hall early hearly segments last hlast
          exact hall (data :: early) (List.cons_prefix_cons.mpr ⟨rfl, hearly⟩) _ last
            (hgoesOn hlast)
      · refine iff_of_false (fun hfits => ?_) (fun hall => ?_)
        · exact hfits s.maxLength (by simp [pushAll_cons, hpushed])
        · have hle := hall [data] (List.cons_prefix_cons.mpr ⟨rfl, List.nil_prefix⟩) parts tail
            (by rwa [List.flatten_singleton])
          omega

/-- However a stream is cut into reads of which none makes a splitter throw something away, the
messages that come out are the segments of the stream that are not empty, in their order, and what
is kept is what comes behind the last delimiter. -/
theorem messages_of_stream {delimiter : List UInt8} (hne : delimiter ≠ []) (maxLength : Nat) :
    ∃ s, ofDelimiter delimiter maxLength = .ok s ∧
      ∀ reads, s.Fits reads →
        (∃ segments tail, Segmented delimiter reads.flatten segments tail) ∧
        (∀ segments tail, Segmented delimiter reads.flatten segments tail →
          (s.pushAll reads).1 = messages segments ∧
            (s.pushAll reads).2.pending = tail.length) ∧
        (∀ others, others.flatten = reads.flatten → s.Fits others →
          (s.pushAll others).1 = (s.pushAll reads).1 ∧
            (s.pushAll others).2.buffer = (s.pushAll reads).2.buffer) := by
  refine ⟨⟨delimiter, maxLength, [], 0, hne⟩, dif_neg hne, ?_⟩
  have hsettled : IsSettled ⟨delimiter, maxLength, [], 0, hne⟩ :=
    ⟨absent_nil hne, Nat.le_refl _⟩
  intro reads hfits
  rcases segmented_of_fits hsettled hfits with ⟨parts, hsegmented, hmessages⟩
  rw [List.nil_append] at hsegmented
  refine ⟨⟨parts, _, hsegmented⟩, ?_, ?_⟩
  · intro segments tail hother
    rcases hsegmented.unique hother with ⟨rfl, rfl⟩
    exact ⟨hmessages, rfl⟩
  · intro others hstream hother
    rcases segmented_of_fits hsettled hother with ⟨segments, hothers, hcuts⟩
    rw [List.nil_append, hstream] at hothers
    rcases hothers.unique hsegmented with ⟨rfl, hbuffer⟩
    exact ⟨hcuts.trans hmessages.symm, hbuffer⟩

/-- A delimiter that overlaps itself cuts a stream in the same places when a read ends within it
as when the stream comes at once. -/
theorem messages_of_stream_overlapping :
    ∃ s, ofDelimiter [1, 1] 4 = .ok s ∧
      (s.pushAll [[2, 1, 1, 1, 3, 1, 1]]).1 = [.frame [2], .frame [1, 3]] ∧
      (s.pushAll [[2, 1], [1, 1, 3], [1, 1]]).1 = [.frame [2], .frame [1, 3]] ∧
      (s.pushAll [[2, 1], [1, 1, 3], [1, 1]]).2.buffer =
        (s.pushAll [[2, 1, 1, 1, 3, 1, 1]]).2.buffer := by
  have hne : ([1, 1] : List UInt8) ≠ [] := by decide
  rcases messages_of_stream hne 4 with ⟨s, hs, hstream⟩
  have hwhole : (s.pushAll [[2, 1, 1, 1, 3, 1, 1]]).1 = [.frame [2], .frame [1, 3]] := by
    cases hs
    decide +kernel
  have hcut : (s.pushAll [[2, 1], [1, 1, 3], [1, 1]]).1 = [.frame [2], .frame [1, 3]] := by
    cases hs
    decide +kernel
  have hsame := (hstream [[2, 1, 1, 1, 3, 1, 1]] fun limit => by simp [hwhole]).2.2
    [[2, 1], [1, 1, 3], [1, 1]] rfl fun limit => by simp [hcut]
  exact ⟨s, hs, hwhole, hcut, hsame.2⟩

end Splitter

end TerminalGateway.Frame
