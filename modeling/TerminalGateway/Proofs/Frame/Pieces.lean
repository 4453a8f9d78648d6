import TerminalGateway.Proofs.Frame.Splitting

/-!
# Messages as pieces of the stream

Every message that a splitter gives out stands in the stream it got, with the delimiter right
behind it and no delimiter before that.  It begins at the front of the stream or behind a
delimiter.  There is one exception: an unfinished message that grows too long is thrown away, and
the splitter takes what comes after that read for the front of a stream.  So the remainder of a
message that was thrown away is given out as a message.

Main definitions:

- `Stands`: a message stands in a stream behind other bytes, up to the next delimiter.
- `IsWhole`: a message of which no part is missing.
- `Splitter.Overflows`, `Splitter.Resumes`: a read after which bytes were thrown away, and a place
  in the stream right behind such a read.

Main results:

- Lemma `Segmented.stands`: segments stand in their text one behind the other.
- Lemma `Splitter.course_of_pushAll`: where the messages of a sequence of reads stand.
- Theorem `Splitter.pieces_of_stream`: every message is a piece of the stream, and is whole unless
  it begins right behind a read after which bytes were thrown away.
- Theorem `Splitter.remainder_given_out`: such a message need not be whole.
-/

namespace TerminalGateway.Frame

/-! ## Places in a stream -/

/-- A message stands in a stream behind the bytes before it, and reaches to the next delimiter. -/
structure Stands (delimiter stream before frame : List UInt8) : Prop where
  within : before ++ frame ++ delimiter <+: stream
  ends : FirstAt delimiter (frame ++ delimiter) frame.length

/-- A place at the front of a stream or right behind a delimiter. -/
def Begins (delimiter before : List UInt8) : Prop :=
  before = [] ∨ delimiter <:+ before

/-- A message reaches from the front of a stream, or from a delimiter, to the next delimiter. -/
def IsWhole (delimiter stream frame : List UInt8) : Prop :=
  ∃ before, Begins delimiter before ∧ Stands delimiter stream before frame

/-- A message and the bytes before it. -/
abbrev Piece :=
  List UInt8 × List UInt8

/-- The bytes up to the end of a message's delimiter. -/
def Piece.upTo (delimiter : List UInt8) (piece : Piece) : List UInt8 :=
  piece.1 ++ piece.2 ++ delimiter

/-- Segments with the bytes before them, when a text begins behind some bytes. -/
def placed (delimiter before : List UInt8) : List (List UInt8) → List Piece
  | [] => []
  | segment :: segments =>
      (before, segment) :: placed delimiter (before ++ segment ++ delimiter) segments

variable {delimiter stream text before frame tail : List UInt8}

theorem Stands.append (h : Stands delimiter stream before frame) (more : List UInt8) :
    Stands delimiter (stream ++ more) before frame where
  within := h.within.trans (List.prefix_append stream more)
  ends := h.ends

/-- Segments are placed as they are and in their order. -/
@[simp] theorem map_snd_placed (delimiter before : List UInt8) (segments : List (List UInt8)) :
    (placed delimiter before segments).map Prod.snd = segments := by
  induction segments generalizing before with
  | nil => rfl
  | cons segment segments ih => rw [placed, List.map_cons, ih]

/-- What a first occurrence leaves before it, the occurrence, and the rest. -/
theorem FirstAt.split {position : Nat} (h : FirstAt delimiter text position) :
    text = text.take position ++ delimiter ++ text.drop (position + delimiter.length) := by
  rcases h.occurs with ⟨rest, hrest⟩
  have hdrop : text.drop (position + delimiter.length) = rest := by
    rw [← List.drop_drop, ← hrest, List.drop_left]
  rw [hdrop, List.append_assoc, hrest, List.take_append_drop]

/-- What stands before a first occurrence reaches to it. -/
theorem FirstAt.ends (hne : delimiter ≠ []) {position : Nat}
    (h : FirstAt delimiter text position) :
    FirstAt delimiter (text.take position ++ delimiter) (text.take position).length := by
  have hend := h.occurs.end_le hne
  have hlength : (text.take position).length = position := by
    rw [List.length_take]
    omega
  have hoccurs : ∀ place ≤ position, OccursAt delimiter text place ↔
      OccursAt delimiter (text.take position ++ delimiter) place := by
    intro place hle
    have hwithin : place + delimiter.length ≤ (text.take position ++ delimiter).length := by
      rw [List.length_append, hlength]
      omega
    have happend := occursAt_append hwithin (text.drop (position + delimiter.length))
    rwa [← h.split] at happend
  rw [hlength]
  refine ⟨(hoccurs position (Nat.le_refl _)).mp h.occurs, fun earlier hlt hearlier => ?_⟩
  exact h.first earlier hlt ((hoccurs earlier (Nat.le_of_lt hlt)).mpr hearlier)

/-! ## Segments in their text -/

/-- Pieces that stand in a stream one behind the other, each at a place that is allowed, and all of
them before some point. -/
structure Laid (delimiter stream point : List UInt8) (allowed : List UInt8 → Prop)
    (pieces : List Piece) : Prop where
  stands : ∀ piece ∈ pieces, Stands delimiter stream piece.1 piece.2
  begins : ∀ piece ∈ pieces, allowed piece.1
  apart : pieces.Pairwise fun piece later => piece.upTo delimiter <+: later.1
  done : ∀ piece ∈ pieces, piece.upTo delimiter <+: point

namespace Laid

variable {point : List UInt8} {allowed : List UInt8 → Prop} {pieces later : List Piece}

theorem sublist (h : Laid delimiter stream point allowed pieces) (hsub : later.Sublist pieces) :
    Laid delimiter stream point allowed later where
  stands piece hmem := h.stands piece (hsub.subset hmem)
  begins piece hmem := h.begins piece (hsub.subset hmem)
  apart := h.apart.sublist hsub
  done piece hmem := h.done piece (hsub.subset hmem)

theorem mono {other next : List UInt8} {permitted : List UInt8 → Prop}
    (h : Laid delimiter stream point allowed pieces) (hstream : stream <+: other)
    (hallowed : ∀ place, allowed place → permitted place) (hpoint : point <+: next) :
    Laid delimiter other next permitted pieces where
  stands piece hmem :=
    ⟨(h.stands piece hmem).within.trans hstream, (h.stands piece hmem).ends⟩
  begins piece hmem := hallowed _ (h.begins piece hmem)
  apart := h.apart
  done piece hmem := (h.done piece hmem).trans hpoint

/-- Pieces that begin behind a point come after those before it. -/
theorem append {next : List UInt8} (h : Laid delimiter stream point allowed pieces)
    (hlater : Laid delimiter stream next allowed later)
    (hbehind : ∀ piece ∈ later, point <+: piece.1) (hnext : point <+: next) :
    Laid delimiter stream next allowed (pieces ++ later) where
  stands piece hmem := (List.mem_append.mp hmem).elim (h.stands piece) (hlater.stands piece)
  begins piece hmem := (List.mem_append.mp hmem).elim (h.begins piece) (hlater.begins piece)
  apart := by
    refine List.pairwise_append.mpr ⟨h.apart, hlater.apart, ?_⟩
    intro piece hpiece other hother
    exact (h.done piece hpiece).trans (hbehind other hother)
  done piece hmem := by
    rcases List.mem_append.mp hmem with hpiece | hpiece
    · exact (h.done piece hpiece).trans hnext
    · exact hlater.done piece hpiece

end Laid

/-- Segments stand in their text one behind the other, the first where the text begins and the
others behind a delimiter; so does what is left at the end. -/
theorem Segmented.stands (hne : delimiter ≠ []) {segments : List (List UInt8)}
    (h : Segmented delimiter text segments tail) (before : List UInt8) :
    ∃ point, before ++ text = point ++ tail ∧ before <+: point ∧
      (point = before ∨ delimiter <:+ point) ∧
      Laid delimiter (before ++ text) point (fun place => place = before ∨ delimiter <:+ place)
        (placed delimiter before segments) ∧
      ∀ piece ∈ placed delimiter before segments, before <+: piece.1 := by
  induction h generalizing before with
  | @tail text _ =>
      exact ⟨before, rfl, List.prefix_refl _, .inl rfl, ⟨by simp [placed], by simp [placed],
        List.Pairwise.nil, by simp [placed]⟩, by simp [placed]⟩
  | @cut text position segments tail hfirst hrest ih =>
      have hsplit : before ++ text = before ++ text.take position ++ delimiter ++
          text.drop (position + delimiter.length) := by
        rw [List.append_assoc, List.append_assoc, ← List.append_assoc (text.take position),
          ← hfirst.split]
      rcases ih (before ++ text.take position ++ delimiter) with
        ⟨point, hpoint, hbehind, hbegins, hlaid, hafter⟩
      have hbefore : before <+: before ++ text.take position ++ delimiter := by
        rw [List.append_assoc]
        exact List.prefix_append _ _
      have hsuffix : delimiter <:+ before ++ text.take position ++ delimiter :=
        List.suffix_append _ _
      have hallowed : ∀ place,
          place = before ++ text.take position ++ delimiter ∨ delimiter <:+ place →
            place = before ∨ delimiter <:+ place := by
        rintro place (rfl | hplace)
        · exact .inr hsuffix
        · exact .inr hplace
      refine ⟨point, hsplit.trans hpoint, hbefore.trans hbehind, ?_, ?_, ?_⟩
      · rcases hbegins with rfl | hbegins
        · exact .inr hsuffix
        · exact .inr hbegins
      · have hhead : Laid delimiter (before ++ text) (before ++ text.take position ++ delimiter)
            (fun place => place = before ∨ delimiter <:+ place) [(before, text.take position)] := by
          refine ⟨?_, ?_, List.pairwise_singleton _ _, ?_⟩
          · rintro piece hpiece
            obtain rfl := List.mem_singleton.mp hpiece
            exact ⟨hsplit ▸ List.prefix_append _ _, hfirst.ends hne⟩
          · rintro piece hpiece
            obtain rfl := List.mem_singleton.mp hpiece
            exact .inl rfl
          · rintro piece hpiece
            obtain rfl := List.mem_singleton.mp hpiece
            exact List.prefix_refl _
        rw [← hsplit] at hlaid
        exact hhead.append (hlaid.mono (List.prefix_refl _) hallowed (List.prefix_refl _))
          hafter hbehind
      · intro piece hpiece
        rcases List.mem_cons.mp hpiece with rfl | hpiece
        · exact List.prefix_refl _
        · exact hbefore.trans (hafter piece hpiece)

/-! ## The messages of a sequence of reads -/

/-- The message that a cut brings to light. -/
def Cut.frame? : Cut → Option (List UInt8)
  | .frame bytes => some bytes
  | .oversize _ => none

/-- The messages among segments are those that are not empty. -/
theorem frames_messages (delimiter before : List UInt8) (segments : List (List UInt8)) :
    (messages segments).filterMap Cut.frame? =
      ((placed delimiter before segments).filter fun piece => !piece.2.isEmpty).map Prod.snd := by
  have hframes : (messages segments).filterMap Cut.frame? =
      segments.filter fun segment => !segment.isEmpty := by
    rw [messages, List.filterMap_map]
    exact List.filterMap_some
  rw [hframes]
  conv => lhs; rw [← map_snd_placed delimiter before segments]
  rw [List.filter_map]
  rfl

namespace Splitter

theorem pushAll_append (s : Splitter) (early late : List (List UInt8)) :
    s.pushAll (early ++ late) =
      ((s.pushAll early).1 ++ ((s.pushAll early).2.pushAll late).1,
        ((s.pushAll early).2.pushAll late).2) := by
  induction early generalizing s with
  | nil => rfl
  | cons data early ih => simp only [List.cons_append, pushAll, ih, List.append_assoc]

/-- The last of these reads made the splitter throw away what it kept. -/
def Overflows (s : Splitter) (reads : List (List UInt8)) : Prop :=
  ∃ early data, reads = early ++ [data] ∧
    .oversize s.maxLength ∈ ((s.pushAll early).2.push data).1

/-- A place right behind a read after which bytes were thrown away. -/
def Resumes (s : Splitter) (reads : List (List UInt8)) (before : List UInt8) : Prop :=
  ∃ first, first <+: reads ∧ s.Overflows first ∧ before = first.flatten

variable {s : Splitter} {reads : List (List UInt8)}

theorem Resumes.append (h : s.Resumes reads before) (late : List (List UInt8)) :
    s.Resumes (reads ++ late) before := by
  rcases h with ⟨first, hfirst, hoverflows, rfl⟩
  exact ⟨first, hfirst.trans (List.prefix_append reads late), hoverflows, rfl⟩

/-- The places at which a splitter may begin a message. -/
def MayBegin (s : Splitter) (reads : List (List UInt8)) (before : List UInt8) : Prop :=
  Begins s.delimiter before ∨ s.Resumes reads before

/-- Where a splitter stands after some reads: the messages it gave out, and the place at which the
unfinished one begins. -/
structure Course (s : Splitter) (reads : List (List UInt8)) (pieces : List Piece)
    (point : List UInt8) : Prop where
  settled : (s.pushAll reads).2.IsSettled
  delimiter_eq : (s.pushAll reads).2.delimiter = s.delimiter
  maxLength_eq : (s.pushAll reads).2.maxLength = s.maxLength
  frames : (s.pushAll reads).1.filterMap Cut.frame? = pieces.map Prod.snd
  nonempty : ∀ piece ∈ pieces, piece.2 ≠ []
  laid : Laid s.delimiter reads.flatten point (s.MayBegin reads) pieces
  stream : reads.flatten = point ++ (s.pushAll reads).2.buffer
  mayBegin : s.MayBegin reads point

/-- A read lays its messages behind those before it. -/
theorem Course.push {pieces : List Piece} {point : List UInt8}
    (h : s.Course reads pieces point) (data : List UInt8) :
    ∃ more next, s.Course (reads ++ [data]) (pieces ++ more) next := by
  have hpush : s.pushAll (reads ++ [data]) =
      ((s.pushAll reads).1 ++ ((s.pushAll reads).2.push data).1,
        ((s.pushAll reads).2.push data).2) := by
    rw [pushAll_append]
    simp only [pushAll, List.append_nil]
  rcases push_cases h.settled data with
    ⟨parts, tail, hsegmented, hdelimiter, hlength, hsettled, hcases⟩
  rw [h.delimiter_eq] at hsegmented
  rcases hsegmented.stands s.delimiter_ne point with
    ⟨place, hplace, hbehind, hbegins, hlaid, hafter⟩
  have hstream : (reads ++ [data]).flatten = point ++ ((s.pushAll reads).2.buffer ++ data) := by
    rw [List.flatten_append, h.stream, List.flatten_singleton, List.append_assoc]
  have hallowed : ∀ before, before = point ∨ s.delimiter <:+ before →
      s.MayBegin (reads ++ [data]) before := by
    rintro before (rfl | hbefore)
    · exact h.mayBegin.imp_right fun hresumes => hresumes.append [data]
    · exact .inl (.inr hbefore)
  have hold : Laid s.delimiter (reads ++ [data]).flatten point (s.MayBegin (reads ++ [data]))
      pieces := by
    refine h.laid.mono ?_ ?_ (List.prefix_refl _)
    · rw [List.flatten_append]
      exact List.prefix_append _ _
    · intro before hbefore
      exact hbefore.imp_right fun hresumes => hresumes.append [data]
  have hnew : Laid s.delimiter (reads ++ [data]).flatten place (s.MayBegin (reads ++ [data]))
      ((placed s.delimiter point parts).filter fun piece => !piece.2.isEmpty) := by
    rw [← hstream] at hlaid
    exact (hlaid.mono (List.prefix_refl _) hallowed (List.prefix_refl _)).sublist
      List.filter_sublist
  have hall := hold.append hnew (fun piece hmem => hafter piece (List.mem_of_mem_filter hmem))
    hbehind
  have hframes : ((s.pushAll reads).2.push data).1.filterMap Cut.frame? =
      (messages parts).filterMap Cut.frame? := by
    rcases hcases with ⟨-, hcuts, -⟩ | ⟨-, hcuts, -⟩ <;> rw [hcuts]
    rw [List.filterMap_append]
    exact List.append_nil _
  have hnonempty : ∀ piece ∈ pieces ++
      (placed s.delimiter point parts).filter (fun piece => !piece.2.isEmpty),
      piece.2 ≠ [] := by
    intro piece hmem
    rcases List.mem_append.mp hmem with hmem | hmem
    · exact h.nonempty piece hmem
    · simpa using (List.mem_filter.mp hmem).2
  refine ⟨(placed s.delimiter point parts).filter fun piece => !piece.2.isEmpty, ?_⟩
  have hcourse : ∀ next, place <+: next →
      (reads ++ [data]).flatten = next ++ ((s.pushAll reads).2.push data).2.buffer →
      s.MayBegin (reads ++ [data]) next →
      s.Course (reads ++ [data]) (pieces ++
        (placed s.delimiter point parts).filter fun piece => !piece.2.isEmpty) next := by
    intro next hle hrest hnext
    refine ⟨?_, ?_, ?_, ?_, hnonempty, hall.mono (List.prefix_refl _) (fun _ h => h) hle, ?_,
      hnext⟩
    · rw [hpush]
      exact hsettled
    · rw [hpush]
      exact hdelimiter.trans h.delimiter_eq
    · rw [hpush]
      exact hlength.trans h.maxLength_eq
    · rw [hpush, List.filterMap_append, h.frames, hframes, List.map_append,
        frames_messages s.delimiter point]
    · rw [hpush]
      exact hrest
  rcases hcases with ⟨-, -, hbuffer⟩ | ⟨-, hcuts, hbuffer⟩
  · -- The unfinished message is kept and begins behind the last delimiter.
    refine ⟨place, hcourse place (List.prefix_refl _) ?_ (hallowed place hbegins)⟩
    rw [hbuffer, hstream, hplace]
  · -- It is thrown away, and the next message begins behind this read.
    refine ⟨(reads ++ [data]).flatten, hcourse _ ?_ ?_ (.inr ⟨_, List.prefix_refl _, ?_, rfl⟩)⟩
    · rw [hstream, hplace]
      exact List.prefix_append _ _
    · rw [hbuffer, List.append_nil]
    · refine ⟨reads, data, rfl, ?_⟩
      rw [hcuts, h.maxLength_eq]
      exact List.mem_append_right _ (List.mem_singleton_self _)

/-- Whatever the reads, the messages that come out stand in the stream one behind the other. -/
theorem course_of_pushAll (hsettled : s.IsSettled) (hempty : s.buffer = [])
    (reads : List (List UInt8)) : ∃ pieces point, s.Course reads pieces point := by
  induction reads using List.reverseRecOn with
  | nil =>
      refine ⟨[], [], hsettled, rfl, rfl, rfl, by simp, ?_, ?_, .inl (.inl rfl)⟩
      · exact ⟨by simp, by simp, List.Pairwise.nil, by simp⟩
      · simp [pushAll, hempty]
  | append_singleton reads data ih =>
      rcases ih with ⟨pieces, point, hcourse⟩
      rcases hcourse.push data with ⟨more, next, hnext⟩
      exact ⟨_, next, hnext⟩

/-- The messages that a splitter gives out are pieces of the stream, in its order and without
overlap, none of them empty.  Each reaches to the next delimiter.  It begins at the front of the
stream or behind a delimiter and is whole; or it begins right behind a read after which bytes were
thrown away, and then no other message begins there. -/
theorem pieces_of_stream {delimiter : List UInt8} (hne : delimiter ≠ []) (maxLength : Nat) :
    ∃ s, ofDelimiter delimiter maxLength = .ok s ∧
      ∀ reads, ∃ pieces : List Piece,
        (s.pushAll reads).1.filterMap Cut.frame? = pieces.map Prod.snd ∧
        (pieces.Pairwise fun piece later => piece.upTo delimiter <+: later.1) ∧
        ∀ piece ∈ pieces, piece.2 ≠ [] ∧ Stands delimiter reads.flatten piece.1 piece.2 ∧
          (Begins delimiter piece.1 ∨ s.Resumes reads piece.1) := by
  refine ⟨⟨delimiter, maxLength, [], 0, hne⟩, dif_neg hne, fun reads => ?_⟩
  rcases course_of_pushAll (s := ⟨delimiter, maxLength, [], 0, hne⟩)
    ⟨absent_nil hne, Nat.le_refl _⟩ rfl reads with ⟨pieces, point, hcourse⟩
  refine ⟨pieces, hcourse.frames, hcourse.laid.apart, fun piece hmem => ?_⟩
  exact ⟨hcourse.nonempty piece hmem, hcourse.laid.stands piece hmem,
    hcourse.laid.begins piece hmem⟩

/-- Two messages come out of a stream whose front was thrown away. -/
theorem pieces_of_stream_dropped :
    ([0] : List UInt8) ≠ [] ∧ ∃ s, ofDelimiter [0] 2 = .ok s ∧
      (s.pushAll [[1, 2, 3], [4, 0, 5, 0]]).1 = [.oversize 2, .frame [4], .frame [5]] ∧
      ∃ pieces : List Piece, pieces.map Prod.snd = [[4], [5]] ∧
        ∀ piece ∈ pieces, Stands [0] [1, 2, 3, 4, 0, 5, 0] piece.1 piece.2 ∧
          (Begins [0] piece.1 ∨ s.Resumes [[1, 2, 3], [4, 0, 5, 0]] piece.1) := by
  have hne : ([0] : List UInt8) ≠ [] := by decide
  rcases pieces_of_stream hne 2 with ⟨s, hs, hstream⟩
  have hcuts : (s.pushAll [[1, 2, 3], [4, 0, 5, 0]]).1 =
      [.oversize 2, .frame [4], .frame [5]] := by
    cases hs
    decide +kernel
  rcases hstream [[1, 2, 3], [4, 0, 5, 0]] with ⟨pieces, hframes, -, hpieces⟩
  rw [hcuts] at hframes
  exact ⟨hne, s, hs, hcuts, pieces, hframes.symm, fun piece hmem => (hpieces piece hmem).2⟩

/-- The remainder of a message that was thrown away is given out, and is not whole: the only
delimiter of the stream is the one behind it. -/
theorem remainder_given_out :
    ∃ s, ofDelimiter [0] 2 = .ok s ∧
      (s.pushAll [[1, 2, 3], [4, 0]]).1 = [.oversize 2, .frame [4]] ∧
      ¬ IsWhole [0] [[1, 2, 3], [4, 0]].flatten [4] := by
  refine ⟨⟨[0], 2, [], 0, by decide⟩, rfl, by decide +kernel, ?_⟩
  rintro ⟨before, rfl | hbehind, hstands⟩
  · exact absurd hstands.within (by decide)
  · have hmem : 0 ∈ before := hbehind.subset (List.mem_singleton_self 0)
    have hbefore : 0 < before.count 0 := List.count_pos_iff.mpr hmem
    have hcount := hstands.within.sublist.count_le 0
    have hone : ([[1, 2, 3], [4, 0]] : List (List UInt8)).flatten.count 0 = 1 := by decide
    rw [hone, List.count_append, List.count_append] at hcount
    have hdelimiter : ([0] : List UInt8).count 0 = 1 := by decide
    omega

end Splitter

end TerminalGateway.Frame
