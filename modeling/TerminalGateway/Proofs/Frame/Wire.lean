import TerminalGateway.Proofs.Frame.Splitting

/-!
# Frames on a wire

A writer puts its delimiter behind each frame.  A splitter finds the frames again if the delimiter
occurs first where the writer put it.  It is not enough that a frame holds no delimiter, as the end
of a frame and the front of the delimiter may make one together.

A splitter limits what is unfinished, and to this belongs the delimiter as far as it has been read.
So a frame within the limit may still be thrown away, namely by a read that ends inside its
delimiter.  This cannot happen exactly if every frame is within the limit together with all but the
last byte of its delimiter.

Main definitions:

- `Delimited`: the delimiter behind a frame is the first there.
- `wire`: frames, each with its delimiter.
- `Strains`: a read ends inside the delimiter of a frame that is too long with that part of it.

Main results:

- Theorem `segmented_wire`: frames are the segments of their wire.
- Theorem `prefix_cases`: a front of a wire is the whole wire, or ends within one frame and its
  delimiter.
- Theorem `Splitter.pushAll_wire`: the frames of a wire come out however it is cut.
- Theorem `Splitter.keeps_of_wire`: which frames within the limit are thrown away, and by which
  reads.
- Theorem `Splitter.dropped_within_limit`: a frame of the greatest length is thrown away.
-/

namespace TerminalGateway.Frame

instance (pattern text : List UInt8) (position : Nat) :
    Decidable (OccursAt pattern text position) :=
  inferInstanceAs (Decidable (pattern <+: text.drop position))

/-- The delimiter that is put behind a frame is the first that occurs there. -/
def Delimited (delimiter frame : List UInt8) : Prop :=
  FirstAt delimiter (frame ++ delimiter) frame.length

/-- Frames one behind the other, each with its delimiter. -/
def wire (delimiter : List UInt8) (frames : List (List UInt8)) : List UInt8 :=
  frames.flatMap fun frame => frame ++ delimiter

variable {delimiter : List UInt8} {frames : List (List UInt8)}

theorem wire_cons (frame : List UInt8) :
    wire delimiter (frame :: frames) = frame ++ delimiter ++ wire delimiter frames :=
  List.flatMap_cons

theorem wire_append (first second : List (List UInt8)) :
    wire delimiter (first ++ second) = wire delimiter first ++ wire delimiter second :=
  List.flatMap_append

namespace Delimited

variable {frame : List UInt8}

/-- A frame is the first segment of what begins with it and its delimiter. -/
theorem segmented (hframe : Delimited delimiter frame) (hne : delimiter ≠ [])
    {rest tail : List UInt8} {segments : List (List UInt8)}
    (hrest : Segmented delimiter rest segments tail) :
    Segmented delimiter (frame ++ delimiter ++ rest) (frame :: segments) tail := by
  have hfirst := FirstAt.append hne hframe rest
  have htake : (frame ++ delimiter ++ rest).take frame.length = frame := by
    rw [List.append_assoc, List.take_left]
  have hdrop : (frame ++ delimiter ++ rest).drop (frame.length + delimiter.length) = rest := by
    rw [← List.length_append, List.drop_left]
  have hcut := Segmented.cut hfirst (hdrop.symm ▸ hrest)
  rwa [htake] at hcut

/-- There is no delimiter before the one behind a frame is complete. -/
theorem absent_of_prefix (hframe : Delimited delimiter frame) (hne : delimiter ≠ [])
    {taken : List UInt8} (htaken : taken <+: frame ++ delimiter)
    (hlength : taken.length < (frame ++ delimiter).length) : Absent delimiter taken := by
  rcases htaken with ⟨missing, hmissing⟩
  intro position hoccurs
  have hend := hoccurs.end_le hne
  have hearlier : OccursAt delimiter (frame ++ delimiter) position :=
    hmissing ▸ (occursAt_append hend missing).mpr hoccurs
  rw [List.length_append] at hlength
  exact hframe.first position (by omega) hearlier

end Delimited

/-- The segments of a wire are the frames, and nothing is left behind them. -/
theorem segmented_wire (hne : delimiter ≠ [])
    (hframes : ∀ frame ∈ frames, Delimited delimiter frame) :
    Segmented delimiter (wire delimiter frames) frames [] := by
  induction frames with
  | nil => exact .tail (absent_nil hne)
  | cons frame frames ih =>
      rw [wire_cons]
      refine (hframes frame List.mem_cons_self).segmented hne (ih fun other hother => ?_)
      exact hframes other (List.mem_cons_of_mem _ hother)

/-- The front of a wire that ends within a frame and its delimiter. -/
theorem segmented_within (hne : delimiter ≠ []) {done : List (List UInt8)} {frame : List UInt8}
    (hframes : ∀ other ∈ done ++ [frame], Delimited delimiter other) {part : List UInt8}
    (hpart : part <+: frame ++ delimiter) (hlength : part.length < (frame ++ delimiter).length) :
    Segmented delimiter (wire delimiter done ++ part) done part := by
  have hdone := segmented_wire hne fun other hother =>
    hframes other (List.mem_append_left _ hother)
  have hframe := hframes frame (List.mem_append_right _ (List.mem_singleton_self frame))
  have hwhole := hdone.append hne (.tail (hframe.absent_of_prefix hne hpart hlength))
  rwa [List.append_nil] at hwhole

/-- Any front of a wire is the whole wire, or ends within one frame and its delimiter. -/
theorem prefix_cases {taken : List UInt8} (htaken : taken <+: wire delimiter frames) :
    taken = wire delimiter frames ∨ ∃ done frame part, done ++ [frame] <+: frames ∧
      taken = wire delimiter done ++ part ∧ part <+: frame ++ delimiter ∧
      part.length < (frame ++ delimiter).length := by
  induction frames generalizing taken with
  | nil => exact .inl (List.prefix_nil.mp htaken)
  | cons frame frames ih =>
      rw [wire_cons] at htaken ⊢
      by_cases hlength : taken.length < (frame ++ delimiter).length
      · have hwithin : taken <+: frame ++ delimiter :=
          List.prefix_of_prefix_length_le htaken (List.prefix_append _ _) (Nat.le_of_lt hlength)
        exact .inr ⟨[], frame, taken, List.prefix_append [frame] frames, rfl, hwithin, hlength⟩
      · rcases List.prefix_of_prefix_length_le (List.prefix_append _ _) htaken
          (Nat.le_of_not_lt hlength) with ⟨more, rfl⟩
        rcases ih ((List.prefix_append_right_inj _).mp htaken) with
          rfl | ⟨done, other, part, hdone, rfl, hpart, hshort⟩
        · exact .inl rfl
        · refine .inr ⟨frame :: done, other, part, ?_, ?_, hpart, hshort⟩
          · exact List.cons_prefix_cons.mpr ⟨rfl, hdone⟩
          · rw [wire_cons, List.append_assoc (frame ++ delimiter)]

/-- What is unfinished at the end of any front of a wire fits where each frame with its delimiter
does. -/
theorem tail_within (hne : delimiter ≠ [])
    (hframes : ∀ frame ∈ frames, Delimited delimiter frame) {limit : Nat}
    (hlimit : ∀ frame ∈ frames, frame.length + delimiter.length ≤ limit)
    {taken tail : List UInt8} {segments : List (List UInt8)}
    (htaken : taken <+: wire delimiter frames)
    (hsegmented : Segmented delimiter taken segments tail) : tail.length ≤ limit := by
  rcases prefix_cases htaken with rfl | ⟨done, frame, part, hdone, rfl, hpart, hshort⟩
  · rcases hsegmented.unique (segmented_wire hne hframes) with ⟨-, rfl⟩
    exact Nat.zero_le _
  · have hwithin := segmented_within hne (fun other hother => hframes other (hdone.subset hother))
      hpart hshort
    rcases hsegmented.unique hwithin with ⟨-, rfl⟩
    have hle := hlimit frame (hdone.subset (by simp))
    rw [List.length_append] at hshort
    omega

/-! ## Reading a wire -/

namespace Splitter

/-- Where nothing is thrown away the frames of a wire come out, all but the empty ones, and nothing
is kept. -/
theorem messages_of_wire {s : Splitter} (hsettled : s.IsSettled) (hbuffer : s.buffer = [])
    (hframes : ∀ frame ∈ frames, Delimited s.delimiter frame) {reads : List (List UInt8)}
    (hreads : reads.flatten = wire s.delimiter frames) (hfits : s.Fits reads) :
    (s.pushAll reads).1 = messages frames ∧ (s.pushAll reads).2.pending = 0 := by
  rcases segmented_of_fits hsettled hfits with ⟨parts, hsegmented, hmessages⟩
  rw [hbuffer, List.nil_append, hreads] at hsegmented
  obtain ⟨rfl, hrest⟩ := hsegmented.unique (segmented_wire s.delimiter_ne hframes)
  exact ⟨hmessages, congrArg List.length hrest⟩

/-- However a wire is cut into reads, its frames come out and nothing is kept. -/
theorem pushAll_wire {s : Splitter} (hbuffer : s.buffer = []) (hscanned : s.scanned = 0)
    (hframes : ∀ frame ∈ frames, Delimited s.delimiter frame)
    (hlimit : ∀ frame ∈ frames, frame.length + s.delimiter.length ≤ s.maxLength)
    (hnonempty : ∀ frame ∈ frames, frame ≠ []) {reads : List (List UInt8)}
    (hreads : reads.flatten = wire s.delimiter frames) :
    (s.pushAll reads).1 = frames.map .frame ∧ (s.pushAll reads).2.pending = 0 := by
  have hsettled : s.IsSettled :=
    ⟨hbuffer ▸ absent_nil s.delimiter_ne, by rw [hscanned]; exact Nat.zero_le _⟩
  have hfits : s.Fits reads := by
    refine (fits_iff hsettled (by simp [hbuffer]) reads).mpr ?_
    intro early hearly segments tail hsegmented
    rw [hbuffer, List.nil_append] at hsegmented
    exact tail_within s.delimiter_ne hframes hlimit (hreads ▸ hearly.flatten) hsegmented
  rcases messages_of_wire hsettled hbuffer hframes hreads hfits with ⟨hmessages, hpending⟩
  refine ⟨?_, hpending⟩
  rw [hmessages, messages, List.filter_eq_self.mpr]
  exact fun frame hframe => by simpa using hnonempty frame hframe

end Splitter

/-! ## Frames of the greatest length -/

/-- A read ends inside the delimiter behind a frame, which is longer than the limit together with
that part of its delimiter. -/
def Strains (delimiter : List UInt8) (limit : Nat) (frames reads : List (List UInt8)) : Prop :=
  ∃ early done frame part, early <+: reads ∧ done ++ [frame] <+: frames ∧
    early.flatten = wire delimiter done ++ (frame ++ part) ∧
    part <+: delimiter ∧ part ≠ delimiter ∧ limit < frame.length + part.length

namespace Splitter

/-- Frames within the limit are thrown away exactly if a read ends inside a delimiter too late. -/
theorem fits_iff_not_strains {s : Splitter} (hsettled : s.IsSettled) (hbuffer : s.buffer = [])
    (hframes : ∀ frame ∈ frames, Delimited s.delimiter frame)
    (hlimit : ∀ frame ∈ frames, frame.length ≤ s.maxLength) {reads : List (List UInt8)}
    (hreads : reads.flatten = wire s.delimiter frames) :
    s.Fits reads ↔ ¬ Strains s.delimiter s.maxLength frames reads := by
  rw [fits_iff hsettled (by simp [hbuffer]), hbuffer]
  simp only [List.nil_append]
  constructor
  · rintro hall ⟨early, done, frame, part, hearly, hdone, hflatten, hpart, hne, hlong⟩
    have hwithin : frame ++ part <+: frame ++ s.delimiter :=
      (List.prefix_append_right_inj frame).mpr hpart
    have hshort : (frame ++ part).length < (frame ++ s.delimiter).length := by
      have hlength : part.length < s.delimiter.length :=
        Nat.lt_of_le_of_ne hpart.length_le fun heq => hne (hpart.eq_of_length heq)
      simp only [List.length_append]
      omega
    have hsegmented := segmented_within s.delimiter_ne
      (fun other hother => hframes other (hdone.subset hother)) hwithin hshort
    have hle := hall early hearly done _ (hflatten ▸ hsegmented)
    rw [List.length_append] at hle
    omega
  · intro hfine early hearly segments tail hsegmented
    have htaken : early.flatten <+: wire s.delimiter frames := hreads ▸ hearly.flatten
    rcases prefix_cases htaken with hwhole | ⟨done, frame, part, hdone, hflatten, hpart, hshort⟩
    · rw [hwhole] at hsegmented
      rcases hsegmented.unique (segmented_wire s.delimiter_ne hframes) with ⟨-, rfl⟩
      exact Nat.zero_le _
    · have hwithin := segmented_within s.delimiter_ne
        (fun other hother => hframes other (hdone.subset hother)) hpart hshort
      rw [hflatten] at hsegmented
      rcases hsegmented.unique hwithin with ⟨-, rfl⟩
      apply Nat.le_of_not_lt
      intro hlong
      have hframe : frame.length ≤ s.maxLength := hlimit frame (hdone.subset (by simp))
      -- What is too long has the whole frame, so it ends with a part of the delimiter.
      rcases List.prefix_of_prefix_length_le (List.prefix_append frame s.delimiter) hpart
        (by omega) with ⟨rest, rfl⟩
      have hrest := (List.prefix_append_right_inj frame).mp hpart
      rw [List.length_append] at hlong
      refine hfine ⟨early, done, frame, rest, hearly, hdone, hflatten, hrest, ?_, hlong⟩
      rintro rfl
      exact absurd hshort (Nat.lt_irrefl _)

/-- The worst read for a frame ends before the last byte of its delimiter. -/
theorem strains_of_long (hne : delimiter ≠ []) {limit : Nat} {frame : List UInt8}
    (hmem : frame ∈ frames) (hlong : limit + 1 < frame.length + delimiter.length) :
    ∃ reads, reads.flatten = wire delimiter frames ∧ Strains delimiter limit frames reads := by
  rcases List.append_of_mem hmem with ⟨done, later, rfl⟩
  have hpos := List.length_pos_iff.mpr hne
  have hsplit := List.dropLast_concat_getLast hne
  refine ⟨[wire delimiter done ++ (frame ++ delimiter.dropLast),
    [delimiter.getLast hne] ++ wire delimiter later], ?_, _, done, frame, delimiter.dropLast,
    List.cons_prefix_cons.mpr ⟨rfl, List.nil_prefix⟩, ?_, List.flatten_singleton ..,
    List.dropLast_prefix delimiter, ?_, ?_⟩
  · calc [wire delimiter done ++ (frame ++ delimiter.dropLast),
            [delimiter.getLast hne] ++ wire delimiter later].flatten
        = wire delimiter done ++ (frame ++ (delimiter.dropLast ++ [delimiter.getLast hne]) ++
            wire delimiter later) := by simp
      _ = wire delimiter (done ++ frame :: later) := by rw [hsplit, wire_append, wire_cons]
  · exact ⟨later, by rw [List.append_assoc, List.singleton_append]⟩
  · intro heq
    have hlength := congrArg List.length heq
    rw [List.length_dropLast] at hlength
    omega
  · rw [List.length_dropLast]
    omega

/-- For frames within the limit: a way to cut their wire into reads throws something away exactly
if a read ends inside the delimiter of a frame that is too long with that part of it; and if
nothing is thrown away, all frames that are not empty come out.  Nothing is thrown away however
the wire is cut exactly if every frame is within the limit together with all but the last byte of
its delimiter. -/
theorem keeps_of_wire (hne : delimiter ≠ []) (limit : Nat) :
    ∃ s, ofDelimiter delimiter limit = .ok s ∧
      ∀ frames : List (List UInt8),
        (∀ frame ∈ frames, Delimited delimiter frame ∧ frame.length ≤ limit) →
        (∀ reads, reads.flatten = wire delimiter frames →
          (s.Fits reads ↔ ¬ Strains delimiter limit frames reads) ∧
          (s.Fits reads →
            (s.pushAll reads).1 = messages frames ∧ (s.pushAll reads).2.pending = 0)) ∧
        ((∀ reads, reads.flatten = wire delimiter frames → s.Fits reads) ↔
          ∀ frame ∈ frames, frame.length + delimiter.length ≤ limit + 1) := by
  refine ⟨⟨delimiter, limit, [], 0, hne⟩, dif_neg hne, fun frames hframes => ?_⟩
  have hsettled : IsSettled ⟨delimiter, limit, [], 0, hne⟩ := ⟨absent_nil hne, Nat.le_refl _⟩
  have hdelimited := fun frame hframe => (hframes frame hframe).1
  have hfits {reads : List (List UInt8)} (hreads : reads.flatten = wire delimiter frames) :
      Fits ⟨delimiter, limit, [], 0, hne⟩ reads ↔ ¬ Strains delimiter limit frames reads :=
    fits_iff_not_strains hsettled rfl hdelimited (fun frame hframe => (hframes frame hframe).2)
      hreads
  refine ⟨fun reads hreads => ⟨hfits hreads,
    messages_of_wire hsettled rfl hdelimited hreads⟩, ?_, ?_⟩
  · intro hall frame hframe
    apply Nat.le_of_not_lt
    intro hlong
    rcases strains_of_long hne hframe hlong with ⟨reads, hreads, hstrains⟩
    exact (hfits hreads).mp (hall reads hreads) hstrains
  · intro hshort reads hreads
    refine (hfits hreads).mpr ?_
    rintro ⟨early, done, frame, part, -, hdone, -, hpart, hpartial, hlong⟩
    have hlength : part.length < delimiter.length :=
      Nat.lt_of_le_of_ne hpart.length_le fun heq => hpartial (hpart.eq_of_length heq)
    have hle := hshort frame (hdone.subset (by simp))
    omega

/-- Frames that hold a part of their delimiter, with an empty one between them: they leave no room
for more than one byte of the delimiter, and all come out of reads that end inside it. -/
theorem keeps_of_wire_narrow :
    ([1, 2] : List UInt8) ≠ [] ∧
      (∀ frame ∈ ([[0, 1], [], [2, 0]] : List (List UInt8)),
        Delimited [1, 2] frame ∧ frame.length ≤ 3) ∧
      ([[0, 1, 1], [2, 1], [2, 2], [0, 1], [2]] : List (List UInt8)).flatten =
        wire [1, 2] [[0, 1], [], [2, 0]] ∧
      ∃ s, ofDelimiter [1, 2] 3 = .ok s ∧
        s.Fits [[0, 1, 1], [2, 1], [2, 2], [0, 1], [2]] ∧
        (s.pushAll [[0, 1, 1], [2, 1], [2, 2], [0, 1], [2]]).1 = [.frame [0, 1], .frame [2, 0]] := by
  have hne : ([1, 2] : List UInt8) ≠ [] := by decide
  have hframes : ∀ frame ∈ ([[0, 1], [], [2, 0]] : List (List UInt8)),
      Delimited [1, 2] frame ∧ frame.length ≤ 3 := by
    intro frame hframe
    simp only [List.mem_cons, List.not_mem_nil, or_false] at hframe
    rcases hframe with rfl | rfl | rfl <;> exact ⟨⟨by decide, by decide⟩, by decide⟩
  have hreads : ([[0, 1, 1], [2, 1], [2, 2], [0, 1], [2]] : List (List UInt8)).flatten =
      wire [1, 2] [[0, 1], [], [2, 0]] := by decide
  rcases keeps_of_wire hne 3 with ⟨s, hs, hkeeps⟩
  rcases hkeeps _ hframes with ⟨hcut, hall⟩
  have hfits := hall.mpr (by decide) _ hreads
  exact ⟨hne, hframes, hreads, s, hs, hfits, ((hcut _ hreads).2 hfits).1⟩

/-- A frame that is as long as the limit is thrown away when a read ends inside its delimiter. -/
theorem dropped_within_limit :
    ∃ s, ofDelimiter [1, 2] 1 = .ok s ∧ Delimited [1, 2] [0] ∧ ([0] : List UInt8).length ≤ 1 ∧
      ([[0, 1], [2]] : List (List UInt8)).flatten = wire [1, 2] [[0]] ∧
      ¬ s.Fits [[0, 1], [2]] ∧ .frame [0] ∉ (s.pushAll [[0, 1], [2]]).1 := by
  have hcuts : (pushAll ⟨[1, 2], 1, [], 0, by decide⟩ [[0, 1], [2]]).1 = [.oversize 1] := by
    decide +kernel
  refine ⟨⟨[1, 2], 1, [], 0, by decide⟩, rfl, ⟨by decide, by decide⟩, by decide, by decide, ?_, ?_⟩
  · intro hfits
    exact hfits 1 (by rw [hcuts]; exact List.mem_singleton_self _)
  · rw [hcuts]
    decide

end Splitter

end TerminalGateway.Frame
