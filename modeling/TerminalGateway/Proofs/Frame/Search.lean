import TerminalGateway.Frame
import Mathlib.Data.List.Infix

/-!
# Finding delimiters

Where a delimiter occurs in a stream, and what the search for it finds.  A search goes on where
the one before it stopped; it finds the first delimiter all the same, as long as no delimiter ends
within the bytes that were scanned.

Main definitions:

- `OccursAt`, `FirstAt`: the occurrences of a pattern in a text, and the first of them.
- `Splitter.IsScanned`: no delimiter ends within the bytes that were scanned.

Main results:

- Theorem `Splitter.firstAt_of_find?`: a delimiter that is found is the first one.
- Theorem `Splitter.absent_of_find?`: where none is found there is none.
-/

namespace TerminalGateway.Frame

/-! ## Occurrences -/

/-- A pattern occurs in a text at a position. -/
def OccursAt (pattern text : List UInt8) (position : Nat) : Prop :=
  pattern <+: text.drop position

/-- A pattern occurs nowhere in a text. -/
def Absent (pattern text : List UInt8) : Prop :=
  ∀ position, ¬ OccursAt pattern text position

/-- A pattern occurs in a text at a position, and at none before it. -/
structure FirstAt (pattern text : List UInt8) (position : Nat) : Prop where
  occurs : OccursAt pattern text position
  first : ∀ earlier < position, ¬ OccursAt pattern text earlier

variable {pattern text : List UInt8}

theorem occursAt_drop (start position : Nat) :
    OccursAt pattern (text.drop start) position ↔ OccursAt pattern text (start + position) := by
  simp [OccursAt, List.drop_drop]

/-- An occurrence ends within its text. -/
theorem OccursAt.end_le (hne : pattern ≠ []) {position : Nat}
    (h : OccursAt pattern text position) : position + pattern.length ≤ text.length := by
  have hlength := h.length_le
  have hpos := List.length_pos_iff.mpr hne
  rw [List.length_drop] at hlength
  omega

theorem absent_nil (hne : pattern ≠ []) : Absent pattern [] := by
  intro position h
  have hend := h.end_le hne
  have hpos := List.length_pos_iff.mpr hne
  rw [List.length_nil] at hend
  omega

/-- What a text has at its front is there whatever comes behind it. -/
theorem occursAt_append {position : Nat} (hend : position + pattern.length ≤ text.length)
    (more : List UInt8) :
    OccursAt pattern (text ++ more) position ↔ OccursAt pattern text position := by
  unfold OccursAt
  rw [List.drop_append_of_le_length (by omega)]
  constructor
  · intro h
    exact List.prefix_of_prefix_length_le h (List.prefix_append _ _)
      (by rw [List.length_drop]; omega)
  · intro h
    exact h.trans (List.prefix_append _ _)

namespace FirstAt

/-- There is only one first occurrence. -/
theorem unique {position other : Nat} (h : FirstAt pattern text position)
    (hother : FirstAt pattern text other) : position = other := by
  refine Nat.le_antisymm ?_ ?_
  · exact Nat.le_of_not_lt fun hlt => h.first other hlt hother.occurs
  · exact Nat.le_of_not_lt fun hlt => hother.first position hlt h.occurs

/-- A first occurrence stays the first when the text goes on.  An earlier one would end before
it, within the text that was there already. -/
theorem append (hne : pattern ≠ []) {position : Nat} (h : FirstAt pattern text position)
    (more : List UInt8) : FirstAt pattern (text ++ more) position := by
  have hend := h.occurs.end_le hne
  refine ⟨(occursAt_append hend more).mpr h.occurs, fun earlier hlt hoccurs => ?_⟩
  exact h.first earlier hlt ((occursAt_append (by omega) more).mp hoccurs)

end FirstAt

/-! ## Searching -/

namespace Splitter

/-- What is found is the first occurrence. -/
theorem firstAt_of_findFrom {start found : Nat} (h : findFrom pattern start text = some found) :
    ∃ position, found = start + position ∧ FirstAt pattern text position := by
  induction text generalizing start with
  | nil =>
      unfold findFrom at h
      split at h <;> rename_i hempty
      · obtain rfl : pattern = [] := List.isEmpty_iff.mp hempty
        exact ⟨0, (Option.some.inj h).symm, List.nil_prefix, by simp⟩
      · simp at h
  | cons b rest ih =>
      unfold findFrom at h
      split at h <;> rename_i hprefix
      · exact ⟨0, (Option.some.inj h).symm, List.isPrefixOf_iff_prefix.mp hprefix, by simp⟩
      · rcases ih h with ⟨position, rfl, hoccurs, hfirst⟩
        refine ⟨position + 1, by omega, hoccurs, fun earlier hlt => ?_⟩
        cases earlier with
        | zero => exact fun hoccurs => hprefix (List.isPrefixOf_iff_prefix.mpr hoccurs)
        | succ earlier => exact hfirst earlier (by omega)

/-- Where nothing is found there is no occurrence. -/
theorem absent_of_findFrom {start : Nat} (h : findFrom pattern start text = none) :
    Absent pattern text := by
  induction text generalizing start with
  | nil =>
      unfold findFrom at h
      split at h <;> rename_i hempty
      · simp at h
      · exact absent_nil (by simpa using hempty)
  | cons b rest ih =>
      unfold findFrom at h
      split at h <;> rename_i hprefix
      · simp at h
      · intro position
        cases position with
        | zero => exact fun hoccurs => hprefix (List.isPrefixOf_iff_prefix.mpr hoccurs)
        | succ position => exact ih h position

/-- No delimiter ends within the bytes that were scanned. -/
structure IsScanned (s : Splitter) : Prop where
  scanned_le : s.scanned ≤ s.buffer.length
  absent : ∀ position, position + s.delimiter.length ≤ s.scanned →
    ¬ OccursAt s.delimiter s.buffer position

variable {s : Splitter}

theorem delimiter_pos (s : Splitter) : 0 < s.delimiter.length :=
  List.length_pos_iff.mpr s.delimiter_ne

/-- No delimiter begins before the place where the search goes on. -/
theorem IsScanned.of_lt_resumeAt (h : s.IsScanned) {position : Nat}
    (hlt : position < s.resumeAt) : ¬ OccursAt s.delimiter s.buffer position := by
  have hpos := s.delimiter_pos
  unfold resumeAt at hlt
  exact h.absent position (by omega)

/-- A delimiter that is found is the first in the buffer. -/
theorem firstAt_of_find? (h : s.IsScanned) {found : Nat} (hfind : s.find? = some found) :
    FirstAt s.delimiter s.buffer found := by
  rcases firstAt_of_findFrom hfind with ⟨position, rfl, hoccurs, hfirst⟩
  refine ⟨(occursAt_drop _ _).mp hoccurs, fun earlier hlt => ?_⟩
  by_cases hresume : earlier < s.resumeAt
  · exact h.of_lt_resumeAt hresume
  · rcases Nat.exists_eq_add_of_le (Nat.le_of_not_lt hresume) with ⟨offset, rfl⟩
    rw [← occursAt_drop]
    exact hfirst offset (by omega)

/-- Where no delimiter is found there is none in the buffer. -/
theorem absent_of_find? (h : s.IsScanned) (hfind : s.find? = none) :
    Absent s.delimiter s.buffer := by
  have habsent := absent_of_findFrom hfind
  intro position
  by_cases hresume : position < s.resumeAt
  · exact h.of_lt_resumeAt hresume
  · rcases Nat.exists_eq_add_of_le (Nat.le_of_not_lt hresume) with ⟨offset, rfl⟩
    rw [← occursAt_drop]
    exact habsent offset

/-- A buffer that is shorter than the delimiter holds none. -/
theorem absent_of_isShort (hshort : s.isShort = true) : Absent s.delimiter s.buffer := by
  intro position hoccurs
  have hend := hoccurs.end_le s.delimiter_ne
  have hpos := s.delimiter_pos
  have hlength : s.buffer.length ≤ s.delimiter.length - 1 := by simpa [isShort] using hshort
  omega

end Splitter

end TerminalGateway.Frame
