import TerminalGateway.Asset

/-!
# Parts between separators

A text that is split at a character falls into the parts that were joined with it, as long as no
part holds the character itself.  At its first occurrence a text splits even if it occurs again
behind.

Main results:

- Theorem `splitFirst?_append`: a text is split where the character occurs first.
- Theorem `splitFirst?_eq_some_iff`: what stands before and after the first occurrence.
- Theorem `splitAll_intercalate`: joined parts come out as they went in.
- Theorem `splitAll_eq_cons_cons_iff`: the first two parts of a text.
-/

namespace TerminalGateway.Asset

variable {separator : Char} {before part : List Char}

theorem others_of_not_mem (h : separator ∉ before) :
    ∀ c ∈ before, decide (c ≠ separator) = true := by
  intro c hc
  exact decide_eq_true fun heq => h (heq ▸ hc)

/-- A text is split where the character occurs first. -/
theorem splitFirst?_append (h : separator ∉ before) (after : List Char) :
    splitFirst? separator (before ++ separator :: after) = some (before, after) := by
  have hother := others_of_not_mem h
  have hend : (separator :: after).dropWhile (fun c => decide (c ≠ separator)) =
      separator :: after := List.dropWhile_cons_of_neg (by simp)
  have hnone : (separator :: after).takeWhile (fun c => decide (c ≠ separator)) = [] :=
    List.takeWhile_cons_of_neg (by simp)
  rw [splitFirst?, List.dropWhile_append_of_pos hother, hend]
  dsimp only
  rw [List.takeWhile_append_of_pos hother, hnone, List.append_nil]

/-- A text splits if the character occurs, into what stands before and after it for the first
time. -/
theorem splitFirst?_eq_some_iff {cs after : List Char} :
    splitFirst? separator cs = some (before, after) ↔
      cs = before ++ separator :: after ∧ separator ∉ before := by
  constructor
  · intro h
    by_cases hmem : separator ∈ cs
    · obtain ⟨first, rest, rfl, hfirst⟩ := List.eq_append_cons_of_mem hmem
      rw [splitFirst?_append hfirst rest] at h
      cases h
      exact ⟨rfl, hfirst⟩
    · have hend : cs.dropWhile (fun c => decide (c ≠ separator)) = [] := by
        rw [← List.append_nil cs, List.dropWhile_append_of_pos (others_of_not_mem hmem)]
        rfl
      rw [splitFirst?, hend] at h
      cases h
  · rintro ⟨rfl, hbefore⟩
    exact splitFirst?_append hbefore after

theorem splitAll_of_not_mem (h : separator ∉ part) : splitAll separator part = [part] := by
  induction part with
  | nil => rfl
  | cons c rest ih =>
      rw [List.mem_cons, not_or] at h
      rw [splitAll, if_neg (Ne.symm h.1), ih h.2]

theorem splitAll_append (h : separator ∉ part) (rest : List Char) :
    splitAll separator (part ++ separator :: rest) = part :: splitAll separator rest := by
  induction part with
  | nil => rw [List.nil_append, splitAll, if_pos rfl]
  | cons c part ih =>
      rw [List.mem_cons, not_or] at h
      rw [List.cons_append, splitAll, if_neg (Ne.symm h.1), ih h.2]

/-- The first part of a text ends with it, or where the character occurs first. -/
theorem splitAll_cases (separator : Char) (cs : List Char) :
    (separator ∉ cs ∧ splitAll separator cs = [cs]) ∨
      ∃ part rest, cs = part ++ separator :: rest ∧ separator ∉ part ∧
        splitAll separator cs = part :: splitAll separator rest := by
  by_cases hmem : separator ∈ cs
  · obtain ⟨part, rest, rfl, hpart⟩ := List.eq_append_cons_of_mem hmem
    exact .inr ⟨part, rest, rfl, hpart, splitAll_append hpart rest⟩
  · exact .inl ⟨hmem, splitAll_of_not_mem hmem⟩

/-- The first two parts of a text make up all of it, or another part follows them. -/
theorem splitAll_eq_cons_cons_iff {cs first second : List Char} :
    (∃ rest, splitAll separator cs = first :: second :: rest) ↔
      separator ∉ first ∧ separator ∉ second ∧
        (cs = first ++ separator :: second ∨
          ∃ more, cs = first ++ separator :: (second ++ separator :: more)) := by
  constructor
  · rintro ⟨rest, h⟩
    rcases splitAll_cases separator cs with ⟨-, hwhole⟩ | ⟨part, tail, rfl, hpart, hsplit⟩
    · rw [hwhole] at h
      cases h
    · rw [hsplit] at h
      obtain ⟨rfl, htail⟩ := List.cons.inj h
      rcases splitAll_cases separator tail with ⟨hlast, hwhole⟩ | ⟨next, more, rfl, hnext, hmore⟩
      · rw [hwhole] at htail
        obtain ⟨rfl, -⟩ := List.cons.inj htail
        exact ⟨hpart, hlast, .inl rfl⟩
      · rw [hmore] at htail
        obtain ⟨rfl, -⟩ := List.cons.inj htail
        exact ⟨hpart, hnext, .inr ⟨more, rfl⟩⟩
  · rintro ⟨hfirst, hsecond, rfl | ⟨more, rfl⟩⟩
    · exact ⟨[], by rw [splitAll_append hfirst, splitAll_of_not_mem hsecond]⟩
    · exact ⟨splitAll separator more, by rw [splitAll_append hfirst, splitAll_append hsecond]⟩

/-- Joined parts come out as they went in. -/
theorem splitAll_intercalate {parts : List (List Char)} (hne : parts ≠ [])
    (h : ∀ part ∈ parts, separator ∉ part) :
    splitAll separator ([separator].intercalate parts) = parts := by
  induction parts with
  | nil => exact absurd rfl hne
  | cons part parts ih =>
      have hpart := h part List.mem_cons_self
      cases parts with
      | nil =>
          rw [List.intercalate_singleton]
          exact splitAll_of_not_mem hpart
      | cons next parts =>
          have hparts := ih (List.cons_ne_nil next parts) fun other hother =>
            h other (List.mem_cons_of_mem part hother)
          rw [List.intercalate_cons_cons, List.append_assoc, List.singleton_append,
            splitAll_append hpart, hparts]

end TerminalGateway.Asset
