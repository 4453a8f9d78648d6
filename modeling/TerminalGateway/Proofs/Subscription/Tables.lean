import TerminalGateway.Subscription
import Mathlib.Data.List.Nodup

/-!
# The tables of subscriptions

Subscriptions are kept in two tables: the sinks on each asset, and the sinks with what they
declared and the number of their assets.  This module says what each change of a table does to
what is looked up in it.

Main definitions:

- `held`, `IsTable`: the sinks on an asset, and tables that hold each asset once and with a sink.
- `arrange`: the table with other sinks on an asset, to which every change comes down.
- `degree`: the number of assets that a sink is on.

Main results:

- Theorem `held_arrange`, `degree_arrange`: what is held after a change.
- Theorem `find?_enrol`, `find?_release`: the sinks after one subscription more or less.
-/

namespace TerminalGateway.Subscriptions

/-! ## Sinks by asset -/

/-- The sinks on an asset. -/
def held (table : List (Asset × List SinkId)) (asset : Asset) : List SinkId :=
  (table.lookup asset).getD []

/-- A table that holds every asset at most once, and none without a sink. -/
structure IsTable (table : List (Asset × List SinkId)) : Prop where
  nodup : (table.map Prod.fst).Nodup
  ne_nil : ∀ entry ∈ table, entry.2 ≠ []

/-- The number of assets that a sink is on. -/
def degree (table : List (Asset × List SinkId)) (sink : SinkId) : Nat :=
  table.countP fun entry => entry.2.contains sink

variable {table : List (Asset × List SinkId)} {asset other : Asset} {sink : SinkId}
  {sinks : List SinkId}

@[simp] theorem held_nil (asset : Asset) : held [] asset = [] :=
  rfl

theorem held_cons (entry : Asset × List SinkId) (rest : List (Asset × List SinkId)) :
    held (entry :: rest) asset = if entry.1 = asset then entry.2 else held rest asset := by
  unfold held
  rw [List.lookup_cons]
  by_cases h : asset = entry.1
  · simp [h]
  · rw [beq_false_of_ne h, if_neg (Ne.symm h)]

/-- An asset that the table does not hold has no sinks. -/
theorem held_eq_nil (h : asset ∉ table.map Prod.fst) : held table asset = [] := by
  induction table with
  | nil => rfl
  | cons entry rest ih =>
      simp only [List.map_cons, List.mem_cons, not_or] at h
      rw [held_cons, if_neg (Ne.symm h.1), ih h.2]

namespace IsTable

theorem tail {entry : Asset × List SinkId} (h : IsTable (entry :: table)) : IsTable table :=
  ⟨(List.nodup_cons.mp h.nodup).2, fun e he => h.ne_nil e (List.mem_cons_of_mem _ he)⟩

theorem held_of_mem (h : IsTable table) {entry : Asset × List SinkId} (hmem : entry ∈ table) :
    held table entry.1 = entry.2 := by
  induction table with
  | nil => simp at hmem
  | cons first rest ih =>
      rw [held_cons]
      rcases List.mem_cons.mp hmem with rfl | hrest
      · rw [if_pos rfl]
      · have hne : first.1 ≠ entry.1 := fun heq =>
          (List.nodup_cons.mp h.nodup).1 (heq ▸ List.mem_map_of_mem hrest)
        rw [if_neg hne, ih h.tail hrest]

/-- A table holds the assets that have a sink. -/
theorem mem_keys_iff (h : IsTable table) :
    asset ∈ table.map Prod.fst ↔ held table asset ≠ [] := by
  constructor
  · intro hmem
    rcases List.mem_map.mp hmem with ⟨entry, hentry, rfl⟩
    rw [h.held_of_mem hentry]
    exact h.ne_nil entry hentry
  · intro hne
    by_contra hmem
    exact hne (held_eq_nil hmem)

/-- A sink is on some asset if it is in one of the table's lists. -/
theorem exists_mem_iff (h : IsTable table) :
    (∃ entry ∈ table, sink ∈ entry.2) ↔ ∃ asset, sink ∈ held table asset := by
  constructor
  · rintro ⟨entry, hentry, hsink⟩
    exact ⟨entry.1, (h.held_of_mem hentry).symm ▸ hsink⟩
  · rintro ⟨asset, hsink⟩
    have hkey : asset ∈ table.map Prod.fst := h.mem_keys_iff.mpr (List.ne_nil_of_mem hsink)
    rcases List.mem_map.mp hkey with ⟨entry, hentry, rfl⟩
    exact ⟨entry, hentry, h.held_of_mem hentry ▸ hsink⟩

theorem degree_pos_iff (h : IsTable table) :
    0 < degree table sink ↔ ∃ asset, sink ∈ held table asset := by
  rw [← h.exists_mem_iff, degree, List.countP_pos_iff]
  simp

end IsTable

/-! ### Changes -/

/-- The table with other sinks on an asset, which is left out if there are none. -/
def arrange (asset : Asset) (sinks : List SinkId) (table : List (Asset × List SinkId)) :
    List (Asset × List SinkId) :=
  if sinks.isEmpty then table.filter fun entry => entry.1 ≠ asset else put asset sinks table

theorem keys_put (asset : Asset) (sinks : List SinkId) (table : List (Asset × List SinkId)) :
    (put asset sinks table).map Prod.fst =
      if asset ∈ table.map Prod.fst then table.map Prod.fst else table.map Prod.fst ++ [asset] := by
  induction table with
  | nil => rfl
  | cons entry rest ih =>
      unfold put
      by_cases h : entry.1 = asset
      · simp [h]
      · rw [if_neg h, List.map_cons, ih, List.map_cons]
        by_cases hrest : asset ∈ rest.map Prod.fst
        · rw [if_pos hrest, if_pos (List.mem_cons_of_mem _ hrest)]
        · rw [if_neg hrest, if_neg (by simp [Ne.symm h] at hrest ⊢; exact hrest), List.cons_append]

theorem held_put (asset : Asset) (sinks : List SinkId) (table : List (Asset × List SinkId))
    (other : Asset) :
    held (put asset sinks table) other = if other = asset then sinks else held table other := by
  induction table with
  | nil => simp [put, held_cons, eq_comm]
  | cons entry rest ih =>
      unfold put
      by_cases h : entry.1 = asset
      · rw [if_pos h, held_cons, held_cons, h]
        by_cases hother : other = asset
        · simp [hother]
        · simp [hother, Ne.symm hother]
      · rw [if_neg h, held_cons, held_cons, ih]
        by_cases hother : other = asset
        · simp [hother, h]
        · simp [hother]

theorem held_filter (asset : Asset) (table : List (Asset × List SinkId)) (other : Asset) :
    held (table.filter fun entry => entry.1 ≠ asset) other =
      if other = asset then [] else held table other := by
  induction table with
  | nil => simp
  | cons entry rest ih =>
      by_cases h : entry.1 = asset
      · rw [List.filter_cons_of_neg (by simp [h]), ih, held_cons, h]
        by_cases hother : other = asset
        · simp [hother]
        · simp [hother, Ne.symm hother]
      · rw [List.filter_cons_of_pos (by simp [h]), held_cons, held_cons, ih]
        by_cases hother : other = asset
        · simp [hother, h]
        · simp [hother]

/-- A change gives its asset the new sinks and leaves all others alone. -/
theorem held_arrange (asset : Asset) (sinks : List SinkId) (table : List (Asset × List SinkId))
    (other : Asset) :
    held (arrange asset sinks table) other = if other = asset then sinks else held table other := by
  unfold arrange
  split <;> rename_i hempty
  · rw [held_filter, List.isEmpty_iff.mp hempty]
  · exact held_put asset sinks table other

theorem mem_put {entry : Asset × List SinkId} (h : entry ∈ put asset sinks table) :
    entry ∈ table ∨ entry = (asset, sinks) := by
  induction table with
  | nil => exact .inr (by simpa [put] using h)
  | cons first rest ih =>
      unfold put at h
      split at h <;> rcases List.mem_cons.mp h with rfl | hrest
      · exact .inr rfl
      · exact .inl (List.mem_cons_of_mem _ hrest)
      · exact .inl List.mem_cons_self
      · exact (ih hrest).imp_left (List.mem_cons_of_mem _)

/-- A change leaves a table in which each asset is held once and has a sink. -/
theorem IsTable.arrange (h : IsTable table) (asset : Asset) (sinks : List SinkId) :
    IsTable (arrange asset sinks table) := by
  unfold Subscriptions.arrange
  split <;> rename_i hempty
  · exact ⟨h.nodup.sublist (List.filter_sublist.map _),
      fun entry hentry => h.ne_nil entry (List.mem_of_mem_filter hentry)⟩
  · refine ⟨?_, fun entry hentry => ?_⟩
    · rw [keys_put]
      split <;> rename_i hkey
      · exact h.nodup
      · exact List.nodup_append.mpr ⟨h.nodup, List.nodup_singleton _, by
          rintro key hmem last hlast rfl
          exact hkey (List.mem_singleton.mp hlast ▸ hmem)⟩
    · rcases mem_put hentry with hold | rfl
      · exact h.ne_nil entry hold
      · simpa using hempty

theorem degree_cons (entry : Asset × List SinkId) (rest : List (Asset × List SinkId)) :
    degree (entry :: rest) sink = degree rest sink + if sink ∈ entry.2 then 1 else 0 := by
  simp [degree, List.countP_cons]

theorem degree_put (asset : Asset) (sinks : List SinkId) (table : List (Asset × List SinkId))
    (sink : SinkId) :
    degree (put asset sinks table) sink + (if sink ∈ held table asset then 1 else 0) =
      degree table sink + if sink ∈ sinks then 1 else 0 := by
  induction table with
  | nil => simp [put, degree_cons]
  | cons entry rest ih =>
      unfold put
      by_cases h : entry.1 = asset
      · simp only [if_pos h, degree_cons, held_cons]
        omega
      · simp only [if_neg h, degree_cons, held_cons]
        omega

theorem degree_filter (h : IsTable table) (asset : Asset) (sink : SinkId) :
    degree (table.filter fun entry => entry.1 ≠ asset) sink +
      (if sink ∈ held table asset then 1 else 0) = degree table sink := by
  induction table with
  | nil => simp
  | cons entry rest ih =>
      have hrest := ih h.tail
      by_cases hkey : entry.1 = asset
      · have habsent : held rest asset = [] :=
          held_eq_nil (hkey ▸ (List.nodup_cons.mp h.nodup).1)
        rw [habsent] at hrest
        rw [List.filter_cons_of_neg (by simp [hkey]), degree_cons, held_cons, if_pos hkey]
        simpa using hrest
      · rw [List.filter_cons_of_pos (by simp [hkey]), degree_cons, degree_cons, held_cons,
          if_neg hkey]
        omega

/-- A change counts for the sinks that it puts on its asset and for those that it takes away. -/
theorem degree_arrange (h : IsTable table) (asset : Asset) (sinks : List SinkId)
    (sink : SinkId) :
    degree (arrange asset sinks table) sink + (if sink ∈ held table asset then 1 else 0) =
      degree table sink + if sink ∈ sinks then 1 else 0 := by
  unfold arrange
  split <;> rename_i hempty
  · rw [List.isEmpty_iff.mp hempty]
    simpa using degree_filter h asset sink
  · exact degree_put asset sinks table sink

/-! ## Sinks with their declarations -/

variable {enrolments : List Enrolment}

theorem mem_sinks_iff :
    sink ∈ enrolments.map Enrolment.sink ↔
      ∃ enrolment, (enrolments.find? fun e => e.sink = sink) = some enrolment := by
  rw [← Option.isSome_iff_exists, List.find?_isSome]
  simp

theorem find?_of_mem (hnodup : (enrolments.map Enrolment.sink).Nodup) {enrolment : Enrolment}
    (hmem : enrolment ∈ enrolments) :
    (enrolments.find? fun e => e.sink = enrolment.sink) = some enrolment := by
  induction enrolments with
  | nil => simp at hmem
  | cons first rest ih =>
      rcases List.mem_cons.mp hmem with rfl | hrest
      · simp
      · have hne : first.sink ≠ enrolment.sink := fun heq =>
          (List.nodup_cons.mp hnodup).1 (heq ▸ List.mem_map_of_mem hrest)
        rw [List.find?_cons_of_neg (by simpa using hne)]
        exact ih (List.nodup_cons.mp hnodup).2 hrest

/-- A sink that is new comes last. -/
theorem sinks_enrol (sink : SinkId) (declared : List Capability) (enrolments : List Enrolment) :
    (enrol sink declared enrolments).map Enrolment.sink =
      if sink ∈ enrolments.map Enrolment.sink then enrolments.map Enrolment.sink
      else enrolments.map Enrolment.sink ++ [sink] := by
  induction enrolments with
  | nil => rfl
  | cons first rest ih =>
      unfold enrol
      by_cases h : first.sink = sink
      · simp [h]
      · rw [if_neg h, List.map_cons, ih, List.map_cons]
        by_cases hrest : sink ∈ rest.map Enrolment.sink
        · rw [if_pos hrest, if_pos (List.mem_cons_of_mem _ hrest)]
        · rw [if_neg hrest, if_neg (List.not_mem_cons_of_ne_of_not_mem (Ne.symm h) hrest),
            List.cons_append]

/-- The entry of a sink with one subscription more. -/
def raised (sink : SinkId) (declared : List Capability) : Option Enrolment → Enrolment
  | some enrolment => { enrolment with assets := enrolment.assets + 1 }
  | none => ⟨sink, declared, 1⟩

/-- The entry of a sink with one subscription less, nothing if it was the last one. -/
def lowered? (enrolment : Enrolment) : Option Enrolment :=
  if enrolment.assets ≤ 1 then none
  else some { enrolment with assets := enrolment.assets - 1 }

theorem find?_enrol (sink : SinkId) (declared : List Capability) (enrolments : List Enrolment)
    (other : SinkId) :
    ((enrol sink declared enrolments).find? fun e => e.sink = other) =
      if other = sink then some (raised sink declared (enrolments.find? fun e => e.sink = sink))
      else enrolments.find? fun e => e.sink = other := by
  induction enrolments with
  | nil => by_cases hother : other = sink <;> simp [enrol, raised, hother, eq_comm]
  | cons first rest ih =>
      unfold enrol
      by_cases h : first.sink = sink
      · by_cases hother : other = sink
        · simp [h, hother, raised]
        · simp [h, hother, Ne.symm hother]
      · rw [if_neg h, List.find?_cons, List.find?_cons, List.find?_cons, ih]
        by_cases hother : other = sink
        · simp [hother, h]
        · simp [hother]

theorem sinks_release_sublist (sink : SinkId) (enrolments : List Enrolment) :
    ((release sink enrolments).map Enrolment.sink).Sublist (enrolments.map Enrolment.sink) := by
  induction enrolments with
  | nil => exact .refl _
  | cons first rest ih =>
      unfold release
      split
      · split
        · exact List.sublist_cons_self _ _
        · exact .refl _
      · exact ih.cons_cons _

theorem find?_release (hnodup : (enrolments.map Enrolment.sink).Nodup) (sink other : SinkId) :
    ((release sink enrolments).find? fun e => e.sink = other) =
      if other = sink then (enrolments.find? fun e => e.sink = sink).bind lowered?
      else enrolments.find? fun e => e.sink = other := by
  induction enrolments with
  | nil => simp [release]
  | cons first rest ih =>
      rw [List.map_cons, List.nodup_cons] at hnodup
      unfold release
      by_cases h : first.sink = sink
      · have hnone : (rest.find? fun e => e.sink = sink) = none := by
          rw [← h]
          simpa using hnodup.1
        by_cases hother : other = sink
        · by_cases hlast : first.assets ≤ 1
          · simp [h, hother, hlast, lowered?, hnone]
          · simp [h, hother, hlast, lowered?]
        · by_cases hlast : first.assets ≤ 1
          · simp [h, hother, Ne.symm hother, hlast]
          · simp [h, hother, Ne.symm hother, hlast]
      · rw [if_neg h, List.find?_cons, List.find?_cons, List.find?_cons, ih hnodup.2]
        by_cases hother : other = sink
        · simp [hother, h]
        · simp [hother]

end TerminalGateway.Subscriptions
