import TerminalGateway.Proofs.Subscription.Registry

/-!
# Subscriptions that are taken back

A subscription that makes a new pair changes up to three tables: it may be the first on its asset,
the first for an asset other than the wildcard, and the first of its sink.  Its end finds out from
the tables alone which of these it was, and leaves each table as it was before.  So in every history
a new subscription and its end, one right after the other, may be left out, and so may a
subscription whose pair is there already.

Main results:

- Theorem `arrange_held_arrange`: other sinks on an asset are taken back.
- Theorem `release_enrol`: one subscription more of a sink is taken back.
- Theorem `Reflects.unsubscribe_subscribe`: so is a new pair as a whole.
- Theorem `restores_after`: a new subscription and its end leave no trace.
-/

namespace TerminalGateway.Subscriptions

variable {history : List Call} {subs : Subscriptions} {asset : Asset} {sink : SinkId}
  {table : List (Asset × List SinkId)}

/-! ## Sinks by asset -/

/-- Only the last change of an asset counts. -/
theorem put_put (asset : Asset) (first second : List SinkId)
    (table : List (Asset × List SinkId)) :
    put asset second (put asset first table) = put asset second table := by
  induction table with
  | nil => simp [put]
  | cons entry rest ih =>
      by_cases h : entry.1 = asset
      · simp [put, h]
      · simp [put, h, ih]

/-- To put the sinks on an asset that it has changes nothing. -/
theorem put_held (hkey : asset ∈ table.map Prod.fst) :
    put asset (held table asset) table = table := by
  induction table with
  | nil => simp at hkey
  | cons entry rest ih =>
      rw [held_cons]
      by_cases h : entry.1 = asset
      · subst h
        simp [put]
      · have hrest : asset ∈ rest.map Prod.fst := by simpa [Ne.symm h] using hkey
        simp [put, h, ih hrest]

/-- An asset that was put into a table goes out of it again. -/
theorem filter_put (hkey : asset ∉ table.map Prod.fst) (sinks : List SinkId) :
    (put asset sinks table).filter (fun entry => entry.1 ≠ asset) = table := by
  induction table with
  | nil => simp [put]
  | cons entry rest ih =>
      simp only [List.map_cons, List.mem_cons, not_or] at hkey
      have hne : entry.1 ≠ asset := Ne.symm hkey.1
      rw [put, if_neg hne, List.filter_cons_of_pos (by simpa using hne), ih hkey.2]

/-- Other sinks on an asset are taken back. -/
theorem arrange_held_arrange (h : IsTable table) (asset : Asset) {sinks : List SinkId}
    (hsinks : sinks ≠ []) :
    arrange asset (held table asset) (arrange asset sinks table) = table := by
  have hput : arrange asset sinks table = put asset sinks table := by
    rw [arrange, if_neg (by simpa using hsinks)]
  rw [hput, arrange]
  split
  · rename_i hempty
    apply filter_put
    rw [h.mem_keys_iff, List.isEmpty_iff.mp hempty]
    simp
  · rename_i hheld
    rw [put_put]
    apply put_held
    rw [h.mem_keys_iff]
    simpa using hheld

/-! ## Sinks with their declarations -/

/-- One subscription more of a sink is taken back, whether it was the first one or not. -/
theorem release_enrol {enrolments : List Enrolment}
    (hpos : ∀ enrolment ∈ enrolments, 0 < enrolment.assets) (sink : SinkId)
    (declared : List Capability) : release sink (enrol sink declared enrolments) = enrolments := by
  induction enrolments with
  | nil => simp [enrol, release]
  | cons first rest ih =>
      have hfirst := hpos first List.mem_cons_self
      have hrest := ih fun enrolment hmem => hpos enrolment (List.mem_cons_of_mem first hmem)
      by_cases h : first.sink = sink
      · subst h
        have hcount : ¬ first.assets + 1 ≤ 1 := by omega
        rw [enrol, if_pos rfl, release, if_pos rfl, if_neg hcount]
        rfl
      · simp [enrol, release, h, hrest]

/-! ## A new pair and its end -/

/-- A sink that is new on an asset comes last there. -/
theorem sinksOn_subscribe (hnew : sink ∉ subs.sinksOn asset) (declared : List Capability) :
    (subs.call (.subscribe asset sink declared)).sinksOn asset =
      subs.sinksOn asset ++ [sink] := by
  rw [Reflects.call_subscribe_of_notMem hnew]
  exact (held_arrange asset _ subs.byAsset asset).trans (if_pos rfl)

/-- The end of a subscription tells that there was its pair. -/
theorem fst_unsubscribe_of_mem (hmem : sink ∈ subs.sinksOn asset) :
    (subs.unsubscribe asset sink).1 = true := by
  simp only [unsubscribe, List.contains_iff_mem, hmem, if_true]
  split <;> rfl

namespace Reflects

/-- To take an asset without a sink from the wanted ones changes nothing. -/
theorem filter_assets (h : Reflects history subs) (hnone : subs.sinksOn asset = []) :
    subs.assets.filter (· ≠ asset) = subs.assets := by
  have hunwanted : asset ∉ subs.assets := fun hmem =>
    h.table.mem_keys_iff.mp ((h.represents.mem_assets asset).mp hmem).2 hnone
  rw [List.filter_eq_self]
  intro other hother
  exact decide_eq_true (ne_of_mem_of_not_mem hother hunwanted)

/-- A new subscription and its end leave the tables as they were. -/
theorem unsubscribe_subscribe (h : Reflects history subs) (hnew : sink ∉ subs.sinksOn asset)
    (declared : List Capability) :
    (subs.call (.subscribe asset sink declared)).call (.unsubscribe asset sink) = subs := by
  have hcome := call_subscribe_of_notMem hnew declared
  have hsinks := sinksOn_subscribe hnew declared
  have hleft : (subs.sinksOn asset ++ [sink]).erase sink = subs.sinksOn asset := by
    rw [List.erase_append_right _ hnew]
    simp
  have hpos : ∀ enrolment ∈ subs.sinks, 0 < enrolment.assets := fun enrolment hmem =>
    (h.represents.counts enrolment hmem).1
  have htable : arrange asset (subs.sinksOn asset)
      (arrange asset (subs.sinksOn asset ++ [sink]) subs.byAsset) = subs.byAsset :=
    arrange_held_arrange h.table asset (by simp)
  rw [call_unsubscribe_of_mem (by simp [hsinks]), hsinks, hleft, hcome]
  dsimp only
  rw [htable, release_enrol hpos]
  -- The asset was wanted first by the new subscription if it had no sink and is not the wildcard.
  by_cases hnone : subs.sinksOn asset = []
  · rw [if_pos hnone]
    split
    · rw [List.filter_append, h.filter_assets hnone]
      simp
    · rw [h.filter_assets hnone]
  · rw [if_neg hnone, if_neg fun hfirst => hnone hfirst.1]

end Reflects

/-- Later calls start from where a history led. -/
theorem after_append (history later : List Call) :
    after (history ++ later) = later.foldl call (after history) := by
  simp [after]

/-- In every history a new subscription is told to be new, its end right after it is told to have
ended one, and both together leave everything as it was, so that they may be left out of every
history.  A subscription whose pair is there already is told not to be new and changes nothing. -/
theorem restores_after (history : List Call) (asset : Asset) (sink : SinkId)
    (declared : List Capability) :
    (¬ Holds asset sink history →
      ((after history).subscribe asset sink declared).1.added = true ∧
      ((after history).subscribe asset sink declared).2.unsubscribe asset sink =
        (true, after history) ∧
      ∀ later, after (history ++ .subscribe asset sink declared :: .unsubscribe asset sink :: later)
        = after (history ++ later)) ∧
    (Holds asset sink history →
      (after history).subscribe asset sink declared = (⟨false, false⟩, after history) ∧
      ∀ later, after (history ++ .subscribe asset sink declared :: later) =
        after (history ++ later)) := by
  have h := reflects_after history
  rw [← h.mem_sinksOn]
  refine ⟨fun hnew => ?_, fun hold => ?_⟩
  · have hback := h.unsubscribe_subscribe hnew declared
    have hmem : sink ∈ ((after history).call (.subscribe asset sink declared)).sinksOn asset := by
      simp [sinksOn_subscribe hnew]
    refine ⟨by simp [subscribe, hnew], Prod.ext (fst_unsubscribe_of_mem hmem) hback,
      fun later => ?_⟩
    rw [after_append, after_append, List.foldl_cons, List.foldl_cons, hback]
  · have hsame : (after history).subscribe asset sink declared =
        (⟨false, false⟩, after history) := by
      simp [subscribe, hold]
    refine ⟨hsame, fun later => ?_⟩
    rw [after_append, after_append, List.foldl_cons, call, hsame]

/-- A sink of the wildcard that comes to a new asset and leaves it keeps its first declaration and
its place before a sink that came later, which may subscribe once more in vain. -/
theorem restores_after_wildcardFirst :
    let share : Asset := .instrument "QJSIM" "SBER"
    let future : Asset := .instrument "SPBFUT" "RIU8"
    let history : List Call := [.subscribe .any 2 [.quote], .subscribe share 1 [.candle]]
    ¬ Holds future 2 history ∧ Holds share 1 history ∧
      ((after history).subscribe future 2 [.trade]).2.unsubscribe future 2 =
        (true, ⟨[(.any, [2]), (share, [1])], [share], [⟨2, [.quote], 1⟩, ⟨1, [.candle], 1⟩]⟩) ∧
      (after history).subscribe share 1 [.trade] = (⟨false, false⟩, after history) := by
  intro share future history
  have h := reflects_after history
  have hnew : ¬ Holds future 2 history := by
    rw [← h.mem_sinksOn]
    decide
  have hold : Holds share 1 history := by
    rw [← h.mem_sinksOn]
    decide
  exact ⟨hnew, hold, ((restores_after history future 2 [.trade]).1 hnew).2.1,
    ((restores_after history share 1 [.trade]).2 hold).1⟩

end TerminalGateway.Subscriptions
