import TerminalGateway.Proofs.Subscription.History
import TerminalGateway.Proofs.Subscription.Tables

/-!
# Subscriptions and their history

The tables in which subscriptions are kept say what the history of calls says: who is on which
asset and in which order they came, which sinks there are and what each declared when it came, and
which assets are wanted.  Every call keeps the tables so.

Main definitions:

- `Declares`: what a sink declared when its registration began.
- `Reflects`: the tables reflect a history.
- `Represents`: the tables agree with each other.

Main results:

- Theorem `Reflects.call`: a call keeps the tables in step with the history.
- Theorem `reflects_after`: so does every history.
- Theorem `represents_after`: after every history the tables agree with each other, and calls
  report what they change.
-/

namespace TerminalGateway.Subscriptions

variable {history : List Call} {subs : Subscriptions} {asset other : Asset} {sink : SinkId}
  {declared : List Capability}

/-- A sink declared this when it began to be registered. -/
def Declares (history : List Call) (sink : SinkId) (declared : List Capability) : Prop :=
  ∃ position asset, Began (Registered sink) history position ∧
    history[position]? = some (.subscribe asset sink declared)

/-- The tables reflect a history. -/
structure Reflects (history : List Call) (subs : Subscriptions) : Prop where
  table : IsTable subs.byAsset
  /-- The sinks on an asset stand in the order in which they came to it. -/
  held : ∀ asset, InOrder (Holds asset) history (subs.sinksOn asset)
  /-- The wanted assets stand in the order in which they came to have a sink. -/
  assets : InOrder Wanted history subs.assets
  /-- The sinks stand in the order in which they came to have an asset. -/
  sinks : InOrder Registered history (subs.sinks.map Enrolment.sink)
  /-- The entry of a sink counts its assets and keeps its first declaration. -/
  entry : ∀ sink enrolment, subs.enrolment? sink = some enrolment →
    enrolment.assets = degree subs.byAsset sink ∧ Declares history sink enrolment.declared

/-! ## Histories with one call more -/

theorem not_registered_nil (sink : SinkId) : ¬ Registered sink [] :=
  fun ⟨asset, h⟩ => not_holds_nil asset sink h

theorem not_wanted_nil (asset : Asset) : ¬ Wanted asset [] :=
  fun ⟨_, sink, h⟩ => not_holds_nil asset sink h

/-- A declaration stands as long as its sink is registered. -/
theorem Declares.concat (h : Declares history sink declared) {next : Call}
    (hnext : Registered sink (history ++ [next])) :
    Declares (history ++ [next]) sink declared := by
  rcases h with ⟨position, asset, hbegan, hcall⟩
  refine ⟨position, asset, hbegan.concat hnext, ?_⟩
  rw [List.getElem?_append_left hbegan.lt]
  exact hcall

/-- A sink that comes to be registered declares what goes with the call. -/
theorem declares_of_first (asset : Asset) (declared : List Capability)
    (h : ¬ Registered sink history) :
    Declares (history ++ [.subscribe asset sink declared]) sink declared := by
  refine ⟨history.length, asset, .of_last h ⟨asset, by simp⟩, ?_⟩
  rw [List.getElem?_append_right (Nat.le_refl _), Nat.sub_self]
  rfl

@[simp] theorem registered_concat_subscribe (added : SinkId) (declared : List Capability) :
    Registered sink (history ++ [.subscribe asset added declared]) ↔
      Registered sink history ∨ sink = added := by
  constructor
  · rintro ⟨other, h⟩
    rcases (holds_concat_subscribe added declared).mp h with ⟨-, rfl⟩ | hold
    · exact .inr rfl
    · exact .inl ⟨other, hold⟩
  · rintro (⟨other, h⟩ | rfl)
    · exact ⟨other, (holds_concat_subscribe added declared).mpr (.inr h)⟩
    · exact ⟨asset, (holds_concat_subscribe sink declared).mpr (.inl ⟨rfl, rfl⟩)⟩

theorem wanted_concat_subscribe (added : SinkId) (declared : List Capability) :
    Wanted other (history ++ [.subscribe asset added declared]) ↔
      Wanted other history ∨ (other ≠ .any ∧ other = asset) := by
  constructor
  · rintro ⟨hany, sink, h⟩
    rcases (holds_concat_subscribe added declared).mp h with ⟨hasset, -⟩ | hold
    · exact .inr ⟨hany, hasset⟩
    · exact .inl ⟨hany, sink, hold⟩
  · rintro (⟨hany, sink, h⟩ | ⟨hany, rfl⟩)
    · exact ⟨hany, sink, (holds_concat_subscribe added declared).mpr (.inr h)⟩
    · exact ⟨hany, added, (holds_concat_subscribe added declared).mpr (.inl ⟨rfl, rfl⟩)⟩

namespace Reflects

/-- A sink is on an asset if its pair holds. -/
theorem mem_sinksOn (h : Reflects history subs) (asset : Asset) (sink : SinkId) :
    sink ∈ subs.sinksOn asset ↔ Holds asset sink history :=
  (h.held asset).mem_iff sink

/-- An asset has no sink in the tables if it has none. -/
theorem sinksOn_eq_nil_iff (h : Reflects history subs) (asset : Asset) :
    subs.sinksOn asset = [] ↔ ∀ sink, ¬ Holds asset sink history := by
  rw [List.eq_nil_iff_forall_not_mem]
  exact forall_congr' fun sink => not_congr (h.mem_sinksOn asset sink)

/-- The tables have an entry for a sink if it is registered. -/
theorem registered_iff_entry (h : Reflects history subs) (sink : SinkId) :
    Registered sink history ↔ ∃ enrolment, subs.enrolment? sink = some enrolment :=
  (h.sinks.mem_iff sink).symm.trans mem_sinks_iff

/-- The declaration in an entry stands as long as its sink is registered. -/
theorem declares_concat (h : Reflects history subs) {enrolment : Enrolment} {next : Call}
    (hentry : subs.enrolment? sink = some enrolment)
    (hnext : Registered sink (history ++ [next])) :
    Declares (history ++ [next]) sink enrolment.declared :=
  (h.entry sink enrolment hentry).2.concat hnext

/-- A sink is registered if it is on some asset of the table. -/
theorem registered_iff_degree {table : List (Asset × List SinkId)} (htable : IsTable table)
    (hheld : ∀ asset, InOrder (Holds asset) history (Subscriptions.held table asset))
    (sink : SinkId) : Registered sink history ↔ 0 < degree table sink := by
  rw [htable.degree_pos_iff]
  exact exists_congr fun asset => ((hheld asset).mem_iff sink).symm

/-! ## Calls that change nothing -/

/-- A call that makes and ends no pair leaves the tables as they are. -/
theorem keep (h : Reflects history subs) {next : Call}
    (hsame : ∀ asset sink, Holds asset sink (history ++ [next]) ↔ Holds asset sink history) :
    Reflects (history ++ [next]) subs := by
  have hregistered : ∀ sink, Registered sink (history ++ [next]) ↔ Registered sink history :=
    fun sink => exists_congr fun asset => hsame asset sink
  have hwanted : ∀ asset, Wanted asset (history ++ [next]) ↔ Wanted asset history :=
    fun asset => and_congr_right fun _ => exists_congr fun sink => hsame asset sink
  refine ⟨h.table, fun asset => (h.held asset).keep (hsame asset), h.assets.keep hwanted,
    h.sinks.keep hregistered, fun sink enrolment hentry => ?_⟩
  have hnext := (hregistered sink).mpr ((h.registered_iff_entry sink).mpr ⟨enrolment, hentry⟩)
  exact ⟨(h.entry sink enrolment hentry).1, h.declares_concat hentry hnext⟩

/-! ## A new pair -/

/-- What a subscription does if its pair is new. -/
theorem call_subscribe_of_notMem (hnew : sink ∉ subs.sinksOn asset)
    (declared : List Capability) :
    subs.call (.subscribe asset sink declared) =
      { byAsset := arrange asset (subs.sinksOn asset ++ [sink]) subs.byAsset
        assets :=
          if subs.sinksOn asset = [] ∧ asset ≠ .any then subs.assets ++ [asset] else subs.assets
        sinks := enrol sink declared subs.sinks } := by
  have hfirst : ((subs.sinksOn asset).isEmpty && !asset.isAny) = true ↔
      subs.sinksOn asset = [] ∧ asset ≠ .any := by
    cases asset <;> simp [Asset.isAny]
  simp only [Subscriptions.call, subscribe, List.contains_iff_mem, hnew, if_false, hfirst, arrange]
  simp

/-- The sinks on an asset after a sink has come to one. -/
theorem held_subscribe (h : Reflects history subs) (hnew : sink ∉ subs.sinksOn asset)
    (declared : List Capability) (other : Asset) :
    InOrder (Holds other) (history ++ [.subscribe asset sink declared])
      (Subscriptions.held
        (arrange asset (subs.sinksOn asset ++ [sink]) subs.byAsset) other) := by
  rw [held_arrange]
  split <;> rename_i hother
  · subst hother
    refine (h.held other).concat (not_holds_nil other) ?_ fun x => ?_
    · rwa [← h.mem_sinksOn]
    · simp [or_comm]
  · exact (h.held other).keep fun x => by simp [hother]

/-- The wanted assets after a sink has come to an asset: it is wanted if it was not before. -/
theorem assets_subscribe (h : Reflects history subs) (asset : Asset) (sink : SinkId)
    (declared : List Capability) :
    InOrder Wanted (history ++ [.subscribe asset sink declared])
      (if subs.sinksOn asset = [] ∧ asset ≠ .any then subs.assets ++ [asset]
        else subs.assets) := by
  split <;> rename_i hfirst
  · have hunwanted : ¬ Wanted asset history := fun hwanted =>
      hwanted.2.elim ((h.sinksOn_eq_nil_iff asset).mp hfirst.1)
    refine h.assets.concat not_wanted_nil hunwanted fun x => ?_
    rw [wanted_concat_subscribe]
    exact or_congr_right ⟨And.right, fun hx => ⟨hx ▸ hfirst.2, hx⟩⟩
  · refine h.assets.keep fun x => ?_
    rw [wanted_concat_subscribe]
    refine or_iff_left_of_imp ?_
    rintro ⟨hany, rfl⟩
    rcases List.exists_mem_of_ne_nil _ fun hnil => hfirst ⟨hnil, hany⟩ with ⟨first, hmem⟩
    exact ⟨hany, first, (h.mem_sinksOn x first).mp hmem⟩

/-- The sinks after one has come to an asset: it comes last if it was not there before. -/
theorem sinks_subscribe (h : Reflects history subs) (asset : Asset) (sink : SinkId)
    (declared : List Capability) :
    InOrder Registered (history ++ [.subscribe asset sink declared])
      ((enrol sink declared subs.sinks).map Enrolment.sink) := by
  rw [sinks_enrol]
  split <;> rename_i hold <;> rw [h.sinks.mem_iff] at hold
  · refine h.sinks.keep fun x => ?_
    rw [registered_concat_subscribe]
    exact or_iff_left_of_imp fun hx => hx ▸ hold
  · exact h.sinks.concat not_registered_nil hold fun x => registered_concat_subscribe sink declared

/-- A new pair adds to the degree of its sink. -/
theorem degree_subscribe (htable : IsTable subs.byAsset) (hnew : sink ∉ subs.sinksOn asset)
    (x : SinkId) :
    degree (arrange asset (subs.sinksOn asset ++ [sink]) subs.byAsset) x =
      degree subs.byAsset x + if x = sink then 1 else 0 := by
  have hdegree := degree_arrange htable asset (subs.sinksOn asset ++ [sink]) x
  have hheld : Subscriptions.held subs.byAsset asset = subs.sinksOn asset := rfl
  rw [hheld] at hdegree
  by_cases hx : x = sink
  · subst hx
    simpa [hnew] using hdegree
  · simp only [List.mem_append, List.mem_singleton, hx, or_false, if_false] at hdegree ⊢
    omega

/-- The entry of a sink that comes to an asset is right again, whether it was there or not. -/
theorem raised_subscribe (h : Reflects history subs) (asset : Asset) (sink : SinkId)
    (declared : List Capability) :
    (raised sink declared (subs.enrolment? sink)).assets = degree subs.byAsset sink + 1 ∧
      Declares (history ++ [.subscribe asset sink declared]) sink
        (raised sink declared (subs.enrolment? sink)).declared := by
  cases hentry : subs.enrolment? sink with
  | some enrolment =>
      have hcount := (h.entry sink enrolment hentry).1
      have hnext : Registered sink (history ++ [.subscribe asset sink declared]) :=
        (registered_concat_subscribe sink declared).mpr (.inr rfl)
      have hdeclares := h.declares_concat hentry hnext
      exact ⟨by rw [raised, hcount], hdeclares⟩
  | none =>
      have hnone : ¬ Registered sink history := by
        rw [h.registered_iff_entry, hentry]
        simp
      have hzero := (registered_iff_degree h.table h.held sink).not.mp hnone
      exact ⟨by rw [raised, Nat.eq_zero_of_not_pos hzero], declares_of_first asset declared hnone⟩

/-- A subscription that makes a new pair keeps the tables in step. -/
theorem subscribe_of_notMem (h : Reflects history subs) (hnew : sink ∉ subs.sinksOn asset)
    (declared : List Capability) :
    Reflects (history ++ [.subscribe asset sink declared])
      (subs.call (.subscribe asset sink declared)) := by
  rw [call_subscribe_of_notMem hnew]
  refine ⟨h.table.arrange _ _, h.held_subscribe hnew declared,
    h.assets_subscribe asset sink declared, h.sinks_subscribe asset sink declared,
    fun x enrolment hentry => ?_⟩
  have hfind : (if x = sink then some (raised sink declared (subs.enrolment? sink))
      else subs.enrolment? x) = some enrolment :=
    (find?_enrol sink declared subs.sinks x).symm.trans hentry
  dsimp only
  rw [degree_subscribe h.table hnew]
  split at hfind <;> rename_i hx
  · cases hfind
    rw [if_pos hx, hx]
    exact h.raised_subscribe asset sink declared
  · have hreg := (h.registered_iff_entry x).mpr ⟨enrolment, hfind⟩
    rw [if_neg hx, Nat.add_zero]
    exact ⟨(h.entry x enrolment hfind).1, h.declares_concat hfind
      ((registered_concat_subscribe sink declared).mpr (.inl hreg))⟩

/-! ## The end of a pair -/

/-- What the end of a subscription does if there is its pair. -/
theorem call_unsubscribe_of_mem (hmem : sink ∈ subs.sinksOn asset) :
    subs.call (.unsubscribe asset sink) =
      { byAsset := arrange asset ((subs.sinksOn asset).erase sink) subs.byAsset
        assets :=
          if (subs.sinksOn asset).erase sink = [] then subs.assets.filter (· ≠ asset)
          else subs.assets
        sinks := release sink subs.sinks } := by
  simp only [Subscriptions.call, unsubscribe, List.contains_iff_mem, hmem, if_true, arrange,
    List.isEmpty_iff]
  split <;> rfl

/-- The sinks on an asset after a sink has left one. -/
theorem held_unsubscribe (h : Reflects history subs) (asset : Asset) (sink : SinkId)
    (other : Asset) :
    InOrder (Holds other) (history ++ [.unsubscribe asset sink])
      (Subscriptions.held (arrange asset ((subs.sinksOn asset).erase sink) subs.byAsset)
        other) := by
  rw [held_arrange]
  split <;> rename_i hother
  · subst hother
    refine (h.held other).sublist List.erase_sublist fun x => ?_
    rw [(h.held other).nodup.mem_erase_iff, h.mem_sinksOn]
    simp
  · exact (h.held other).keep fun x => by simp [hother]

/-- The wanted assets after a sink has left an asset: it goes with its last sink. -/
theorem assets_unsubscribe (h : Reflects history subs) (hmem : sink ∈ subs.sinksOn asset) :
    InOrder Wanted (history ++ [.unsubscribe asset sink])
      (if (subs.sinksOn asset).erase sink = [] then subs.assets.filter (· ≠ asset)
        else subs.assets) := by
  have hleft := (h.held_unsubscribe asset sink asset).mem_iff
  rw [held_arrange, if_pos rfl] at hleft
  split <;> rename_i hlast
  · refine h.assets.sublist List.filter_sublist fun x => ?_
    rw [List.mem_filter, h.assets.mem_iff]
    unfold Wanted
    by_cases hx : x = asset
    · subst hx
      have hnone : ∀ y, ¬ Holds x y (history ++ [.unsubscribe x sink]) := fun y => by
        rw [← hleft y, hlast]
        exact List.not_mem_nil
      simp only [hnone]
      simp
    · simp [hx]
  · refine h.assets.keep fun x => and_congr_right fun _ => ?_
    by_cases hx : x = asset
    · subst hx
      rcases List.exists_mem_of_ne_nil _ hlast with ⟨left, hmemleft⟩
      exact iff_of_true ⟨left, (hleft left).mp hmemleft⟩ ⟨sink, (h.mem_sinksOn x sink).mp hmem⟩
    · exact exists_congr fun y => by simp [hx]

/-- The end of a pair takes from the degree of its sink. -/
theorem degree_unsubscribe (h : Reflects history subs) (hmem : sink ∈ subs.sinksOn asset)
    (x : SinkId) :
    degree (arrange asset ((subs.sinksOn asset).erase sink) subs.byAsset) x +
      (if x = sink then 1 else 0) = degree subs.byAsset x := by
  have hdegree := degree_arrange h.table asset ((subs.sinksOn asset).erase sink) x
  have hheld : Subscriptions.held subs.byAsset asset = subs.sinksOn asset := rfl
  rw [hheld] at hdegree
  simp only [(h.held asset).nodup.mem_erase_iff] at hdegree
  by_cases hx : x = sink
  · subst hx
    simpa [hmem] using hdegree
  · simp only [ne_eq, hx, not_false_eq_true, true_and, if_false] at hdegree ⊢
    omega

/-- After the end of a pair the sinks with an asset are registered. -/
theorem registered_unsubscribe (h : Reflects history subs) (asset : Asset) (sink x : SinkId) :
    Registered x (history ++ [.unsubscribe asset sink]) ↔
      0 < degree (arrange asset ((subs.sinksOn asset).erase sink) subs.byAsset) x :=
  registered_iff_degree (h.table.arrange _ _) (h.held_unsubscribe asset sink) x

/-- An entry that is left after the end of a pair is that of a sink with an asset, and is right
again. -/
theorem of_find?_release (h : Reflects history subs) (hmem : sink ∈ subs.sinksOn asset)
    {x : SinkId} {enrolment : Enrolment}
    (hentry : ((release sink subs.sinks).find? fun e => e.sink = x) = some enrolment) :
    0 < enrolment.assets ∧
      enrolment.assets =
        degree (arrange asset ((subs.sinksOn asset).erase sink) subs.byAsset) x ∧
      ∃ before, subs.enrolment? x = some before ∧ enrolment.declared = before.declared := by
  have hdegree := h.degree_unsubscribe hmem x
  rw [find?_release h.sinks.nodup] at hentry
  split at hentry <;> rename_i hx
  · rcases Option.bind_eq_some_iff.mp hentry with ⟨before, hbefore, hlowered⟩
    have hcount := (h.entry sink before hbefore).1
    unfold lowered? at hlowered
    split at hlowered <;> rename_i hlast
    · simp at hlowered
    · cases hlowered
      subst hx
      rw [if_pos rfl] at hdegree
      exact ⟨by dsimp only; omega, by dsimp only; omega, before, hbefore, rfl⟩
  · have hcount := (h.entry x enrolment hentry).1
    have hpos := (registered_iff_degree h.table h.held x).mp
      ((h.registered_iff_entry x).mpr ⟨enrolment, hentry⟩)
    rw [if_neg hx] at hdegree
    exact ⟨hcount ▸ hpos, hcount.trans hdegree.symm, enrolment, hentry, rfl⟩

/-- The sinks after one has left an asset: it goes with its last asset. -/
theorem sinks_unsubscribe (h : Reflects history subs) (hmem : sink ∈ subs.sinksOn asset) :
    InOrder Registered (history ++ [.unsubscribe asset sink])
      ((release sink subs.sinks).map Enrolment.sink) := by
  refine h.sinks.sublist (sinks_release_sublist sink subs.sinks) fun x => ?_
  rw [h.registered_unsubscribe, mem_sinks_iff]
  constructor
  · rintro ⟨enrolment, hentry⟩
    rcases h.of_find?_release hmem hentry with ⟨hpos, hassets, -⟩
    exact hassets ▸ hpos
  · intro hpos
    have hdegree := h.degree_unsubscribe hmem x
    have hreg : Registered x history := (registered_iff_degree h.table h.held x).mpr (by omega)
    rcases (h.registered_iff_entry x).mp hreg with ⟨before, hbefore⟩
    have hcount := (h.entry x before hbefore).1
    rw [find?_release h.sinks.nodup]
    split <;> rename_i hx
    · subst hx
      rw [if_pos rfl] at hdegree
      exact ⟨{ before with assets := before.assets - 1 },
        Option.bind_eq_some_iff.mpr ⟨before, hbefore, if_neg (by omega)⟩⟩
    · exact ⟨before, hbefore⟩

/-- The end of a pair keeps the tables in step. -/
theorem unsubscribe_of_mem (h : Reflects history subs) (hmem : sink ∈ subs.sinksOn asset) :
    Reflects (history ++ [.unsubscribe asset sink]) (subs.call (.unsubscribe asset sink)) := by
  rw [call_unsubscribe_of_mem hmem]
  refine ⟨h.table.arrange _ _, h.held_unsubscribe asset sink, h.assets_unsubscribe hmem,
    h.sinks_unsubscribe hmem, fun x enrolment hentry => ?_⟩
  rcases h.of_find?_release hmem hentry with ⟨hpos, hassets, before, hbefore, hdeclared⟩
  refine ⟨hassets, ?_⟩
  rw [hdeclared]
  exact h.declares_concat hbefore ((h.registered_unsubscribe asset sink x).mpr (hassets ▸ hpos))

/-! ## Every call -/

/-- A call keeps the tables in step with the history. -/
theorem call (h : Reflects history subs) (next : Call) :
    Reflects (history ++ [next]) (subs.call next) := by
  cases next with
  | subscribe asset sink declared =>
      by_cases hmem : sink ∈ subs.sinksOn asset
      · have hsame : subs.call (.subscribe asset sink declared) = subs := by
          simp [Subscriptions.call, subscribe, hmem]
        rw [hsame]
        refine h.keep fun other x => ?_
        rw [holds_concat_subscribe]
        refine or_iff_right_of_imp ?_
        rintro ⟨rfl, rfl⟩
        exact (h.mem_sinksOn other x).mp hmem
      · exact h.subscribe_of_notMem hmem declared
  | unsubscribe asset sink =>
      by_cases hmem : sink ∈ subs.sinksOn asset
      · exact h.unsubscribe_of_mem hmem
      · have hsame : subs.call (.unsubscribe asset sink) = subs := by
          simp [Subscriptions.call, unsubscribe, hmem]
        rw [hsame]
        refine h.keep fun other x => ?_
        rw [holds_concat_unsubscribe]
        refine and_iff_right_of_imp ?_
        rintro hholds ⟨rfl, rfl⟩
        exact hmem ((h.mem_sinksOn other x).mpr hholds)

end Reflects

theorem reflects_nil : Reflects [] {} where
  table := ⟨.nil, by simp⟩
  held asset := .nil (not_holds_nil asset)
  assets := .nil not_wanted_nil
  sinks := .nil not_registered_nil
  entry sink enrolment hentry := by simp [enrolment?] at hentry

/-- After every history the tables reflect it. -/
theorem reflects_after (history : List Call) : Reflects history (after history) := by
  induction history using List.reverseRecOn with
  | nil => exact reflects_nil
  | append_singleton history next ih =>
      rw [after_concat]
      exact ih.call next

/-! ## What the tables represent -/

/-- The tables agree with each other and with a history. -/
structure Represents (history : List Call) (subs : Subscriptions) : Prop where
  pairs : ∀ asset sink, sink ∈ subs.sinksOn asset ↔ Holds asset sink history
  keys_nodup : (subs.byAsset.map Prod.fst).Nodup
  lists : ∀ entry ∈ subs.byAsset, entry.2 ≠ [] ∧ entry.2.Nodup
  sinks_nodup : (subs.sinks.map Enrolment.sink).Nodup
  /-- The sinks are those that occur in some list. -/
  mem_sinks : ∀ sink, sink ∈ subs.sinks.map Enrolment.sink ↔ ∃ entry ∈ subs.byAsset, sink ∈ entry.2
  /-- The count of a sink is the number of assets whose list contains it, and never zero. -/
  counts : ∀ enrolment ∈ subs.sinks, 0 < enrolment.assets ∧
    enrolment.assets = subs.byAsset.countP fun entry => entry.2.contains enrolment.sink
  /-- The wanted assets are those of the table without the wildcard. -/
  mem_assets : ∀ asset, asset ∈ subs.assets ↔ asset ≠ .any ∧ asset ∈ subs.byAsset.map Prod.fst
  assets_nodup : subs.assets.Nodup
  /-- The wanted assets stand in the order in which they came to have a sink. -/
  assets_inOrder : InOrder Wanted history subs.assets

theorem Reflects.represents (h : Reflects history subs) : Represents history subs where
  pairs := h.mem_sinksOn
  keys_nodup := h.table.nodup
  lists entry hentry := by
    refine ⟨h.table.ne_nil entry hentry, ?_⟩
    rw [← h.table.held_of_mem hentry]
    exact (h.held entry.1).nodup
  sinks_nodup := h.sinks.nodup
  mem_sinks sink := by
    rw [h.sinks.mem_iff, registered_iff_degree h.table h.held, h.table.degree_pos_iff,
      h.table.exists_mem_iff]
  counts enrolment hmem := by
    have hcount := (h.entry _ _ (find?_of_mem h.sinks.nodup hmem)).1
    have hreg : Registered enrolment.sink history :=
      (h.sinks.mem_iff _).mp (List.mem_map_of_mem hmem)
    refine ⟨?_, hcount⟩
    rw [hcount]
    exact (registered_iff_degree h.table h.held _).mp hreg
  mem_assets asset := by
    rw [h.assets.mem_iff, h.table.mem_keys_iff]
    refine and_congr_right fun _ => ?_
    have hnone : Subscriptions.held subs.byAsset asset = [] ↔ ∀ sink, ¬ Holds asset sink history :=
      h.sinksOn_eq_nil_iff asset
    rw [ne_eq, hnone, not_forall_not]
  assets_nodup := h.assets.nodup
  assets_inOrder := h.assets

/-- After every history the tables agree with each other and with the history.  A subscription
reports whether its pair is new and whether it gives an asset other than the wildcard its first
sink; the end of a subscription reports whether there was its pair, and changes nothing if there
was none. -/
theorem represents_after (history : List Call) :
    Represents history (after history) ∧
    ∀ asset sink declared,
      (((after history).subscribe asset sink declared).1.added = true ↔
        ¬ Holds asset sink history) ∧
      (((after history).subscribe asset sink declared).1.firstForAsset = true ↔
        asset ≠ .any ∧ ∀ other, ¬ Holds asset other history) ∧
      (((after history).unsubscribe asset sink).1 = true ↔ Holds asset sink history) ∧
      (¬ Holds asset sink history →
        ((after history).unsubscribe asset sink).2 = after history) := by
  have h := reflects_after history
  refine ⟨h.represents, fun asset sink declared => ?_⟩
  rw [← h.mem_sinksOn, ← h.sinksOn_eq_nil_iff]
  by_cases hmem : sink ∈ (after history).sinksOn asset
  · have hne : (after history).sinksOn asset ≠ [] := List.ne_nil_of_mem hmem
    have hended : ((after history).unsubscribe asset sink).1 = true := by
      unfold unsubscribe
      simp only [List.contains_iff_mem, hmem, if_true]
      split <;> rfl
    simp [subscribe, hmem, hne, hended]
  · have hwildcard : asset.isAny = false ↔ asset ≠ .any := by cases asset <;> simp [Asset.isAny]
    simp [subscribe, unsubscribe, hmem, hwildcard, and_comm]

end TerminalGateway.Subscriptions
