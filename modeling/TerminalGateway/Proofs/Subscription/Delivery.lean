import TerminalGateway.Proofs.Subscription.Registry

/-!
# Who is given an event

To whom an event goes, told from the history of subscriptions alone: an event about an asset to
the sinks on that asset and then to those that are only on the wildcard, an event about no single
asset to every sink, each in the order in which it came.  Whoever declared the event's capability
when it came is given it, whatever it has declared since.

Main definitions:

- `IsFiltered`: a delivery from which each sink is given what it declared.
- `GoesToAsset`, `GoesToAll`: deliveries to the sinks on an asset, and to every sink.

Main results:

- Theorem `Reflects.audience_eq`: the audience of an asset, each sink once.
- Theorem `delivery_after`: to whom events go after every history.
-/

namespace TerminalGateway.Subscriptions

variable {history : List Call} {subs : Subscriptions}

/-- Each sink is addressed at most once, and is given the event if it declared its capability when
its registration began. -/
structure IsFiltered (history : List Call) (event : Event) (delivery : Delivery) : Prop where
  nodup : delivery.addressed.Nodup
  sublist : delivery.called.Sublist delivery.addressed
  mem_called : ∀ sink ∈ delivery.addressed, ∃ declared, Declares history sink declared ∧
    (sink ∈ delivery.called ↔ event.capability ∈ declared)

/-- An event goes to the sinks on an asset in the order in which they came to it, and after them
to those on the wildcard alone in the order in which they came to the wildcard. -/
structure GoesToAsset (history : List Call) (asset : Asset) (event : Event) (delivery : Delivery) :
    Prop extends IsFiltered history event delivery where
  addressed : ∃ specific wildcard, InOrder (Holds asset) history specific ∧
    InOrder (Holds .any) history wildcard ∧
    delivery.addressed = specific ++ wildcard.filter (· ∉ specific) ∧
    delivery.count = specific.length + (wildcard.filter (· ∉ specific)).length

/-- An event goes to every sink in the order in which they came. -/
structure GoesToAll (history : List Call) (event : Event) (delivery : Delivery) : Prop
    extends IsFiltered history event delivery where
  addressed : InOrder Registered history delivery.addressed
  count : ∃ sinks, InOrder Registered history sinks ∧ delivery.count = sinks.length

/-! ## Audiences -/

theorem eraseDups_of_nodup {sinks : List SinkId} (h : sinks.Nodup) : sinks.eraseDups = sinks := by
  induction sinks with
  | nil => rfl
  | cons sink rest ih =>
      rw [List.nodup_cons] at h
      have hrest : (rest.filter fun other => !other == sink) = rest :=
        List.filter_eq_self.mpr fun other hother => by
          simpa using fun heq : other = sink => h.1 (heq ▸ hother)
      rw [List.eraseDups_cons, hrest, ih h.2]

namespace Reflects

/-- The audience of an asset is who is on it, and then who is on the wildcard alone. -/
theorem audience_eq (h : Reflects history subs) (asset : Asset) :
    subs.audience asset =
      subs.sinksOn asset ++ (subs.sinksOn .any).filter (· ∉ subs.sinksOn asset) := by
  have hspecific := eraseDups_of_nodup (h.held asset).nodup
  unfold audience
  dsimp only
  split <;> rename_i hany
  · obtain rfl : asset = .any := by cases asset <;> simp [Asset.isAny] at hany ⊢
    have hnone : (subs.sinksOn .any).filter (· ∉ subs.sinksOn .any) = [] :=
      List.filter_eq_nil_iff.mpr fun sink hsink => by simp [hsink]
    rw [hspecific, hnone, List.append_nil]
  · have hothers : (subs.sinksOn .any).removeAll (subs.sinksOn asset) =
        (subs.sinksOn .any).filter (· ∉ subs.sinksOn asset) := by
      simp [List.removeAll]
    rw [List.eraseDups_append, hspecific, hothers,
      eraseDups_of_nodup ((h.held .any).nodup.filter _)]

theorem registered_of_mem_audience (h : Reflects history subs) {asset : Asset} {sink : SinkId}
    (hmem : sink ∈ subs.audience asset) : Registered sink history := by
  rw [h.audience_eq, List.mem_append, List.mem_filter] at hmem
  rcases hmem with hspecific | ⟨hwildcard, -⟩
  · exact ⟨asset, (h.mem_sinksOn asset sink).mp hspecific⟩
  · exact ⟨.any, (h.mem_sinksOn .any sink).mp hwildcard⟩

theorem nodup_audience (h : Reflects history subs) (asset : Asset) :
    (subs.audience asset).Nodup := by
  rw [h.audience_eq]
  refine List.nodup_append.mpr ⟨(h.held asset).nodup, (h.held .any).nodup.filter _, ?_⟩
  rintro sink hspecific other hother rfl
  simp [hspecific] at hother

/-! ## Deliveries -/

/-- A registered sink takes an event if it declared its capability when it came. -/
theorem takes_iff (h : Reflects history subs) (event : Event) {sink : SinkId}
    (hreg : Registered sink history) :
    ∃ declared, Declares history sink declared ∧
      (subs.takes event sink = true ↔ event.capability ∈ declared) := by
  rcases (h.registered_iff_entry sink).mp hreg with ⟨enrolment, hentry⟩
  exact ⟨enrolment.declared, (h.entry sink enrolment hentry).2, by simp [takes, hentry]⟩

theorem isFiltered_deliver (h : Reflects history subs) (event : Event) {addressed : List SinkId}
    (hnodup : addressed.Nodup) (hreg : ∀ sink ∈ addressed, Registered sink history) :
    IsFiltered history event (subs.deliver event addressed) where
  nodup := hnodup
  sublist := List.filter_sublist
  mem_called sink hmem := by
    rcases h.takes_iff event (hreg sink hmem) with ⟨declared, hdeclares, htakes⟩
    refine ⟨declared, hdeclares, ?_⟩
    rw [← htakes]
    exact List.mem_filter.trans (and_iff_right hmem)

theorem goesToAsset_fanout (h : Reflects history subs) (asset : Asset) (event : Event) :
    GoesToAsset history asset event (subs.fanout asset event) where
  toIsFiltered := h.isFiltered_deliver event (h.nodup_audience asset) fun _ =>
    h.registered_of_mem_audience
  addressed := by
    refine ⟨_, _, h.held asset, h.held .any, h.audience_eq asset, ?_⟩
    rw [← List.length_append, ← h.audience_eq]
    rfl

theorem goesToAll_broadcast (h : Reflects history subs) (event : Event) :
    GoesToAll history event (subs.broadcast event) where
  toIsFiltered := h.isFiltered_deliver event h.sinks.nodup fun sink hmem =>
    (h.sinks.mem_iff sink).mp hmem
  addressed := h.sinks
  count := ⟨_, h.sinks, rfl⟩

end Reflects

/-- What is published about an asset goes to the asset, and anything else to every sink. -/
theorem publish_eq (subs : Subscriptions) (event : Event) :
    (∀ asset, event.asset? = some asset → asset ≠ .any →
      subs.publish event = subs.fanout asset event) ∧
    ((∀ asset, event.asset? = some asset → asset = .any) →
      subs.publish event = subs.broadcast event) := by
  unfold publish
  cases event.asset? with
  | none => simp
  | some asset => cases asset <;> simp [Asset.isAny]

/-- After every history an event that is fanned out on an asset goes to the sinks on the asset and
the wildcard, and no sink that is only on other assets is addressed; an event that is broadcast
goes to every sink.  What is published about an asset is fanned out on it, and anything else is
broadcast. -/
theorem delivery_after (history : List Call) (event : Event) :
    (∀ asset, GoesToAsset history asset event ((after history).fanout asset event) ∧
      ∀ sink, ¬ Holds asset sink history → ¬ Holds .any sink history →
        sink ∉ ((after history).fanout asset event).addressed) ∧
    GoesToAll history event ((after history).broadcast event) ∧
    (∀ asset, event.asset? = some asset → asset ≠ .any →
      (after history).publish event = (after history).fanout asset event) ∧
    ((∀ asset, event.asset? = some asset → asset = .any) →
      (after history).publish event = (after history).broadcast event) := by
  have h := reflects_after history
  refine ⟨fun asset => ⟨h.goesToAsset_fanout asset event, fun sink hasset hany hmem => ?_⟩,
    h.goesToAll_broadcast event, publish_eq (after history) event⟩
  have haudience : sink ∈ (after history).audience asset := hmem
  rw [h.audience_eq, List.mem_append, List.mem_filter] at haudience
  rcases haudience with hspecific | ⟨hwildcard, -⟩
  · exact hasset ((h.mem_sinksOn asset sink).mp hspecific)
  · exact hany ((h.mem_sinksOn .any sink).mp hwildcard)

end TerminalGateway.Subscriptions
