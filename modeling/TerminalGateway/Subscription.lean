import TerminalGateway.Event.Basic

/-!
# Subscriptions

Sinks subscribe to assets, or to the wildcard for all of them.  An event about an asset goes to
the sinks on that asset and then to those on the wildcard, each once; an event about no single
asset goes to every sink.  A sink is given only what it declared when it first subscribed.

Main definitions:

- `Subscriptions`: who is subscribed to what.
- `Subscriptions.subscribe`, `Subscriptions.unsubscribe`: adding and removing a pair.
- `Subscriptions.fanout`, `Subscriptions.broadcast`, `Subscriptions.publish`: who is given an
  event.
-/

namespace TerminalGateway

/-- The number of a sink. -/
abbrev SinkId := Nat

/-- A sink with at least one subscription. -/
structure Enrolment where
  sink : SinkId
  /-- What the sink declared when its first subscription was made. -/
  declared : List Capability
  /-- The number of assets that the sink is subscribed to, the wildcard among them. -/
  assets : Nat
deriving DecidableEq

/-- What a subscription brought about. -/
structure Subscribed where
  /-- The pair is new. -/
  added : Bool
  /-- The asset is not the wildcard and had no sink before, so its feed is to be asked for. -/
  firstForAsset : Bool
deriving Repr, DecidableEq

/-- To whom an event was addressed and who was given it, in order. -/
structure Delivery where
  addressed : List SinkId
  /-- Those of the addressed sinks that declared the capability. -/
  called : List SinkId
deriving Repr, DecidableEq

/-- The number of sinks that an event was addressed to, which is what the caller is told. -/
def Delivery.count (delivery : Delivery) : Nat :=
  delivery.addressed.length

/-- Who is subscribed to what. -/
structure Subscriptions where
  /-- The sinks on each asset, in the order in which they came to it. -/
  byAsset : List (Asset × List SinkId) := []
  /-- The assets with a sink, without the wildcard, in the order of their first subscription. -/
  assets : List Asset := []
  /-- The sinks in the order of their first subscription. -/
  sinks : List Enrolment := []
deriving DecidableEq

namespace Subscriptions

/-! ## Looking up -/

/-- The sinks on an asset. -/
def sinksOn (subs : Subscriptions) (asset : Asset) : List SinkId :=
  (subs.byAsset.lookup asset).getD []

/-- A sink with its declaration. -/
def enrolment? (subs : Subscriptions) (sink : SinkId) : Option Enrolment :=
  subs.sinks.find? fun enrolment => enrolment.sink = sink

/-- The number of sinks. -/
def sinkCount (subs : Subscriptions) : Nat :=
  subs.sinks.length

/-- Nobody is subscribed to anything. -/
def isEmpty (subs : Subscriptions) : Bool :=
  subs.sinks.isEmpty

/-! ## Adding and removing a pair -/

/-- The table with other sinks on an asset, which comes last if it is new. -/
def put (asset : Asset) (sinks : List SinkId) :
    List (Asset × List SinkId) → List (Asset × List SinkId)
  | [] => [(asset, sinks)]
  | (other, held) :: rest =>
      if other = asset then (asset, sinks) :: rest else (other, held) :: put asset sinks rest

/-- The sinks with one more subscription of a sink, which comes last if it is new. -/
def enrol (sink : SinkId) (declared : List Capability) : List Enrolment → List Enrolment
  | [] => [⟨sink, declared, 1⟩]
  | first :: rest =>
      if first.sink = sink then { first with assets := first.assets + 1 } :: rest
      else first :: enrol sink declared rest

/-- The sinks with one subscription less of a sink, which goes with its last one. -/
def release (sink : SinkId) : List Enrolment → List Enrolment
  | [] => []
  | first :: rest =>
      if first.sink = sink then
        if first.assets ≤ 1 then rest else { first with assets := first.assets - 1 } :: rest
      else first :: release sink rest

/-- Subscribes a sink to an asset.  What it declares counts only if it has no subscription yet;
a pair that is there already changes nothing. -/
def subscribe (subs : Subscriptions) (asset : Asset) (sink : SinkId)
    (declared : List Capability) : Subscribed × Subscriptions :=
  let held := subs.sinksOn asset
  if held.contains sink then (⟨false, false⟩, subs)
  else
    let first := held.isEmpty && !asset.isAny
    (⟨true, first⟩,
      { byAsset := put asset (held ++ [sink]) subs.byAsset
        assets := if first then subs.assets ++ [asset] else subs.assets
        sinks := enrol sink declared subs.sinks })

/-- Ends the subscription of a sink to an asset; tells whether there was one. -/
def unsubscribe (subs : Subscriptions) (asset : Asset) (sink : SinkId) : Bool × Subscriptions :=
  let held := subs.sinksOn asset
  if held.contains sink then
    let left := held.erase sink
    let sinks := release sink subs.sinks
    if left.isEmpty then
      (true,
        { byAsset := subs.byAsset.filter fun entry => entry.1 ≠ asset
          assets := subs.assets.filter (· ≠ asset)
          sinks := sinks })
    else (true, { subs with byAsset := put asset left subs.byAsset, sinks := sinks })
  else (false, subs)

/-! ## Delivering an event -/

/-- A sink declared the capability that an event needs. -/
def takes (subs : Subscriptions) (event : Event) (sink : SinkId) : Bool :=
  (subs.enrolment? sink).any fun enrolment => enrolment.declared.contains event.capability

/-- Whoever is on an asset, and after them whoever is only on the wildcard. -/
def audience (subs : Subscriptions) (asset : Asset) : List SinkId :=
  let specific := subs.sinksOn asset
  if asset.isAny then specific.eraseDups
  else (specific ++ subs.sinksOn .any).eraseDups

/-- The event is addressed to the given sinks. -/
def deliver (subs : Subscriptions) (event : Event) (addressed : List SinkId) : Delivery :=
  ⟨addressed, addressed.filter (subs.takes event)⟩

/-- Addresses an event to the sinks on an asset and on the wildcard, each once. -/
def fanout (subs : Subscriptions) (asset : Asset) (event : Event) : Delivery :=
  subs.deliver event (subs.audience asset)

/-- Addresses an event to every sink. -/
def broadcast (subs : Subscriptions) (event : Event) : Delivery :=
  subs.deliver event (subs.sinks.map Enrolment.sink)

/-- Addresses an event to whom it concerns: the sinks on its asset and on the wildcard, or every
sink when it concerns no single asset. -/
def publish (subs : Subscriptions) (event : Event) : Delivery :=
  match event.asset? with
  | some asset => if asset.isAny then subs.broadcast event else subs.fanout asset event
  | none => subs.broadcast event

end Subscriptions

end TerminalGateway
