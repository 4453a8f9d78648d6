import TerminalGateway.Proofs.Decimal.Value
import TerminalGateway.Proofs.Market.Book

/-!
# How the lines of a book are arranged

A book that is built from lines holds just these lines.  They stand in ascending order of price, and
lines of equal price stand as they came, so the best lines can be told from the lines that came: the
best one to buy is the last of the highest price, the best one to sell the first of the lowest.  If
no two prices are equal, the order in which the lines came makes no difference at all.

Main definitions:

- `Book.Arranges`: a book holds given lines in their order.
- `IsBestToBuy`, `IsBestToSell`: the best of given lines.
- `Book.Quotes`: the best lines that a book tells are the best of given lines.

Main results:

- Theorem `Book.arranges_ofLevels`: a book arranges the lines that it is built from.
- Theorem `Book.quotes_ofLevels`: it tells the best of them.
- Theorem `Book.ofLevels_eq_of_perm`: lines at different prices may come in any order.
-/

namespace TerminalGateway.Market

variable {levels : List Level} {best : Level}

/-- Lines at a price. -/
def isAt (price : Rat) (level : Level) : Bool :=
  level.price.value = price

/-! ## Finding the first -/

/-- What is found first is the first of all that could be found and are like it. -/
theorem head?_filter_of_find? {α : Type} {items : List α} {first : α} {p q : α → Bool}
    (h : items.find? p = some first) (hq : q first = true) :
    (items.filter fun item => p item && q item).head? = some first := by
  rw [← List.head?_filter] at h
  obtain ⟨rest, hrest⟩ := List.head?_eq_some_iff.mp h
  have hsplit : items.filter (fun item => p item && q item) = (items.filter p).filter q := by
    simp only [List.filter_filter, Bool.and_comm]
  rw [hsplit, hrest, List.filter_cons_of_pos hq, List.head?_cons]

/-! ## Lines in their order -/

/-- A book holds given lines, in ascending order of price, and those of equal price as they came. -/
structure Book.Arranges (book : Book) (levels : List Level) : Prop where
  perm : book.levels.Perm levels
  ascending : book.levels.Pairwise fun level later => level.price.value ≤ later.price.value
  stable : ∀ price, book.levels.filter (isAt price) = levels.filter (isAt price)

namespace Book

variable (asset : Asset) (receivedAt : Calendar.Moment)

theorem perm_ofLevels (levels : List Level) :
    (ofLevels asset receivedAt levels).levels.Perm levels :=
  List.mergeSort_perm levels _

/-- Lines of equal price are in ascending order as they come. -/
theorem pairwise_filter_isAt (levels : List Level) (price : Rat) :
    (levels.filter (isAt price)).Pairwise fun level later => level.price.le later.price = true := by
  apply List.pairwise_of_forall_mem_list
  intro level hlevel later hlater
  have hvalue : level.price.value = price := of_decide_eq_true (List.mem_filter.mp hlevel).2
  have hlaterValue : later.price.value = price := of_decide_eq_true (List.mem_filter.mp hlater).2
  exact Decimal.value_le_iff.mp (hvalue.trans hlaterValue.symm).le

/-- Lines of equal price stay as they came: sorting keeps what is in order, and loses no line. -/
theorem filter_isAt_ofLevels (levels : List Level) (price : Rat) :
    (ofLevels asset receivedAt levels).levels.filter (isAt price) =
      levels.filter (isAt price) := by
  have htrans : ∀ x y z : Level, x.price.le y.price = true → y.price.le z.price = true →
      x.price.le z.price = true := fun _ _ _ => Decimal.le_trans
  have hkept : (levels.filter (isAt price)).Sublist (ofLevels asset receivedAt levels).levels :=
    List.sublist_mergeSort htrans (fun x y => Decimal.le_total x.price y.price)
      (pairwise_filter_isAt levels price) List.filter_sublist
  have hsublist := hkept.filter (isAt price)
  simp only [List.filter_filter, Bool.and_self] at hsublist
  have hlength := ((perm_ofLevels asset receivedAt levels).filter (isAt price)).length_eq
  exact (hsublist.eq_of_length hlength.symm).symm

/-- A book arranges the lines that it is built from. -/
theorem arranges_ofLevels (levels : List Level) :
    (ofLevels asset receivedAt levels).Arranges levels where
  perm := perm_ofLevels asset receivedAt levels
  ascending := by
    refine (isSorted_ofLevels asset receivedAt levels).imp ?_
    intro level later hle
    exact Decimal.value_le_iff.mpr hle
  stable := filter_isAt_ofLevels asset receivedAt levels

/-- Of lines at different prices each is told by its price. -/
theorem eq_of_value_eq {levels : List Level}
    (hprices : levels.Pairwise fun level later => level.price.value ≠ later.price.value)
    {level other : Level} (hlevel : level ∈ levels) (hother : other ∈ levels)
    (hvalue : level.price.value = other.price.value) : level = other := by
  have : Std.Symm fun level later : Level => level.price.value ≠ later.price.value :=
    ⟨fun _ _ => Ne.symm⟩
  by_contra hne
  exact hprices.forall hlevel hother hne hvalue

/-- Lines at different prices may come in any order. -/
theorem ofLevels_eq_of_perm {levels other : List Level}
    (hprices : levels.Pairwise fun level later => level.price.value ≠ later.price.value)
    (hperm : other.Perm levels) :
    ofLevels asset receivedAt other = ofLevels asset receivedAt levels := by
  have hother := (perm_ofLevels asset receivedAt other).trans hperm
  have hlevels := perm_ofLevels asset receivedAt levels
  have hsame : (ofLevels asset receivedAt other).levels =
      (ofLevels asset receivedAt levels).levels := by
    refine List.Perm.eq_of_pairwise ?_ (isSorted_ofLevels asset receivedAt other)
      (isSorted_ofLevels asset receivedAt levels) (hother.trans hlevels.symm)
    intro level later hlevel hlater hle hge
    refine eq_of_value_eq hprices (hother.mem_iff.mp hlevel) (hlevels.mem_iff.mp hlater) ?_
    exact le_antisymm (Decimal.value_le_iff.mpr hle) (Decimal.value_le_iff.mpr hge)
  exact congrArg (Book.mk asset receivedAt) hsame

end Book

/-! ## The best lines -/

/-- The best line to buy among lines: no line with orders to buy has a higher price, and of those
with an equal price it is the last. -/
structure IsBestToBuy (levels : List Level) (best : Level) : Prop where
  hasBid : best.bidVolume.isSome = true
  highest : ∀ level ∈ levels, level.bidVolume.isSome = true →
    level.price.value ≤ best.price.value
  last : (levels.filter fun level =>
    level.bidVolume.isSome && isAt best.price.value level).getLast? = some best

/-- The best line to sell among lines: no line with orders to sell has a lower price, and of those
with an equal price it is the first. -/
structure IsBestToSell (levels : List Level) (best : Level) : Prop where
  hasAsk : best.askVolume.isSome = true
  lowest : ∀ level ∈ levels, level.askVolume.isSome = true →
    best.price.value ≤ level.price.value
  first : (levels.filter fun level =>
    level.askVolume.isSome && isAt best.price.value level).head? = some best

namespace Book

/-- The best lines that a book tells are the best of given lines, and it tells one for either side
if there is any. -/
structure Quotes (book : Book) (levels : List Level) : Prop where
  bid : ∀ best, book.bestBid? = some best → IsBestToBuy levels best
  noBid : book.bestBid? = none ↔ ∀ level ∈ levels, level.bidVolume = none
  ask : ∀ best, book.bestAsk? = some best → IsBestToSell levels best
  noAsk : book.bestAsk? = none ↔ ∀ level ∈ levels, level.askVolume = none

variable {book : Book}

theorem Arranges.filter_eq (h : book.Arranges levels) (p : Level → Bool) (price : Rat) :
    book.levels.filter (fun level => p level && isAt price level) =
      levels.filter fun level => p level && isAt price level := by
  rw [← List.filter_filter, ← List.filter_filter, h.stable]

theorem Arranges.isBestToBuy (h : book.Arranges levels) (hsorted : book.IsSorted)
    (hbest : book.bestBid? = some best) : IsBestToBuy levels best := by
  have hbid := hsorted.bestBid hbest
  refine ⟨hbid.hasBid, ?highest, ?last⟩
  case highest =>
    intro level hlevel hlevelBid
    exact Decimal.value_le_iff.mpr (hbid.highest level (h.perm.mem_iff.mpr hlevel) hlevelBid)
  case last =>
    rw [← h.filter_eq, List.getLast?_eq_head?_reverse, ← List.filter_reverse]
    exact head?_filter_of_find? hbest (decide_eq_true rfl)

theorem Arranges.isBestToSell (h : book.Arranges levels) (hsorted : book.IsSorted)
    (hbest : book.bestAsk? = some best) : IsBestToSell levels best := by
  have hask := hsorted.bestAsk hbest
  refine ⟨hask.hasAsk, ?lowest, ?first⟩
  case lowest =>
    intro level hlevel hlevelAsk
    exact Decimal.value_le_iff.mpr (hask.lowest level (h.perm.mem_iff.mpr hlevel) hlevelAsk)
  case first =>
    rw [← h.filter_eq]
    exact head?_filter_of_find? hbest (decide_eq_true rfl)

/-- A book that is built from lines tells the best of them. -/
theorem quotes_ofLevels (asset : Asset) (receivedAt : Calendar.Moment) (levels : List Level) :
    (ofLevels asset receivedAt levels).Quotes levels := by
  have harranges := arranges_ofLevels asset receivedAt levels
  have hsorted := isSorted_ofLevels asset receivedAt levels
  have hmem (level : Level) :
      level ∈ (ofLevels asset receivedAt levels).levels ↔ level ∈ levels := harranges.perm.mem_iff
  constructor
  case bid => exact fun _ => harranges.isBestToBuy hsorted
  case noBid =>
    rw [bestBid?_eq_none_iff]
    simp only [hmem]
  case ask => exact fun _ => harranges.isBestToSell hsorted
  case noAsk =>
    rw [bestAsk?_eq_none_iff]
    simp only [hmem]

end Book

end TerminalGateway.Market
