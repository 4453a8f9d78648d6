import TerminalGateway.Market.Book

/-!
# Sorted order books

A book is sorted if its lines stand in ascending order of price.  A book that is built from lines is
sorted, and a sorted book is the one that is built from its own lines.  The last line with orders to
buy is a best one if the book is sorted, and so is the first line with orders to sell.

Main definitions:

- `Book.IsSorted`: the lines stand in ascending order of price.
- `Book.IsMade`: the book is built from lines.
- `Book.IsBestBid`, `Book.IsBestAsk`: the best lines of either side.
- `Book.FindsBest`: the best lines of a book are found.

Main results:

- Theorem `Book.isMade_iff`: the books that are built from lines are those that are sorted.
- Theorem `Book.IsSorted.findsBest`: the best lines of a sorted book are found.
-/

namespace TerminalGateway

/-! ## Order by value -/

theorem Decimal.le_iff {x y : Decimal} : x.le y = true ↔ x.key ≤ y.key :=
  decide_eq_true_iff

theorem Decimal.le_refl (x : Decimal) : x.le x = true :=
  le_iff.mpr (Int.le_refl _)

theorem Decimal.le_trans {x y z : Decimal} (hxy : x.le y = true) (hyz : y.le z = true) :
    x.le z = true :=
  le_iff.mpr (Int.le_trans (le_iff.mp hxy) (le_iff.mp hyz))

theorem Decimal.le_total (x y : Decimal) : (x.le y || y.le x) = true := by
  rw [Bool.or_eq_true, le_iff, le_iff]
  exact Int.le_total _ _

/-- What is found first in a list stands in its relation to all others that could be found. -/
theorem Market.rel_of_find? {α : Type} {R : α → α → Prop} {items : List α}
    (hitems : items.Pairwise R) {p : α → Bool} {first : α} (h : items.find? p = some first)
    {other : α} (hother : other ∈ items) (hp : p other = true) : other = first ∨ R first other := by
  rcases List.find?_eq_some_iff_append.mp h with ⟨-, before, after, rfl, hbefore⟩
  rcases List.mem_append.mp hother with hmem | hmem
  · have hnot := hbefore other hmem
    simp [hp] at hnot
  · rcases List.mem_cons.mp hmem with rfl | hmem
    · exact .inl rfl
    · have hlater := (List.pairwise_append.mp hitems).2.1
      exact .inr (List.rel_of_pairwise_cons hlater hmem)

namespace Market.Book

/-! ## Sorted books -/

/-- The lines of a book stand in ascending order of price. -/
def IsSorted (book : Book) : Prop :=
  book.levels.Pairwise fun x y => x.price.le y.price = true

instance (book : Book) : Decidable book.IsSorted :=
  inferInstanceAs (Decidable (List.Pairwise _ _))

/-- A book is built from lines. -/
def IsMade (book : Book) : Prop :=
  ∃ asset receivedAt levels, ofLevels asset receivedAt levels = book

theorem isSorted_ofLevels (asset : Asset) (receivedAt : Calendar.Moment) (levels : List Level) :
    (ofLevels asset receivedAt levels).IsSorted := by
  have htrans : ∀ x y z : Level, x.price.le y.price = true → y.price.le z.price = true →
      x.price.le z.price = true := fun _ _ _ => Decimal.le_trans
  exact List.pairwise_mergeSort htrans (fun x y => Decimal.le_total x.price y.price) levels

/-- To build a sorted book from its own lines changes nothing. -/
theorem IsSorted.ofLevels_eq {book : Book} (h : book.IsSorted) :
    ofLevels book.asset book.receivedAt book.levels = book := by
  rw [ofLevels, List.mergeSort_of_pairwise h]

/-- The books that are built from lines are those that are sorted. -/
theorem isMade_iff {book : Book} : book.IsMade ↔ book.IsSorted := by
  constructor
  · rintro ⟨asset, receivedAt, levels, rfl⟩
    exact isSorted_ofLevels asset receivedAt levels
  · intro h
    exact ⟨_, _, _, h.ofLevels_eq⟩

/-! ## The best lines -/

/-- A line with orders to buy, at the highest price of all such lines. -/
structure IsBestBid (book : Book) (level : Level) : Prop where
  mem : level ∈ book.levels
  hasBid : level.bidVolume.isSome = true
  highest : ∀ other ∈ book.levels, other.bidVolume.isSome = true →
    other.price.le level.price = true

/-- A line with orders to sell, at the lowest price of all such lines. -/
structure IsBestAsk (book : Book) (level : Level) : Prop where
  mem : level ∈ book.levels
  hasAsk : level.askVolume.isSome = true
  lowest : ∀ other ∈ book.levels, other.askVolume.isSome = true →
    level.price.le other.price = true

theorem IsSorted.bestBid {book : Book} (h : book.IsSorted) {level : Level}
    (hbest : book.bestBid? = some level) : book.IsBestBid level := by
  unfold bestBid? at hbest
  refine ⟨List.mem_reverse.mp (List.mem_of_find?_eq_some hbest),
    List.find?_some (p := fun level : Level => level.bidVolume.isSome) hbest, fun other hother hbid => ?_⟩
  rcases rel_of_find? (List.pairwise_reverse.mpr h) hbest (List.mem_reverse.mpr hother) hbid with
    rfl | hle
  · exact Decimal.le_refl _
  · exact hle

theorem IsSorted.bestAsk {book : Book} (h : book.IsSorted) {level : Level}
    (hbest : book.bestAsk? = some level) : book.IsBestAsk level := by
  unfold bestAsk? at hbest
  refine ⟨List.mem_of_find?_eq_some hbest,
    List.find?_some (p := fun level : Level => level.askVolume.isSome) hbest, fun other hother hask => ?_⟩
  rcases rel_of_find? h hbest hother hask with rfl | hle
  · exact Decimal.le_refl _
  · exact hle

/-- There is no best line where there are no orders. -/
theorem bestBid?_eq_none_iff {book : Book} :
    book.bestBid? = none ↔ ∀ level ∈ book.levels, level.bidVolume = none := by
  simp [bestBid?]

theorem bestAsk?_eq_none_iff {book : Book} :
    book.bestAsk? = none ↔ ∀ level ∈ book.levels, level.askVolume = none := by
  simp [bestAsk?]

/-- A line is found for either side exactly if there are orders, and it is a best one. -/
structure FindsBest (book : Book) : Prop where
  bid : ∀ level, book.bestBid? = some level → book.IsBestBid level
  noBid : book.bestBid? = none ↔ ∀ level ∈ book.levels, level.bidVolume = none
  ask : ∀ level, book.bestAsk? = some level → book.IsBestAsk level
  noAsk : book.bestAsk? = none ↔ ∀ level ∈ book.levels, level.askVolume = none

theorem IsSorted.findsBest {book : Book} (h : book.IsSorted) : book.FindsBest :=
  ⟨fun _ => h.bestBid, bestBid?_eq_none_iff, fun _ => h.bestAsk, bestAsk?_eq_none_iff⟩

end Market.Book

end TerminalGateway
