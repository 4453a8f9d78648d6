import TerminalGateway.Asset
import TerminalGateway.Decimal.Basic
import TerminalGateway.Calendar.Moment

/-!
# Order books

A complete snapshot of the orders on an asset: price lines with the volume wanted and offered at
each.  Snapshots built from lines keep them in ascending order of price, lines of equal price in
the order in which they came.

Main definitions:

- `Level`, `Book`: a price line and a snapshot.
- `Book.ofLevels`: the snapshot of lines in any order.
- `Book.bestBid?`, `Book.bestAsk?`: the best lines of either side.
-/

namespace TerminalGateway.Market

/-- A price line.  A side without orders has no volume. -/
structure Level where
  price : Decimal
  bidVolume : Option Decimal
  askVolume : Option Decimal
deriving DecidableEq

/-- A snapshot of an order book. -/
structure Book where
  asset : Asset
  /-- When the snapshot was received, in UTC. -/
  receivedAt : Calendar.Moment
  levels : List Level
deriving DecidableEq

namespace Book

/-- The snapshot of lines in any order. -/
def ofLevels (asset : Asset) (receivedAt : Calendar.Moment) (levels : List Level) : Book :=
  ⟨asset, receivedAt, levels.mergeSort fun x y => x.price.le y.price⟩

/-- The last line with orders to buy: in a sorted book one of the highest price. -/
def bestBid? (book : Book) : Option Level :=
  book.levels.reverse.find? fun level => level.bidVolume.isSome

/-- The first line with orders to sell: in a sorted book one of the lowest price. -/
def bestAsk? (book : Book) : Option Level :=
  book.levels.find? fun level => level.askVolume.isSome

end Book

end TerminalGateway.Market
