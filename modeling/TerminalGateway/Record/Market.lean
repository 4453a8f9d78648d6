import TerminalGateway.Market.Quote
import TerminalGateway.Market.Candle
import TerminalGateway.Market.Book
import TerminalGateway.Record.Basic

/-!
# Record forms: market data

How quotes, candles and order books are stored as JSON: objects with the fields in a fixed
order, null for what is absent.
-/

namespace TerminalGateway.Record

open TerminalGateway.Json (Tree Value)
open TerminalGateway.Market (Quote Candle Level Book)

/-- A quote. -/
def readQuote? (tree : Tree) : Option Quote := do
  let record ← Json.Record.ofTree? ["asset", "received_at", "bid", "ask", "last", "last_change",
    "last_volume", "trade_time"] tree
  return {
    asset := ← record.required "asset" readAsset?
    receivedAt := ← record.required "received_at" readUtc?
    bid := ← record.optional "bid" readDecimal?
    ask := ← record.optional "ask" readDecimal?
    last := ← record.optional "last" readDecimal?
    lastChange := ← record.optional "last_change" readDecimal?
    lastVolume := ← record.optional "last_volume" readDecimal?
    tradeTime := ← record.optional "trade_time" readLocal? }

/-- The fields of a quote in order. -/
def writeQuote (quote : Quote) : Value :=
  .object [
    ("asset", writeAsset quote.asset),
    ("received_at", writeUtc quote.receivedAt),
    ("bid", .ofOption writeDecimal quote.bid),
    ("ask", .ofOption writeDecimal quote.ask),
    ("last", .ofOption writeDecimal quote.last),
    ("last_change", .ofOption writeDecimal quote.lastChange),
    ("last_volume", .ofOption writeDecimal quote.lastVolume),
    ("trade_time", .ofOption writeLocal quote.tradeTime)]

/-- A candle. -/
def readCandle? (tree : Tree) : Option Candle := do
  let record ← Json.Record.ofTree? ["asset", "time", "open", "high", "low", "close", "volume"] tree
  return {
    asset := ← record.required "asset" readAsset?
    time := ← record.required "time" readLocal?
    openPrice := ← record.required "open" readDecimal?
    high := ← record.required "high" readDecimal?
    low := ← record.required "low" readDecimal?
    close := ← record.required "close" readDecimal?
    volume := ← record.required "volume" readDecimal? }

/-- The fields of a candle in order. -/
def writeCandle (candle : Candle) : Value :=
  .object [
    ("asset", writeAsset candle.asset),
    ("time", writeLocal candle.time),
    ("open", writeDecimal candle.openPrice),
    ("high", writeDecimal candle.high),
    ("low", writeDecimal candle.low),
    ("close", writeDecimal candle.close),
    ("volume", writeDecimal candle.volume)]

/-- A price line. -/
def readLevel? (tree : Tree) : Option Level := do
  let record ← Json.Record.ofTree? ["price", "bid_volume", "ask_volume"] tree
  return {
    price := ← record.required "price" readDecimal?
    bidVolume := ← record.optional "bid_volume" readDecimal?
    askVolume := ← record.optional "ask_volume" readDecimal? }

/-- The fields of a price line in order. -/
def writeLevel (level : Level) : Value :=
  .object [
    ("price", writeDecimal level.price),
    ("bid_volume", .ofOption writeDecimal level.bidVolume),
    ("ask_volume", .ofOption writeDecimal level.askVolume)]

/-- An order book.  Its lines are taken in the order in which they stand. -/
def readBook? (tree : Tree) : Option Book := do
  let record ← Json.Record.ofTree? ["asset", "received_at", "levels"] tree
  return {
    asset := ← record.required "asset" readAsset?
    receivedAt := ← record.required "received_at" readUtc?
    levels := ← record.required "levels" (Tree.list? readLevel?) }

/-- The fields of an order book in order. -/
def writeBook (book : Book) : Value :=
  .object [
    ("asset", writeAsset book.asset),
    ("received_at", writeUtc book.receivedAt),
    ("levels", .array (book.levels.map writeLevel))]

end TerminalGateway.Record
