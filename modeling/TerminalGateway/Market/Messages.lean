import TerminalGateway.Calendar.Packed
import TerminalGateway.Calendar.Reader
import TerminalGateway.Market.Book
import TerminalGateway.Market.Candle
import TerminalGateway.Market.Quote
import TerminalGateway.Message.Basic

/-!
# Market messages

Reading the payloads of messages with market data.  Quotes, candles and order books come as
objects with a member for each ticker; a member whose name is no ticker is passed over.  A field
that is missing or wrong refuses the whole message.

Main definitions:

- `readQuotes`, `readCandles`, `readBooks`: one value or more for each ticker.
- `readTradeTick`: a single trade as a quote of its price.
-/

namespace TerminalGateway.Market

open TerminalGateway.Calendar (Moment)
open TerminalGateway.Json (Value)
open TerminalGateway.Message

/-- What a field holds, or the error that names the field. -/
def orField {α : Type} (name : String) : Option α → Except DecodeError α
  | some value => .ok value
  | none => .error (.field name)

/-- The members of an object in a field. -/
def membersAt (payload : Value) (name : String) : Except DecodeError (List (String × Value)) :=
  orField name ((payload.get? name).bind Value.members?)

/-- A decimal in a field. -/
def decimalAt (payload : Value) (name : String) : Except DecodeError Decimal :=
  orField name (Scalar.decimalAt? payload name)

/-- The members whose names are tickers, with their assets. -/
def byAsset (members : List (String × Value)) : List (Asset × Value) :=
  members.filterMap fun (ticker, value) => (Asset.ofTicker? ticker).map fun asset => (asset, value)

/-! ## Quotes -/

/-- The quote in the member of a ticker.  The ask price is in the field `offer`, or in `ask`
where that is missing. -/
def quoteOf (receivedAt : Moment) (asset : Asset) (fields : Value) : Quote where
  asset := asset
  receivedAt := receivedAt
  bid := Scalar.decimalAt? fields "bid"
  ask := ((fields.get? "offer").or (fields.get? "ask")).bind Scalar.decimal?
  last := Scalar.decimalAt? fields "last"
  lastChange := Scalar.decimalAt? fields "lastchange"
  lastVolume := none
  tradeTime := none

/-- The quotes of a message. -/
def readQuotes (payload : Value) (receivedAt : Moment) : Except DecodeError (List Quote) := do
  let members ← membersAt payload "dataResult"
  return (byAsset members).map fun (asset, fields) => quoteOf receivedAt asset fields

/-! ## Candles -/

/-- One candle of an asset. -/
def candleOf (asset : Asset) (bar : Value) : Except DecodeError Candle := do
  let time ← orField "d" do
    Calendar.readCandleTime? (← (← bar.get? "d").string?).toList
  return {
    asset := asset
    time := time
    openPrice := ← decimalAt bar "o"
    high := ← decimalAt bar "h"
    low := ← decimalAt bar "l"
    close := ← decimalAt bar "c"
    volume := ← decimalAt bar "v" }

/-- The candles in the member of a ticker. -/
def candlesOf (asset : Asset) (bars : Value) : Except DecodeError (List Candle) := do
  let bars ← orField "graph" bars.items?
  bars.mapM (candleOf asset)

/-- The candles of a message. -/
def readCandles (payload : Value) : Except DecodeError (List Candle) := do
  let members ← membersAt payload "graph"
  let candles ← (byAsset members).mapM fun (asset, bars) => candlesOf asset bars
  return candles.flatten

/-! ## Order books -/

/-- The volume of one side of a price line; zero means no orders. -/
def volumeAt? (line : Value) (name : String) : Option Decimal :=
  (Scalar.decimalAt? line name).filter fun volume => !volume.isZero

/-- A price line: its price is the name of the member. -/
def levelOf (price : String) (line : Value) : Except DecodeError Level := do
  return {
    price := ← orField "lines" (Decimal.read? (Text.trim price.toList))
    bidVolume := volumeAt? line "b"
    askVolume := volumeAt? line "s" }

/-- The order book in the member of a ticker. -/
def bookOf (receivedAt : Moment) (asset : Asset) (book : Value) : Except DecodeError Book := do
  let lines ← membersAt book "lines"
  let levels ← lines.mapM fun (price, line) => levelOf price line
  return .ofLevels asset receivedAt levels

/-- The order books of a message. -/
def readBooks (payload : Value) (receivedAt : Moment) : Except DecodeError (List Book) := do
  let members ← membersAt payload "quotes"
  (byAsset members).mapM fun (asset, book) => bookOf receivedAt asset book

/-! ## Trades of all participants -/

/-- The moment in a table of year, month, day, hour, minute, second and optional milliseconds. -/
def tableTime? (table : Value) : Option Moment := do
  let part := Scalar.intAt? table
  let date := (← part "year") * 10000 + (← part "month") * 100 + (← part "day")
  let time := (← part "hour") * 10000 + (← part "min") * 100 + (← part "sec")
  let moment ← Calendar.unpack? date time
  moment.addMillis? ((part "ms").getD 0)

/-- A trade between any participants, as a quote of its price, volume and time. -/
def readTradeTick (payload : Value) (receivedAt : Moment) : Except DecodeError Quote := do
  let result ← orField "result" (payload.get? "result")
  let classCode ← orField "class_code" ((result.get? "class_code").bind Value.string?)
  let secCode ← orField "sec_code" ((result.get? "sec_code").bind Value.string?)
  let asset ← orField "sec_code" (Asset.ofCodes classCode secCode).toOption
  let price ← decimalAt result "price"
  let volume ← decimalAt result "qty"
  let time ← orField "datetime" ((result.get? "datetime").bind tableTime?)
  return {
    asset := asset
    receivedAt := receivedAt
    bid := none
    ask := none
    last := some price
    lastChange := none
    lastVolume := some volume
    tradeTime := some time }

end TerminalGateway.Market
