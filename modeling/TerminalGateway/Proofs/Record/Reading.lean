import TerminalGateway.Proofs.Calendar.Reading
import TerminalGateway.Proofs.Decimal.Reading
import TerminalGateway.Proofs.Json.Reading
import TerminalGateway.Record.Account
import TerminalGateway.Record.Market

/-!
# Records come back from their texts

Whatever is written as a record is read back from its text as it was: codes and accounts with any
characters, moments with all their precision, decimals with their places, ids with all their bits,
and absent fields as absent.  Two things are not the same when they come back.  A zero comes back
without a minus sign; its value and its places stay.  A leap second that is not the last of its
minute is written as the second after it, and comes back as that one.

Main definitions:

- `Intent.plain`, `Quote.plain` and so on: the record with decimals whose zero has no sign, and with
  moments whose leap seconds end a minute.
- `Order.IsSized`: the numbers of an order fit into 64 bits.
- `reread?`: what is read from the text that is written.

Main results:

- Theorem `reread_of_written`: every record comes back as its plain one.
- Theorem `reread_changed`: a leap second within a minute and a zero with a sign are not the same
  when they come back.
-/

namespace TerminalGateway

/-! ## Records with plain decimals and moments -/

/-- The intent with decimals whose zero has no sign. -/
def Intent.plain (intent : Intent) : Intent :=
  { intent with price := intent.price.plain, quantity := intent.quantity.plain }

namespace Market

open TerminalGateway.Calendar (Moment)

/-- The quote with plain moments, and decimals whose zero has no sign. -/
def Quote.plain (quote : Quote) : Quote :=
  { quote with
    receivedAt := quote.receivedAt.plain
    bid := quote.bid.map Decimal.plain
    ask := quote.ask.map Decimal.plain
    last := quote.last.map Decimal.plain
    lastChange := quote.lastChange.map Decimal.plain
    lastVolume := quote.lastVolume.map Decimal.plain
    tradeTime := quote.tradeTime.map Moment.plain }

/-- The candle with a plain moment, and decimals whose zero has no sign. -/
def Candle.plain (candle : Candle) : Candle :=
  { candle with
    time := candle.time.plain
    openPrice := candle.openPrice.plain
    high := candle.high.plain
    low := candle.low.plain
    close := candle.close.plain
    volume := candle.volume.plain }

/-- The price line with decimals whose zero has no sign. -/
def Level.plain (level : Level) : Level :=
  ⟨level.price.plain, level.bidVolume.map Decimal.plain, level.askVolume.map Decimal.plain⟩

/-- The order book with a plain moment, and decimals whose zero has no sign, its lines in the same
order. -/
def Book.plain (book : Book) : Book :=
  { book with
    receivedAt := book.receivedAt.plain
    levels := book.levels.map Level.plain }

end Market

namespace Account

/-- The order with a plain moment, and decimals whose zero has no sign. -/
def Order.plain (order : Order) : Order :=
  { order with
    time := order.time.plain
    price := order.price.plain
    quantity := order.quantity.plain
    volume := order.volume.plain
    balance := order.balance.map Decimal.plain }

/-- The status of an order fits into 64 bits with a sign, and the id of its transaction into 64
bits. -/
structure Order.IsSized (order : Order) : Prop where
  status_ge : -(Number.signedLimit64 : Int) ≤ order.status
  status_lt : order.status < Number.signedLimit64
  transactionId_lt : ∀ id ∈ order.transactionId, id < Number.limit64

/-- The trade with a plain moment, and decimals whose zero has no sign. -/
def Trade.plain (trade : Trade) : Trade :=
  { trade with
    time := trade.time.plain
    price := trade.price.plain
    quantity := trade.quantity.plain
    volume := trade.volume.map Decimal.plain }

end Account

namespace Record

open TerminalGateway.Json (Tree Value)
open TerminalGateway.Json.Record (ofTree?_tree)
open TerminalGateway.Calendar (Moment)
open TerminalGateway.Market (Quote Candle Level Book)
open TerminalGateway.Account (Order Trade)

/-! ## Contents -/

@[simp]
theorem readDecimal?_tree (d : Decimal) : readDecimal? (writeDecimal d).tree = some d.plain := by
  rw [writeDecimal, Value.tree, readDecimal?, Json.characters?_piecesOf]
  exact d.read?_text

@[simp]
theorem readLocal?_tree (m : Moment) : readLocal? (writeLocal m).tree = some m.plain := by
  rw [writeLocal, readLocal?, Tree.text?_tree]
  exact Calendar.readLocal?_isoText m

@[simp]
theorem readUtc?_tree (m : Moment) : readUtc? (writeUtc m).tree = some m.plain := by
  rw [writeUtc, readUtc?, Tree.text?_tree]
  exact Calendar.readZoned?_utcText m

@[simp]
theorem readSide?_tree (side : Side) : readSide? (writeSide side).tree = some side := by
  cases side <;> simp only [writeSide, readSide?, Tree.unitVariant?_tree]

@[simp]
theorem readAction?_tree (action : Action) :
    readAction? (writeAction action).tree = some action := by
  cases action <;> simp only [writeAction, readAction?, Tree.unitVariant?_tree]

@[simp]
theorem readAsset?_tree (asset : Asset) : readAsset? (writeAsset asset).tree = some asset := by
  cases asset with
  | any => simp only [writeAsset, readAsset?, Tree.variant?_tree]
  | instrument classCode secCode =>
      simp only [writeAsset, readAsset?, Tree.variant?_member]
      rw [ofTree?_tree (by rfl) (by decide)]
      simp

theorem readInt64?_tree {value : Int} (hlow : -(Number.signedLimit64 : Int) ≤ value)
    (hhigh : value < Number.signedLimit64) : readInt64? (Value.ofInt value).tree = some value :=
  Tree.int?_tree hlow hhigh hlow (Int.lt_trans hhigh (by decide))

theorem readNat64?_tree {n : Nat} (h : n < Number.limit64) :
    readNat64? (writeNat n).tree = some n := by
  have hlow : -(Number.signedLimit64 : Int) ≤ n := by omega
  rw [readNat64?, writeNat, Tree.nat?, Tree.int?_tree (by omega) (by omega) hlow (by omega)]
  rfl

@[simp]
theorem nullable?_text (o : Option String) :
    (Value.ofOption .string o).tree.nullable? Tree.text? = some o :=
  Tree.nullable?_tree_self (fun s _ => Tree.text?_tree s) rfl

@[simp]
theorem nullable?_side (o : Option Side) :
    (Value.ofOption writeSide o).tree.nullable? readSide? = some o :=
  Tree.nullable?_tree_self (fun side _ => readSide?_tree side) rfl

@[simp]
theorem nullable?_local (o : Option Moment) :
    (Value.ofOption writeLocal o).tree.nullable? readLocal? = some (o.map Moment.plain) :=
  Tree.nullable?_tree (fun m _ => readLocal?_tree m) rfl

@[simp]
theorem nullable?_decimal (o : Option Decimal) :
    (Value.ofOption writeDecimal o).tree.nullable? readDecimal? = some (o.map Decimal.plain) :=
  Tree.nullable?_tree (fun d _ => readDecimal?_tree d) rfl

theorem nullable?_nat64 {o : Option Nat} (h : ∀ n ∈ o, n < Number.limit64) :
    (Value.ofOption writeNat o).tree.nullable? readNat64? = some o :=
  Tree.nullable?_tree_self (fun n hn => readNat64?_tree (h n hn)) rfl

/-! ## Trees of records -/

theorem readIntent?_tree (intent : Intent) :
    readIntent? (writeIntent intent).tree = some intent.plain := by
  rw [readIntent?, writeIntent, ofTree?_tree (by rfl) (by decide)]
  simp [Intent.plain]

theorem readQuote?_tree (quote : Quote) :
    readQuote? (writeQuote quote).tree = some quote.plain := by
  rw [readQuote?, writeQuote, ofTree?_tree (by rfl) (by decide)]
  simp [Quote.plain]

theorem readCandle?_tree (candle : Candle) :
    readCandle? (writeCandle candle).tree = some candle.plain := by
  rw [readCandle?, writeCandle, ofTree?_tree (by rfl) (by decide)]
  simp [Candle.plain]

theorem readLevel?_tree (level : Level) :
    readLevel? (writeLevel level).tree = some level.plain := by
  rw [readLevel?, writeLevel, ofTree?_tree (by rfl) (by decide)]
  simp [Level.plain]

theorem readBook?_tree (book : Book) : readBook? (writeBook book).tree = some book.plain := by
  rw [readBook?, writeBook, ofTree?_tree (by rfl) (by decide)]
  simp [Book.plain, Tree.list?_tree readLevel?_tree]

theorem readOrder?_tree {order : Order} (h : order.IsSized) :
    readOrder? (writeOrder order).tree = some order.plain := by
  have hstatus := readInt64?_tree h.status_ge h.status_lt
  have hid := nullable?_nat64 h.transactionId_lt
  rw [readOrder?, writeOrder, ofTree?_tree (by rfl) (by decide)]
  simp [Order.plain, hstatus, hid]

theorem readTrade?_tree (trade : Trade) :
    readTrade? (writeTrade trade).tree = some trade.plain := by
  rw [readTrade?, writeTrade, ofTree?_tree (by rfl) (by decide)]
  simp [Trade.plain]

/-! ## Texts of records

No binary number is written into a record. -/

@[simp]
theorem isExact_writeDecimal (d : Decimal) : (writeDecimal d).IsExact :=
  trivial

@[simp]
theorem isExact_writeLocal (m : Moment) : (writeLocal m).IsExact :=
  trivial

@[simp]
theorem isExact_writeUtc (m : Moment) : (writeUtc m).IsExact :=
  trivial

@[simp]
theorem isExact_writeNat (n : Nat) : (writeNat n).IsExact :=
  trivial

@[simp]
theorem isExact_writeSide (side : Side) : (writeSide side).IsExact := by
  cases side <;> trivial

@[simp]
theorem isExact_writeAction (action : Action) : (writeAction action).IsExact := by
  cases action <;> trivial

@[simp]
theorem isExact_writeAsset (asset : Asset) : (writeAsset asset).IsExact := by
  cases asset <;> simp [writeAsset]

@[simp]
theorem isExact_writeLevel (level : Level) : (writeLevel level).IsExact := by
  simp [writeLevel]

/-- What is read from the text that is written. -/
def reread? {α : Type} (write : α → Value) (read : Tree → Option α) (a : α) : Option α :=
  Tree.read? (write a).text.toList >>= read

theorem reread?_eq {α : Type} {write : α → Value} {read : Tree → Option α} {a b : α}
    (hexact : (write a).IsExact) (hread : read (write a).tree = some b) :
    reread? write read a = some b := by
  rw [reread?, Value.read?_text hexact]
  exact hread

theorem reread?_candle (candle : Candle) :
    reread? writeCandle readCandle? candle = some candle.plain :=
  reread?_eq (by simp [writeCandle]) (readCandle?_tree candle)

theorem reread?_book (book : Book) : reread? writeBook readBook? book = some book.plain :=
  reread?_eq (by simp [writeBook]) (readBook?_tree book)

/-- Every record is read back from its text.  Assets and sides come back as they are, and all other
records but for the sign of zeros and for leap seconds within a minute.  Their decimals keep their
value and their places, and only a zero with a minus sign is not the same.  Their moments are the
same unless they are in a leap second that is not the last of its minute: of these the second after
it comes back, on the same date and with the same fraction. -/
theorem reread_of_written :
    (∀ asset, reread? writeAsset readAsset? asset = some asset) ∧
    (∀ side, reread? writeSide readSide? side = some side) ∧
    (∀ intent, reread? writeIntent readIntent? intent = some intent.plain) ∧
    (∀ quote, reread? writeQuote readQuote? quote = some quote.plain) ∧
    (∀ candle, reread? writeCandle readCandle? candle = some candle.plain) ∧
    (∀ book, reread? writeBook readBook? book = some book.plain) ∧
    (∀ order : Order, order.IsSized → reread? writeOrder readOrder? order = some order.plain) ∧
    (∀ trade, reread? writeTrade readTrade? trade = some trade.plain) ∧
    (∀ d : Decimal, d.plain.key = d.key ∧ d.plain.scale = d.scale ∧
      ((d.negative = true → d.isZero = false) → d.plain = d)) ∧
    (∀ m : Moment, (m.IsPlain → m.plain = m) ∧
      (¬ m.IsPlain → m.plain.date = m.date ∧ m.plain.clock.hour = m.clock.hour ∧
        m.plain.clock.minute = m.clock.minute ∧ m.plain.clock.second = m.clock.second + 1 ∧
        m.plain.clock.nano + 1000000000 = m.clock.nano)) := by
  refine ⟨fun asset => ?_, fun side => ?_, fun intent => ?_, fun quote => ?_, fun candle => ?_,
    fun book => ?_, fun order h => ?_, fun trade => ?_, fun d => ?_,
    fun m => ⟨fun h => ?_, fun h => ?_⟩⟩
  · exact reread?_eq (isExact_writeAsset asset) (readAsset?_tree asset)
  · exact reread?_eq (isExact_writeSide side) (readSide?_tree side)
  · exact reread?_eq (by simp [writeIntent]) (readIntent?_tree intent)
  · exact reread?_eq (by simp [writeQuote]) (readQuote?_tree quote)
  · exact reread?_candle candle
  · exact reread?_book book
  · exact reread?_eq (by simp [writeOrder]) (readOrder?_tree h)
  · exact reread?_eq (by simp [writeTrade]) (readTrade?_tree trade)
  · exact ⟨d.key_plain, rfl, Decimal.plain_eq_self⟩
  · exact Moment.plain_of_isPlain h
  · exact ⟨rfl, Calendar.Clock.plain_of_not_isPlain h⟩

/-- An order at the edges of what can be written comes back as it is: a leap second of the last year
there is, codes with quotes and controls, an asset without a code, the greatest mantissa with the
most places, and numbers of the greatest magnitude. -/
theorem reread_edgeOrder :
    let order : Order := {
      number := "\"\\\n\x00"
      time := ⟨⟨262142, 12, 31, by decide⟩, ⟨23, 59, 59, 1999999999, by decide⟩⟩
      asset := .instrument "" "\x1f\u00A6"
      side := .sell
      account := "\u2212\t"
      price := ⟨true, 79228162514264337593543950335, 28, by decide, by decide⟩
      quantity := ⟨false, 0, 28, by decide, by decide⟩
      volume := ⟨false, 100, 2, by decide, by decide⟩
      balance := none
      status := -9223372036854775808
      transactionId := some 18446744073709551615 }
    order.IsSized ∧ reread? writeOrder readOrder? order = some order := by
  intro order
  have hsized : order.IsSized := ⟨by decide, by decide, by decide⟩
  have hplain : order.plain = order := by decide
  rcases reread_of_written with ⟨-, -, -, -, -, -, horder, -, -, -⟩
  have hread := horder order hsized
  rw [hplain] at hread
  exact ⟨hsized, hread⟩

/-- A candle in the middle of the leap second after 23:59:58 comes back as one in the middle of
23:59:59, and one whose first price is a zero with a minus sign comes back without the sign. -/
theorem reread_changed :
    let candle (second nano : Nat) (h : Calendar.IsClock 23 59 second nano) (negative : Bool) :
        Candle := {
      asset := .any
      time := ⟨⟨2016, 12, 31, by decide⟩, ⟨23, 59, second, nano, h⟩⟩
      openPrice := ⟨negative, 0, 28, by decide, by decide⟩
      high := .zero
      low := .zero
      close := .zero
      volume := .zero }
    let within := candle 58 1500000000 (by decide) false
    let after := candle 59 500000000 (by decide) false
    let signed := candle 59 500000000 (by decide) true
    (reread? writeCandle readCandle? within = some after ∧ after ≠ within) ∧
      (reread? writeCandle readCandle? signed = some after ∧ after ≠ signed) := by
  intro candle within after signed
  have hwithin : within.plain = after := by decide
  have hsigned : signed.plain = after := by decide
  exact ⟨⟨hwithin ▸ reread?_candle within, by decide⟩, ⟨hsigned ▸ reread?_candle signed, by decide⟩⟩

end Record

end TerminalGateway
