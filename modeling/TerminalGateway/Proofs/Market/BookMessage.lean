import TerminalGateway.Market.Messages
import TerminalGateway.Proofs.Json.Ordering
import TerminalGateway.Proofs.Market.Arrangement

/-!
# Order books of a message

A message has an order book in the member of each ticker, with a price line under each price.
Either every book can be read, and then there is one for each ticker, in the order of their names,
with one line for each price; or one cannot, because it has no lines or a price that is no decimal,
and then the whole message is refused.  Members that are no tickers are passed over.

Main definitions:

- `IsVolume`, `IsLevelOf`, `IsBookOf`: what a volume, a line and a book are read from.
- `IsUnreadable`: a book that refuses its message.

Main results:

- Theorem `bookOf_eq_ok`, `bookOf_eq_error_iff`: reading one book.
- Theorem `readBooks_eq_error_iff`: what refuses a message.
- Theorem `reads_books`: the order books of a message and their best lines.
-/

namespace TerminalGateway.Market

open TerminalGateway.Calendar (Moment)
open TerminalGateway.Json (Value)
open TerminalGateway.Message

/-! ## One after another -/

section Results

variable {ε α β : Type} {f : α → Except ε β} {xs : List α} {ys : List β} {error fault : ε}

/-- All results are there if there is one for each. -/
theorem mapM_eq_ok_iff : xs.mapM f = .ok ys ↔ List.Forall₂ (fun x y => f x = .ok y) xs ys := by
  induction xs generalizing ys with
  | nil => simp [pure, Except.pure, eq_comm]
  | cons x xs ih =>
      rw [List.mapM_cons, List.forall₂_cons_left_iff]
      cases hx : f x with
      | error fault => simp [bind, Except.bind]
      | ok y =>
          cases hxs : xs.mapM f with
          | error fault =>
              simp only [hxs] at ih
              simp [bind, Except.bind, ← ih]
          | ok rest =>
              simp only [hxs] at ih
              simp [bind, Except.bind, pure, Except.pure, ← ih, eq_comm]

/-- Where all errors are one, this is the error if there is any. -/
theorem mapM_eq_error_iff (hfault : ∀ x error, f x = .error error → error = fault) :
    xs.mapM f = .error error ↔ error = fault ∧ ∃ x ∈ xs, f x = .error fault := by
  induction xs with
  | nil => simp [pure, Except.pure]
  | cons x xs ih =>
      rw [List.mapM_cons]
      cases hx : f x with
      | error other =>
          obtain rfl := hfault x other hx
          simp [bind, Except.bind, hx, eq_comm]
      | ok y =>
          cases hxs : xs.mapM f with
          | error other =>
              rw [hxs] at ih
              simp [bind, Except.bind, hx, ih]
          | ok rest =>
              rw [hxs] at ih
              simp [bind, Except.bind, pure, Except.pure, hx, ← ih]

theorem map_eq_ok_iff {g : α → β} {result : Except ε α} {y : β} :
    result.map g = .ok y ↔ ∃ x, result = .ok x ∧ g x = y := by
  cases result <;> simp [Except.map]

theorem map_eq_error_iff {g : α → β} {result : Except ε α} :
    result.map g = .error error ↔ result = .error error := by
  cases result <;> simp [Except.map]

end Results

/-! ## Fields -/

variable {payload value line book : Value} {name : String} {error : DecodeError}
  {members lines : List (String × Value)} {receivedAt : Moment} {asset : Asset}

theorem orField_eq_ok_iff {α : Type} {held : Option α} {x : α} :
    orField name held = .ok x ↔ held = some x := by
  cases held <;> simp [orField]

theorem orField_eq_error_iff {α : Type} {held : Option α} :
    orField name held = .error error ↔ error = .field name ∧ held = none := by
  cases held <;> simp [orField, eq_comm]

theorem members?_eq_some_iff : value.members? = some members ↔ value = .object members := by
  cases value <;> simp [Value.members?]

theorem membersAt_eq_ok_iff :
    membersAt value name = .ok members ↔ value.get? name = some (.object members) := by
  simp only [membersAt, orField_eq_ok_iff, Option.bind_eq_some_iff, members?_eq_some_iff,
    exists_eq_right]

theorem membersAt_eq_error_iff :
    membersAt value name = .error error ↔
      error = .field name ∧ ∀ members, value.get? name ≠ some (.object members) := by
  rw [membersAt, orField_eq_error_iff, Option.eq_none_iff_forall_ne_some]
  simp only [ne_eq, Option.bind_eq_some_iff, members?_eq_some_iff, exists_eq_right]

/-! ## Volumes -/

theorem isZero_iff {d : Decimal} : d.isZero = true ↔ d.value = 0 := by
  have hpos := Number.tenPow_cast_pos d.scale
  rw [Decimal.isZero, decide_eq_true_eq, Decimal.value, div_eq_zero_iff, Decimal.signed]
  split <;> simp [hpos.ne']

/-- Why a line has no volume on a side. -/
inductive LacksVolume (line : Value) (name : String) : Prop where
  | missing (hget : line.get? name = none)
  | noDecimal {held : Value} (hget : line.get? name = some held)
      (hread : Scalar.decimal? held = none)
  | zero {held : Value} {volume : Decimal} (hget : line.get? name = some held)
      (hread : Scalar.decimal? held = some volume) (hzero : volume.value = 0)

/-- A line that has a decimal in a field lacks the volume only for being zero. -/
theorem LacksVolume.value_eq_zero (h : LacksVolume line name) {held : Value} {volume : Decimal}
    (hget : line.get? name = some held) (hread : Scalar.decimal? held = some volume) :
    volume.value = 0 := by
  cases h with
  | missing hnone =>
      rw [hget] at hnone
      cases hnone
  | noDecimal hother hnone =>
      cases hget.symm.trans hother
      rw [hread] at hnone
      cases hnone
  | zero hother hvolume hzero =>
      cases hget.symm.trans hother
      cases hread.symm.trans hvolume
      exact hzero

/-- The volume of a line on one side is the decimal in a field. -/
structure IsVolume (line : Value) (name : String) (volume? : Option Decimal) : Prop where
  absent : volume? = none ↔ LacksVolume line name
  present : ∀ volume, volume? = some volume →
    ∃ held, line.get? name = some held ∧ Scalar.decimal? held = some volume

theorem volumeAt?_eq_some_iff {volume : Decimal} :
    volumeAt? line name = some volume ↔
      (∃ held, line.get? name = some held ∧ Scalar.decimal? held = some volume) ∧
        volume.value ≠ 0 := by
  rw [volumeAt?, Option.filter_eq_some_iff, Scalar.decimalAt?, Option.bind_eq_bind,
    Option.bind_eq_some_iff, ne_eq, ← isZero_iff]
  simp

theorem isVolume_volumeAt? (line : Value) (name : String) :
    IsVolume line name (volumeAt? line name) := by
  refine ⟨⟨fun hnone => ?lacks, fun hlacks => ?none⟩, fun volume h =>
    (volumeAt?_eq_some_iff.mp h).1⟩
  case lacks =>
    cases hget : line.get? name with
    | none => exact .missing hget
    | some held =>
        cases hread : Scalar.decimal? held with
        | none => exact .noDecimal hget hread
        | some volume =>
            refine .zero hget hread ?_
            by_contra hpos
            have hheld := volumeAt?_eq_some_iff.mpr ⟨⟨held, hget, hread⟩, hpos⟩
            rw [hnone] at hheld
            cases hheld
  case none =>
    rw [Option.eq_none_iff_forall_ne_some]
    intro volume h
    obtain ⟨⟨held, hget, hread⟩, hpos⟩ := volumeAt?_eq_some_iff.mp h
    exact hpos (hlacks.value_eq_zero hget hread)

/-! ## Lines -/

/-- The line under a price. -/
structure IsLevelOf (line : String × Value) (level : Level) : Prop where
  price : Decimal.read? (Text.trim line.1.toList) = some level.price
  bid : IsVolume line.2 "b" level.bidVolume
  ask : IsVolume line.2 "s" level.askVolume

theorem levelOf_eq_ok {line : String × Value} {level : Level}
    (h : levelOf line.1 line.2 = .ok level) : IsLevelOf line level := by
  unfold levelOf at h
  cases hprice : Decimal.read? (Text.trim line.1.toList) with
  | none =>
      rw [hprice] at h
      cases h
  | some price =>
      rw [hprice] at h
      cases h
      exact ⟨hprice, isVolume_volumeAt? line.2 "b", isVolume_volumeAt? line.2 "s"⟩

theorem levelOf_eq_error_iff {line : String × Value} :
    levelOf line.1 line.2 = .error error ↔
      error = .field "lines" ∧ Decimal.read? (Text.trim line.1.toList) = none := by
  unfold levelOf
  cases Decimal.read? (Text.trim line.1.toList) <;>
    simp [orField, bind, Except.bind, pure, Except.pure, eq_comm]

/-! ## Books -/

/-- The order book in the member of a ticker: its lines are those of the message, one for each
price. -/
structure IsBookOf (receivedAt : Moment) (member : String × Value) (book : Book) : Prop where
  asset : Asset.ofTicker? member.1 = some book.asset
  receivedAt : book.receivedAt = receivedAt
  lines : ∃ lines levels, member.2.get? "lines" = some (.object lines) ∧
    List.Forall₂ IsLevelOf lines levels ∧ book.Arranges levels

/-- Why a book refuses its message. -/
inductive IsUnreadable (book : Value) : Prop where
  | noLines (hlines : ∀ lines, book.get? "lines" ≠ some (.object lines))
  | noPrice {lines : List (String × Value)} (hlines : book.get? "lines" = some (.object lines))
      {line : String × Value} (hmem : line ∈ lines)
      (hprice : Decimal.read? (Text.trim line.1.toList) = none)

theorem bookOf_eq (h : book.get? "lines" = some (.object lines)) :
    bookOf receivedAt asset book =
      (lines.mapM fun line => levelOf line.1 line.2).map (Book.ofLevels asset receivedAt) := by
  unfold bookOf
  rw [membersAt_eq_ok_iff.mpr h]
  rfl

theorem bookOf_of_noLines (h : ∀ lines, book.get? "lines" ≠ some (.object lines)) :
    bookOf receivedAt asset book = .error (.field "lines") := by
  unfold bookOf
  rw [membersAt_eq_error_iff.mpr ⟨rfl, h⟩]
  rfl

/-- A book with lines is unreadable only for a price. -/
theorem isUnreadable_iff (h : book.get? "lines" = some (.object lines)) :
    IsUnreadable book ↔ ∃ line ∈ lines, Decimal.read? (Text.trim line.1.toList) = none := by
  constructor
  · intro hunreadable
    cases hunreadable with
    | noLines hnone => exact absurd h (hnone lines)
    | noPrice hother hmem hprice =>
        cases h.symm.trans hother
        exact ⟨_, hmem, hprice⟩
  · rintro ⟨line, hmem, hprice⟩
    exact .noPrice h hmem hprice

theorem bookOf_eq_ok {made : Book} (h : bookOf receivedAt asset book = .ok made) :
    made.asset = asset ∧ made.receivedAt = receivedAt ∧
      ∃ lines levels, book.get? "lines" = some (.object lines) ∧
        List.Forall₂ IsLevelOf lines levels ∧ made.Arranges levels := by
  by_cases hlines : ∃ lines, book.get? "lines" = some (.object lines)
  · obtain ⟨lines, hlines⟩ := hlines
    rw [bookOf_eq hlines, map_eq_ok_iff] at h
    obtain ⟨levels, hlevels, rfl⟩ := h
    refine ⟨rfl, rfl, lines, levels, hlines, ?_, Book.arranges_ofLevels asset receivedAt levels⟩
    exact (mapM_eq_ok_iff.mp hlevels).imp fun _ _ => levelOf_eq_ok
  · rw [bookOf_of_noLines (not_exists.mp hlines)] at h
    cases h

theorem bookOf_eq_error_iff :
    bookOf receivedAt asset book = .error error ↔ error = .field "lines" ∧ IsUnreadable book := by
  by_cases hlines : ∃ lines, book.get? "lines" = some (.object lines)
  · obtain ⟨lines, hlines⟩ := hlines
    have hfault : ∀ (line : String × Value) error, levelOf line.1 line.2 = .error error →
        error = .field "lines" := fun line error h => (levelOf_eq_error_iff.mp h).1
    rw [bookOf_eq hlines, isUnreadable_iff hlines, map_eq_error_iff, mapM_eq_error_iff hfault]
    simp only [levelOf_eq_error_iff, true_and]
  · have hnone := not_exists.mp hlines
    rw [bookOf_of_noLines hnone, Except.error.injEq, eq_comm]
    exact (and_iff_left (.noLines hnone)).symm

/-! ## Messages -/

/-- The name of a member is a ticker. -/
def isTicker (member : String × Value) : Bool :=
  (Asset.ofTicker? member.1).isSome

theorem mem_byAsset_iff {entry : Asset × Value} :
    entry ∈ byAsset members ↔
      ∃ member ∈ members, Asset.ofTicker? member.1 = some entry.1 ∧ member.2 = entry.2 := by
  unfold byAsset
  rw [List.mem_filterMap]
  refine exists_congr fun member => and_congr_right fun _ => ?_
  simp [Option.map_eq_some_iff, Prod.ext_iff]

/-- What stands beside each ticker stands beside each asset. -/
theorem forall₂_byAsset {β : Type} {R : Asset × Value → β → Prop} {S : String × Value → β → Prop}
    (hR : ∀ member asset y, Asset.ofTicker? member.1 = some asset → R (asset, member.2) y →
      S member y) {ys : List β} (h : List.Forall₂ R (byAsset members) ys) :
    List.Forall₂ S (members.filter isTicker) ys := by
  induction members generalizing ys with
  | nil =>
      cases h
      exact .nil
  | cons member rest ih =>
      cases hticker : Asset.ofTicker? member.1 with
      | none =>
          have hskip : byAsset (member :: rest) = byAsset rest :=
            List.filterMap_cons_none (by simp [hticker])
          rw [hskip] at h
          rw [List.filter_cons_of_neg (by simp [isTicker, hticker])]
          exact ih h
      | some asset =>
          have htake : byAsset (member :: rest) = (asset, member.2) :: byAsset rest :=
            List.filterMap_cons_some (by simp [hticker])
          rw [htake] at h
          rw [List.filter_cons_of_pos (by simp [isTicker, hticker])]
          cases h with
          | cons hfirst hrest => exact .cons (hR member asset _ hticker hfirst) (ih hrest)

theorem readBooks_eq (h : payload.get? "quotes" = some (.object members)) :
    readBooks payload receivedAt =
      (byAsset members).mapM fun entry => bookOf receivedAt entry.1 entry.2 := by
  unfold readBooks
  rw [membersAt_eq_ok_iff.mpr h]
  rfl

/-- A message is refused for its lines exactly if it has a book that cannot be read. -/
theorem readBooks_eq_error_iff (h : payload.get? "quotes" = some (.object members)) :
    readBooks payload receivedAt = .error error ↔
      error = .field "lines" ∧ ∃ member ∈ members.filter isTicker, IsUnreadable member.2 := by
  have hfault : ∀ (entry : Asset × Value) error, bookOf receivedAt entry.1 entry.2 = .error error →
      error = .field "lines" := fun entry error h => (bookOf_eq_error_iff.mp h).1
  rw [readBooks_eq h, mapM_eq_error_iff hfault]
  simp only [bookOf_eq_error_iff, true_and]
  refine and_congr_right fun _ => ?_
  constructor
  · rintro ⟨entry, hentry, hunreadable⟩
    obtain ⟨member, hmem, hticker, hvalue⟩ := mem_byAsset_iff.mp hentry
    refine ⟨member, List.mem_filter.mpr ⟨hmem, ?_⟩, hvalue ▸ hunreadable⟩
    rw [isTicker, hticker, Option.isSome_some]
  · rintro ⟨member, hmem, hunreadable⟩
    obtain ⟨hmem, hticker⟩ := List.mem_filter.mp hmem
    obtain ⟨asset, hasset⟩ := Option.isSome_iff_exists.mp hticker
    exact ⟨(asset, member.2), mem_byAsset_iff.mpr ⟨member, hmem, hasset, rfl⟩, hunreadable⟩

/-- The books that are read are those of the tickers, in their order. -/
theorem isBookOf_of_readBooks (h : payload.get? "quotes" = some (.object members))
    {books : List Book} (hread : readBooks payload receivedAt = .ok books) :
    List.Forall₂ (IsBookOf receivedAt) (members.filter isTicker) books := by
  rw [readBooks_eq h, mapM_eq_ok_iff] at hread
  refine forall₂_byAsset ?_ hread
  intro member asset made hticker hmade
  obtain ⟨rfl, hreceived, hlines⟩ := bookOf_eq_ok hmade
  exact ⟨hticker, hreceived, hlines⟩

/-- The names stand in order, each once: those of the tickers, and the prices of each book. -/
theorem isAscending_of_isOrdered (h : payload.get? "quotes" = some (.object members))
    (hordered : payload.IsOrdered) :
    Value.IsAscending members ∧ ∀ member ∈ members, ∀ lines,
      member.2.get? "lines" = some (.object lines) → Value.IsAscending lines := by
  have hquotes := hordered.get? h
  refine ⟨hquotes.isAscending, ?_⟩
  intro member hmem lines hlines
  exact ((hquotes.of_mem hmem).get? hlines).isAscending

/-- A message with order books is either read, into one book for each ticker in the order of their
names, with the lines of the message in ascending order of price; or it is refused, exactly if a
ticker has no lines or a price that is no decimal.  In a message that is read from a text each name
stands once.  A book that is built from lines arranges them and tells the best of them, and lines at
different prices may come in any order. -/
theorem reads_books (h : payload.get? "quotes" = some (.object members)) (receivedAt : Moment) :
    (∀ books, readBooks payload receivedAt = .ok books →
      List.Forall₂ (IsBookOf receivedAt) (members.filter isTicker) books) ∧
    (∀ error, readBooks payload receivedAt = .error error ↔
      error = .field "lines" ∧ ∃ member ∈ members.filter isTicker, IsUnreadable member.2) ∧
    (∀ text, Value.read? text = some payload → payload.IsOrdered) ∧
    (payload.IsOrdered → Value.IsAscending members ∧ ∀ member ∈ members, ∀ lines,
      member.2.get? "lines" = some (.object lines) → Value.IsAscending lines) ∧
    ∀ asset receivedAt levels,
      (Book.ofLevels asset receivedAt levels).Arranges levels ∧
      (Book.ofLevels asset receivedAt levels).Quotes levels ∧
      (levels.Pairwise (fun level later => level.price.value ≠ later.price.value) →
        ∀ other : List Level, other.Perm levels →
          Book.ofLevels asset receivedAt other = Book.ofLevels asset receivedAt levels) := by
  refine ⟨fun books => isBookOf_of_readBooks h, fun error => readBooks_eq_error_iff h,
    fun text => Value.isOrdered_of_read?, isAscending_of_isOrdered h,
    fun asset receivedAt levels => ?_⟩
  exact ⟨Book.arranges_ofLevels asset receivedAt levels,
    Book.quotes_ofLevels asset receivedAt levels,
    fun hprices other => Book.ofLevels_eq_of_perm asset receivedAt hprices⟩

/-- The members of a message with the lines of one ticker, and with a member that is none. -/
def bookMembers (lines : List (String × Value)) : List (String × Value) :=
  [("QJSIM¦SBER", .object [("lines", .object lines)]), ("bad", .null)]

/-- Two spellings of one price are two lines of a book, which is read; a price that is no decimal
refuses its message. -/
theorem reads_books_twoSpellings :
    let lines := [("10", Value.object [("b", .ofInt 1)]), ("10.0", Value.object [("s", .ofInt 2)])]
    let message lines := Value.object [("quotes", .object (bookMembers lines))]
    (∃ book, readBooks (message lines) .epoch = .ok [book] ∧
      IsBookOf .epoch ("QJSIM¦SBER", .object [("lines", .object lines)]) book) ∧
    readBooks (message [("ten", .null)]) .epoch = .error (.field "lines") := by
  intro lines message
  have hquotes (lines : List (String × Value)) :
      (message lines).get? "quotes" = some (.object (bookMembers lines)) := rfl
  have htickers (lines : List (String × Value)) : (bookMembers lines).filter isTicker =
      [("QJSIM¦SBER", .object [("lines", .object lines)])] := by
    have hticker : (Asset.ofTicker? "QJSIM¦SBER").isSome = true := by decide +kernel
    have hother : (Asset.ofTicker? "bad").isSome = false := by decide +kernel
    simp [bookMembers, isTicker, hticker, hother]
  constructor
  · have hread : ∃ book, readBooks (message lines) .epoch = .ok [book] := ⟨_, rfl⟩
    obtain ⟨book, hread⟩ := hread
    have hbooks := (reads_books (hquotes lines) .epoch).1 _ hread
    rw [htickers] at hbooks
    cases hbooks with
    | cons hbook _ => exact ⟨book, hread, hbook⟩
  · rw [(reads_books (hquotes _) .epoch).2.1, htickers]
    refine ⟨rfl, _, List.mem_singleton_self _, ?_⟩
    exact .noPrice rfl (List.mem_singleton_self _) rfl

end TerminalGateway.Market
