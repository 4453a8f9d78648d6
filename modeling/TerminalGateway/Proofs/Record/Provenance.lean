import TerminalGateway.Proofs.Market.Book
import TerminalGateway.Proofs.Record.Reading

/-!
# Where assets and order books come from

An asset that the program makes of codes names both of them, and an order book that it builds of
lines is sorted.  A record that is read from a text is checked for neither: every asset can be read,
by itself or in a record of any kind, and every order book comes back from its text with its lines
in the order in which they stood.  So what is read is as good as what was written.

Main definitions:

- `Asset.IsProper`, `Asset.IsMade`: an asset names both codes, and the ways to make one.
- `Record.Kind`, `Record.assetIn?`: the asset in a text that holds a record of some kind.

Main results:

- Theorem `Asset.isMade_iff`: the assets that are made are those that name both codes.
- Theorem `Record.assetIn?_write`: every asset is read from a record of any kind that holds it.
- Theorem `Record.kept_iff_made`: what is made keeps what it promises, and what is read keeps it
  exactly if it could have been made.
-/

namespace TerminalGateway

/-! ## Assets -/

namespace Asset

/-- An instrument names its class and its security. -/
def IsProper : Asset → Prop
  | any => True
  | instrument classCode secCode => classCode ≠ "" ∧ secCode ≠ ""

instance (asset : Asset) : Decidable asset.IsProper := by
  cases asset <;> unfold IsProper <;> infer_instance

/-- The ways in which an asset is made. -/
inductive IsMade : Asset → Prop
  | any : IsMade any
  | ofCodes {classCode secCode asset} (h : ofCodes classCode secCode = .ok asset) : IsMade asset
  | parse {text asset} (h : parse text = .ok asset) : IsMade asset
  | ofTicker {ticker asset} (h : ofTicker? ticker = some asset) : IsMade asset

theorem isProper_of_ofCodes {classCode secCode : String} {asset : Asset}
    (h : Asset.ofCodes classCode secCode = .ok asset) : asset.IsProper := by
  unfold Asset.ofCodes at h
  split at h
  · cases h
  · split at h
    · cases h
    · rename_i hclass hsec
      cases h
      exact ⟨hclass, hsec⟩

/-- The assets that are made are those that name both codes. -/
theorem isMade_iff {asset : Asset} : asset.IsMade ↔ asset.IsProper := by
  constructor
  · intro h
    cases h with
    | any => trivial
    | ofCodes h => exact isProper_of_ofCodes h
    | parse h =>
        unfold Asset.parse at h
        split at h
        · cases h
        · dsimp only at h
          split at h
          · cases h
            trivial
          · split at h
            · cases h
            · exact isProper_of_ofCodes h
    | ofTicker h =>
        unfold Asset.ofTicker? at h
        split at h
        · rename_i classCode secCode _ _
          cases hcodes : Asset.ofCodes (String.ofList classCode) (String.ofList secCode) with
          | error error => simp [hcodes, Except.toOption] at h
          | ok made =>
              rw [hcodes] at h
              cases h
              exact isProper_of_ofCodes hcodes
        · cases h
  · intro h
    cases asset with
    | any => exact .any
    | instrument classCode secCode =>
        have hcodes : Asset.ofCodes classCode secCode = .ok (.instrument classCode secCode) := by
          rw [Asset.ofCodes, if_neg h.1, if_neg h.2]
        exact .ofCodes hcodes

end Asset

/-! ## Records -/

namespace Record

open TerminalGateway.Json (Tree Value)
open TerminalGateway.Market (Quote Candle Level Book)
open TerminalGateway.Account (Order Trade)

/-- The kinds of record that hold an asset. -/
inductive Kind where
  | asset
  | intent
  | quote
  | candle
  | book
  | order
  | trade

/-- The asset in a tree that holds a record. -/
def Kind.asset? : Kind → Tree → Option Asset
  | asset, tree => readAsset? tree
  | intent, tree => (readIntent? tree).map (·.asset)
  | quote, tree => (readQuote? tree).map (·.asset)
  | candle, tree => (readCandle? tree).map (·.asset)
  | book, tree => (readBook? tree).map (·.asset)
  | order, tree => (readOrder? tree).map (·.asset)
  | trade, tree => (readTrade? tree).map (·.asset)

/-- A record with an asset. -/
def Kind.write (asset : Asset) : Kind → Value
  | .asset => writeAsset asset
  | .intent => writeIntent ⟨.newOrder, asset, some .buy, .zero, .zero⟩
  | .quote => writeQuote ⟨asset, .epoch, none, none, none, none, none, none⟩
  | .candle => writeCandle ⟨asset, .epoch, .zero, .zero, .zero, .zero, .zero⟩
  | .book => writeBook ⟨asset, .epoch, []⟩
  | .order => writeOrder ⟨"", .epoch, asset, .buy, "", .zero, .zero, .zero, none, 0, none⟩
  | .trade => writeTrade ⟨"", none, .epoch, asset, .buy, .zero, .zero, none⟩

/-- The asset in a text that holds a record of a kind. -/
def assetIn? (kind : Kind) (text : List Char) : Option Asset :=
  Tree.read? text >>= kind.asset?

theorem Kind.isExact_write (asset : Asset) (kind : Kind) : (kind.write asset).IsExact := by
  cases kind with
  | asset => exact isExact_writeAsset asset
  | intent => simp [Kind.write, writeIntent]
  | quote => simp [Kind.write, writeQuote]
  | candle => simp [Kind.write, writeCandle]
  | book => simp [Kind.write, writeBook]
  | order => simp [Kind.write, writeOrder]
  | trade => simp [Kind.write, writeTrade]

theorem Kind.asset?_write (asset : Asset) (kind : Kind) :
    kind.asset? (kind.write asset).tree = some asset := by
  cases kind with
  | asset => exact readAsset?_tree asset
  | intent => rw [Kind.asset?, Kind.write, readIntent?_tree]; rfl
  | quote => rw [Kind.asset?, Kind.write, readQuote?_tree]; rfl
  | candle => rw [Kind.asset?, Kind.write, readCandle?_tree]; rfl
  | book => rw [Kind.asset?, Kind.write, readBook?_tree]; rfl
  | order =>
      have hstatus : -(Number.signedLimit64 : Int) ≤ 0 ∧ (0 : Int) < Number.signedLimit64 := by
        decide
      rw [Kind.asset?, Kind.write, readOrder?_tree ⟨hstatus.1, hstatus.2, by simp⟩]
      rfl
  | trade => rw [Kind.asset?, Kind.write, readTrade?_tree]; rfl

/-- An asset comes back from the text of a record, whether it names its codes or not. -/
theorem assetIn?_write (kind : Kind) (asset : Asset) :
    assetIn? kind (kind.write asset).text.toList = some asset := by
  rw [assetIn?, Value.read?_text (kind.isExact_write asset)]
  exact kind.asset?_write asset

/-- A book is as sorted as the one that comes back from its text. -/
theorem isSorted_plain {book : Book} : book.plain.IsSorted ↔ book.IsSorted := by
  have hprice : ∀ x y : Level, x.plain.price.le y.plain.price = x.price.le y.price := by
    intro x y
    rw [Decimal.le, Level.plain, Level.plain, Decimal.key_plain, Decimal.key_plain]
    rfl
  simp [Book.IsSorted, Book.plain, List.pairwise_map, hprice]

/-! ## A jumbled book -/

/-- A number without places. -/
def whole (value : Nat) : Decimal :=
  (Decimal.ofInt? value).getD .zero

/-- An asset without a class. -/
def classlessText : String :=
  "\x7b\"Instrument\":\x7b\"class_code\":\"\",\"sec_code\":\"SBER\"\x7d\x7d"

/-- A book whose lines are not sorted. -/
def jumbledText : String :=
  "\x7b\"asset\":\"Any\",\"received_at\":\"1970-01-01T00:00:00Z\",\"levels\":[" ++
    "\x7b\"price\":\"102\",\"bid_volume\":null,\"ask_volume\":\"1\"\x7d," ++
    "\x7b\"price\":\"100\",\"bid_volume\":\"7\",\"ask_volume\":null\x7d," ++
    "\x7b\"price\":\"101\",\"bid_volume\":null,\"ask_volume\":\"5\"\x7d," ++
    "\x7b\"price\":\"99\",\"bid_volume\":\"3\",\"ask_volume\":null\x7d]\x7d"

/-- The book with these lines. -/
def jumbled : Book where
  asset := .any
  receivedAt := .epoch
  levels := [⟨whole 102, none, some (whole 1)⟩, ⟨whole 100, some (whole 7), none⟩,
    ⟨whole 101, none, some (whole 5)⟩, ⟨whole 99, some (whole 3), none⟩]

/-! ## What is kept -/

/-- An asset that is read names both codes exactly if it could have been made, and every asset is
read from the text of a record of any kind that holds it.  An order book that is read is sorted
exactly if it could have been built of lines, its best lines are found then, and every order book
comes back from its text with its lines as they stood, sorted exactly if it was sorted before. -/
theorem kept_iff_made (kind : Kind) (asset : Asset) (book : Book) :
    (asset.IsProper ↔ asset.IsMade) ∧
    assetIn? kind (kind.write asset).text.toList = some asset ∧
    (book.IsSorted ↔ book.IsMade) ∧
    (book.IsMade → book.FindsBest) ∧
    reread? writeBook readBook? book = some book.plain ∧
    (book.plain.IsMade ↔ book.IsMade) := by
  have hsorted : ∀ book : Book, book.IsSorted ↔ book.IsMade := fun _ => Book.isMade_iff.symm
  refine ⟨Asset.isMade_iff.symm, assetIn?_write kind asset, hsorted book, fun hmade => ?_, ?_, ?_⟩
  · exact ((hsorted book).mpr hmade).findsBest
  · exact reread?_book book
  · rw [← hsorted, ← hsorted]
    exact isSorted_plain

/-- A book that is built anew of the jumbled lines finds the best ones. -/
theorem kept_iff_made_sorted :
    (Book.ofLevels jumbled.asset jumbled.receivedAt jumbled.levels).FindsBest := by
  rcases kept_iff_made .book .any (Book.ofLevels jumbled.asset jumbled.receivedAt jumbled.levels)
    with ⟨-, -, -, hfinds, -, -⟩
  exact hfinds ⟨_, _, _, rfl⟩

/-- An asset without a class is read from a text, and a book that is not sorted.  The price that is
found to buy at is not the highest, and the one to sell at is not the lowest. -/
theorem read_unchecked :
    (Tree.read? classlessText.toList >>= readAsset? = some (.instrument "" "SBER") ∧
      ¬ (Asset.instrument "" "SBER").IsProper) ∧
    Tree.read? jumbledText.toList >>= readBook? = some jumbled ∧ ¬ jumbled.IsSorted ∧
    (∃ level, jumbled.bestBid? = some level ∧ level.price = whole 99 ∧
      ¬ jumbled.IsBestBid level) ∧
    (∃ level, jumbled.bestAsk? = some level ∧ level.price = whole 102 ∧
      ¬ jumbled.IsBestAsk level) := by
  have hwritten : (writeBook jumbled).text = jumbledText := by decide +kernel
  have hread : Tree.read? jumbledText.toList >>= readBook? = some jumbled.plain := by
    rw [← hwritten]
    exact reread?_book jumbled
  refine ⟨⟨by decide +kernel, by decide⟩, hread, by decide +kernel, ?_, ?_⟩
  · refine ⟨_, rfl, rfl, fun h => ?_⟩
    have hhighest := h.highest ⟨whole 100, some (whole 7), none⟩ (by simp [jumbled]) rfl
    exact absurd hhighest (by decide +kernel)
  · refine ⟨_, rfl, rfl, fun h => ?_⟩
    have hlowest := h.lowest ⟨whole 101, none, some (whole 5)⟩ (by simp [jumbled]) rfl
    exact absurd hlowest (by decide +kernel)

end Record

end TerminalGateway
