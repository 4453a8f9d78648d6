import TerminalGateway.Proofs.Command.Amount
import TerminalGateway.Proofs.Command.Table
import TerminalGateway.Proofs.Json.Flat

/-!
# Orders carry their amounts

An order for one side has its price and its quantity in it.  In the table of the bridge they are
texts, which are read back as the decimals without trailing places.  In the object of the web server
they are numbers: what these denote is near the decimals, and the same if the decimals fit into
numbers.

Main definitions:

- `WritesAmount`: a frame has a number for a decimal under a name.
- `ListsDecimal`: a table has a text for a decimal under a name.

Main results:

- Theorem `exists_webOrder`: what is read back from an order for the web server.
- Theorem `order_amounts`: orders carry their price and their quantity in either dialect.
- Theorem `amounts_rounded`: decimals that do not fit are rounded.
-/

namespace TerminalGateway.Command

open TerminalGateway.Json (Number Value WritesNumber)
open TerminalGateway.Number (Digits Layout shortest)

/-- A frame has a number for a decimal under a name: it denotes a near value, and the same if the
decimal fits. -/
def WritesAmount (frame name : String) (d : Decimal) : Prop :=
  ∃ value, WritesNumber frame name value ∧ |value - d.value| ≤ |d.value| / 2 ^ 49 ∧
    (FitsNumber d → value = d.value)

/-- A table has a text for a decimal under a name: it is read as a decimal of the same value. -/
def ListsDecimal (fields : List (String × String)) (name : String) (d : Decimal) : Prop :=
  ∃ text read, fields.lookup name = some text ∧ Decimal.read? text.toList = some read ∧
    read.value = d.value

section Order

variable {n : Nat} {account : TradeAccount} {intent : Intent} {classCode secCode : String}
  {side : Side}

/-- The numbers of an order are read back from its frame. -/
theorem exists_webOrder (n : Nat) (account : TradeAccount)
    (hasset : intent.asset = .instrument classCode secCode) (hside : intent.side = some side)
    {priceNumber quantityNumber : Number} {price quantity : Rat}
    (hpriceNumber : number? intent.price = some priceNumber) (hprice : priceNumber.Denotes price)
    (hquantityNumber : number? intent.quantity = some quantityNumber)
    (hquantity : quantityNumber.Denotes quantity) :
    ∃ frame, transaction .web n account intent = .ok [frame] ∧
      WritesNumber frame "price" price ∧ WritesNumber frame "quantity" quantity := by
  obtain ⟨members, hmembers⟩ : ∃ members : List (String × Value), members = [
    ("msgid", .ofInt (actionCode intent.action)),
    ("action", .string intent.action.tag),
    ("trans_id", .ofInt n),
    ("ccode", .string classCode),
    ("scode", .string secCode),
    ("clientcode", .string account.clientCode),
    ("account", .string account.account),
    ("sell", .ofInt side.sellFlag),
    ("price", .number priceNumber),
    ("quantity", .number quantityNumber)] := ⟨_, rfl⟩
  have hsent : transaction .web n account intent = .ok [objectText members] := by
    unfold transaction webTransaction sideMembers amount
    rw [hasset, hside, hpriceNumber, hquantityNumber, hmembers]
    rfl
  have hleaves : ∀ member ∈ members, member.2.IsLeaf := by
    rw [hmembers]
    simp only [List.forall_mem_cons]
    exact ⟨Value.isLeaf_number (Number.denotes_whole _), Value.isLeaf_string _,
      Value.isLeaf_number (Number.denotes_whole _), Value.isLeaf_string _, Value.isLeaf_string _,
      Value.isLeaf_string _, Value.isLeaf_string _, Value.isLeaf_number (Number.denotes_whole _),
      Value.isLeaf_number hprice, Value.isLeaf_number hquantity, fun _ h => nomatch h⟩
  rcases Value.forall_ofMembers hleaves with ⟨held, hobject, hheld⟩
  refine ⟨_, hsent, ?_, ?_⟩
  · refine Json.writesNumber_of_get? hobject hheld ?_ hprice
    rw [Value.get?_ofMembers, hmembers]
    rfl
  · refine Json.writesNumber_of_get? hobject hheld ?_ hquantity
    rw [Value.get?_ofMembers, hmembers]
    rfl

theorem listsDecimal_of_lookup {fields : List (String × String)} {name : String} {d : Decimal}
    (h : fields.lookup name = some d.normalize.text) : ListsDecimal fields name d :=
  ⟨_, _, h, Decimal.read?_normalize d, Decimal.value_normalize d⟩

/-- Orders carry their price and their quantity.  An order for one side of an instrument can be sent
in either dialect.  The table for the bridge lists both as they are.  The frame for the web server
has a number for each: it denotes a near value, and the same if the decimal fits. -/
theorem order_amounts (n : Nat) (account : TradeAccount)
    (hasset : intent.asset = .instrument classCode secCode) (hside : intent.side = some side) :
    (∃ frame, transaction .web n account intent = .ok [frame] ∧
      WritesAmount frame "price" intent.price ∧ WritesAmount frame "quantity" intent.quantity) ∧
    ∃ fields, SendsTable n account intent (tableText fields) ∧
      ListsDecimal fields "PRICE" intent.price ∧
      ListsDecimal fields "QUANTITY" intent.quantity := by
  constructor
  · rcases exists_number intent.price with
      ⟨priceNumber, price, hpriceNumber, hprice, hpriceNear, hpriceExact⟩
    rcases exists_number intent.quantity with
      ⟨quantityNumber, quantity, hquantityNumber, hquantity, hquantityNear, hquantityExact⟩
    rcases exists_webOrder n account hasset hside hpriceNumber hprice hquantityNumber hquantity with
      ⟨frame, hsent, hwritesPrice, hwritesQuantity⟩
    exact ⟨frame, hsent, ⟨price, hwritesPrice, hpriceNear, hpriceExact⟩,
      ⟨quantity, hwritesQuantity, hquantityNear, hquantityExact⟩⟩
  · refine ⟨_, sendsTable_tableText hasset, listsDecimal_of_lookup ?_, listsDecimal_of_lookup ?_⟩
    · unfold tableFields
      rw [hside]
      rfl
    · unfold tableFields
      rw [hside]
      rfl

/-- A price with kopecks and the greatest whole number of 64 bits are written exactly. -/
theorem order_amounts_fitting :
    let price : Decimal := ⟨false, 29550, 2, by decide, by decide⟩
    let quantity : Decimal := ⟨false, 18446744073709551615, 0, by decide, by decide⟩
    let order : Intent := .newOrder (.instrument "QJSIM" "SBER") .buy price quantity
    ∃ frame, transaction .web 7 {} order = .ok [frame] ∧
      WritesNumber frame "price" (591 / 2) ∧
      WritesNumber frame "quantity" 18446744073709551615 := by
  intro price quantity order
  have hasset : order.asset = .instrument "QJSIM" "SBER" := rfl
  have hside : order.side = some .buy := rfl
  rcases (order_amounts 7 {} hasset hside).1 with
    ⟨frame, hsent, ⟨_, hprice, -, hpriceExact⟩, ⟨_, hquantity, -, hquantityExact⟩⟩
  have hpriceValue : order.price.value = 591 / 2 := by
    norm_num [order, price, Intent.newOrder, Decimal.value, Decimal.signed, Number.tenPow]
  have hquantityValue : order.quantity.value = 18446744073709551615 := by
    norm_num [order, quantity, Intent.newOrder, Decimal.value, Decimal.signed, Number.tenPow]
  obtain rfl := hpriceExact (.short (by decide) (by decide))
  obtain rfl := hquantityExact (.whole (by decide) (by decide) (by decide))
  exact ⟨frame, hsent, hpriceValue ▸ hprice, hquantityValue ▸ hquantity⟩

theorem denotes_of_digits {significand : Nat} {exponent : Int} {d : Digits}
    (hsignificand : significand ≠ 0) (hpos : d.coefficient ≠ 0)
    (h : shortest Layout.json.tie significand exponent = d) :
    (Number.real (.finite false significand exponent)).Denotes d.value := by
  subst h
  exact Number.denotes_real false hsignificand hpos

/-- The greatest decimal has too many digits for a number, and the least one too many places.
Neither is written exactly. -/
theorem amounts_rounded :
    let greatest : Decimal := ⟨false, 79228162514264337593543950335, 0, by decide, by decide⟩
    let least : Decimal := ⟨false, 1, 28, by decide, by decide⟩
    let order : Intent := .newOrder (.instrument "QJSIM" "SBER") .buy greatest least
    ∃ frame, transaction .web 7 {} order = .ok [frame] ∧
      WritesNumber frame "price" 79228162514264340000000000000 ∧
      ¬WritesNumber frame "price" greatest.value ∧
      WritesNumber frame "quantity" (10000000000000001 / 10 ^ 44) ∧
      ¬WritesNumber frame "quantity" least.value := by
  intro greatest least order
  have hpriceDigits : shortest Layout.json.tie 4503599627370496 44 = ⟨7922816251426434, 13⟩ := by
    decide +kernel
  have hquantityDigits : shortest Layout.json.tie 8920298079412250 (-146) =
      ⟨10000000000000001, -44⟩ := by
    decide +kernel
  have hpriceValue : (⟨7922816251426434, 13⟩ : Digits).value = 79228162514264340000000000000 := by
    norm_num [Digits.value]
  have hquantityValue : (⟨10000000000000001, -44⟩ : Digits).value =
      10000000000000001 / 10 ^ 44 := by
    norm_num [Digits.value]
  have hprice := denotes_of_digits (by decide) (by decide) hpriceDigits
  have hquantity := denotes_of_digits (by decide) (by decide) hquantityDigits
  rw [hpriceValue] at hprice
  rw [hquantityValue] at hquantity
  have hasset : order.asset = .instrument "QJSIM" "SBER" := rfl
  have hside : order.side = some .buy := rfl
  rcases exists_webOrder 7 {} hasset hside (by decide +kernel) hprice (by decide +kernel)
    hquantity with ⟨frame, hsent, hwritesPrice, hwritesQuantity⟩
  refine ⟨frame, hsent, hwritesPrice, fun hexact => ?_, hwritesQuantity, fun hexact => ?_⟩
  · have hsame := hwritesPrice.unique hexact
    norm_num [greatest, Decimal.value, Decimal.signed, Number.tenPow] at hsame
  · have hsame := hwritesQuantity.unique hexact
    norm_num [least, Decimal.value, Decimal.signed, Number.tenPow] at hsame

end Order

end TerminalGateway.Command
