import TerminalGateway.Command.Frames
import TerminalGateway.Proofs.Decimal.Normal
import TerminalGateway.Proofs.Json.Reading
import TerminalGateway.Proofs.Text.Splitting

/-!
# What a transaction table says

The bridge is sent a table as a text, one field to a line.  Account, client code and the codes of
the asset are put into it as they are.  As long as each of them is a single line, the table is read
back field by field and says what was meant; a line break in one of them begins a field of its own.

Main definitions:

- `readTable?`: the fields of a text with one field to a line.
- `Ticket`: what a table says.
- `Ticket.Matches`: it says what an intent means.
- `OneLined`: account and asset have no line breaks in them.
- `SameTransaction`: two transactions are the same.

Main results:

- Theorem `callsWith_call`: the argument of a call is found in its frame.
- Theorem `readTable?_tableText`: fields are read back from a table.
- Theorem `Ticket.ofFields?_tableFields`: the fields say what was meant.
- Theorem `table_unambiguous`: a table without stray line breaks tells its transaction from others.
- Theorem `field_injected`: a line break in a client code adds a second price.
-/

namespace TerminalGateway.Command

open TerminalGateway.Json (Tree Value)

/-! ## Calls -/

/-- A frame calls a method with one argument. -/
def CallsWith (frame method argument : String) : Prop :=
  ∃ request, Value.read? frame.toList = some request ∧
    request.get? "method" = some (.string method) ∧
    request.get? "args" = some (.array [.string argument])

/-- A call as an object has its members in the order of their names. -/
def callObject (id method : String) (arguments : List String) : Value :=
  .object [("args", .array (arguments.map Value.string)), ("id", .string id),
    ("method", .string method)]

theorem call_eq (id method : String) (arguments : List String) :
    call id method arguments = (callObject id method arguments).text := by
  simp only [call, objectText, callObject, Value.ofMembers, Value.set, List.foldl_cons,
    List.foldl_nil, String.reduceEq, String.reduceLT, reduceIte]

/-- The argument of a call is found in its frame. -/
theorem callsWith_call (id method argument : String) :
    CallsWith (call id method [argument]) method argument := by
  have hset : Value.ofMembers [("args", .array [.string argument]), ("id", .string id),
      ("method", .string method)] = callObject id method [argument] := by
    simp only [callObject, Value.ofMembers, Value.set, List.foldl_cons, List.foldl_nil,
      List.map_cons, List.map_nil, String.reduceEq, String.reduceLT, reduceIte]
  have hread : Value.read? (call id method [argument]).toList =
      some (callObject id method [argument]) := by
    rw [call_eq, Value.read?, Value.read?_text (by simp [callObject])]
    simp [callObject, Value.tree, Value.memberTrees, Value.itemTrees, Tree.value?, Tree.values?,
      Tree.namedValues?, Tree.maxDepth, Json.pieceText?_piecesOf, hset]
  exact ⟨_, hread, rfl, rfl⟩

/-- No other argument is found there. -/
theorem CallsWith.unique {frame method first second : String} (hfirst : CallsWith frame method first)
    (hsecond : CallsWith frame method second) : first = second := by
  rcases hfirst with ⟨request, hread, -, hargs⟩
  rcases hsecond with ⟨other, hother, -, hotherArgs⟩
  obtain rfl := Option.some.inj (hread.symm.trans hother)
  simpa using hargs.symm.trans hotherArgs

/-! ## Tables -/

/-- A text without line breaks. -/
def IsLine (text : String) : Prop :=
  '\n' ∉ text.toList

instance (text : String) : Decidable (IsLine text) :=
  inferInstanceAs (Decidable (¬_))

/-- The fields of a text with one field to a line, the name of each up to the first equals sign;
nothing if a line has none. -/
def readTable? (text : String) : Option (List (String × String)) :=
  (Asset.splitAll '\n' text.toList).mapM fun line =>
    (Asset.splitFirst? '=' line).map fun (name, value) =>
      (String.ofList name, String.ofList value)

theorem toList_tableText (fields : List (String × String)) :
    (tableText fields).toList =
      ['\n'].intercalate (fields.map fun field => field.1.toList ++ '=' :: field.2.toList) := by
  unfold tableText
  rw [String.toList_intercalate, List.map_map]
  congr 1
  refine List.map_congr_left fun field _ => ?_
  simp

/-- Fields are read back from a table. -/
theorem readTable?_tableText {fields : List (String × String)} (hne : fields ≠ [])
    (hnames : ∀ field ∈ fields, '=' ∉ field.1.toList ∧ IsLine field.1)
    (hvalues : ∀ field ∈ fields, IsLine field.2) :
    readTable? (tableText fields) = some fields := by
  have hlines : ∀ line ∈ fields.map fun field => field.1.toList ++ '=' :: field.2.toList,
      '\n' ∉ line := by
    intro line hline
    rcases List.mem_map.mp hline with ⟨field, hfield, rfl⟩
    rw [List.mem_append, List.mem_cons, not_or, not_or]
    exact ⟨(hnames field hfield).2, by decide, hvalues field hfield⟩
  unfold readTable?
  rw [toList_tableText, Asset.splitAll_intercalate (by simpa using hne) hlines, List.mapM_map]
  clear hne hlines hvalues
  induction fields with
  | nil => rfl
  | cons field fields ih =>
      have hsplit := Asset.splitFirst?_append (hnames field List.mem_cons_self).1 field.2.toList
      rw [List.mapM_cons, Function.comp_apply, hsplit]
      simp [ih fun other hother => hnames other (List.mem_cons_of_mem field hother)]

/-! ## Tickets -/

/-- The terms of an order for one side. -/
structure Terms where
  market : Bool
  side : Side
  price : Decimal
  quantity : Decimal
deriving DecidableEq

/-- What a table says. -/
structure Ticket where
  action : Action
  account : TradeAccount
  transactionId : Nat
  classCode : String
  secCode : String
  /-- Absent for actions on both sides. -/
  terms : Option Terms
deriving DecidableEq

/-- The action with a tag. -/
def readAction? (tag : String) : Option Action :=
  [Action.newOrder, Action.killAllOrders].find? fun action => action.tag = tag

/-- Whether an order of a type is one at the market price. -/
def readType? (letter : String) : Option Bool :=
  if letter = "M" then some true else if letter = "L" then some false else none

/-- The side of an operation. -/
def readOperation? (letter : String) : Option Side :=
  if letter = "B" then some .buy else if letter = "S" then some .sell else none

/-- The terms in the last fields of a table: none, or all of them in their order. -/
def Terms.ofFields? : List (String × String) → Option (Option Terms)
  | [] => some none
  | [("TYPE", type), ("OPERATION", operation), ("PRICE", price), ("QUANTITY", quantity)] => do
      return some {
        market := ← readType? type
        side := ← readOperation? operation
        price := ← Decimal.read? price.toList
        quantity := ← Decimal.read? quantity.toList }
  | _ => none

/-- What the fields of a table say; nothing if a field is missing, added or out of place. -/
def Ticket.ofFields? : List (String × String) → Option Ticket
  | ("ACTION", action) :: ("ACCOUNT", account) :: ("CLIENT_CODE", clientCode) ::
      ("TRANS_ID", transactionId) :: ("CLASSCODE", classCode) :: ("SECCODE", secCode) :: rest => do
      return {
        action := ← readAction? action
        account := ⟨clientCode, account⟩
        transactionId := ← Text.natOfDigits? transactionId.toList
        classCode := classCode
        secCode := secCode
        terms := ← Terms.ofFields? rest }
  | _ => none

/-- The ticket of an intent. -/
def Ticket.ofIntent (transactionId : Nat) (account : TradeAccount) (intent : Intent)
    (classCode secCode : String) : Ticket where
  action := intent.action
  account := account
  transactionId := transactionId
  classCode := classCode
  secCode := secCode
  terms := intent.side.map fun side =>
    ⟨intent.isMarket, side, intent.price.normalize, intent.quantity.normalize⟩

theorem readAction?_tag (action : Action) : readAction? action.tag = some action := by
  cases action <;> decide

theorem readType?_letter (market : Bool) :
    readType? (if market then "M" else "L") = some market := by
  cases market <;> decide

/-- The fields say what was meant. -/
theorem Ticket.ofFields?_tableFields (transactionId : Nat) (account : TradeAccount)
    (intent : Intent) (classCode secCode : String) :
    Ticket.ofFields? (tableFields transactionId account intent classCode secCode) =
      some (.ofIntent transactionId account intent classCode secCode) := by
  have hid : Text.natOfDigits? (Nat.toDigits 10 transactionId) = some transactionId :=
    Text.natOfDigits?_toDigits transactionId
  unfold tableFields Ticket.ofIntent
  cases intent.side with
  | none => simp [Ticket.ofFields?, Terms.ofFields?, readAction?_tag, hid]
  | some side =>
      cases side <;>
        simp [Ticket.ofFields?, Terms.ofFields?, readAction?_tag, hid, readType?_letter,
          readOperation?, Decimal.read?_normalize]

/-- A ticket says what an intent means. -/
structure Ticket.Matches (ticket : Ticket) (transactionId : Nat) (account : TradeAccount)
    (intent : Intent) : Prop where
  action : ticket.action = intent.action
  account : ticket.account = account
  transactionId : ticket.transactionId = transactionId
  asset : .instrument ticket.classCode ticket.secCode = intent.asset
  side : ticket.terms.map Terms.side = intent.side
  price : ∀ terms ∈ ticket.terms, terms.price.key = intent.price.key
  quantity : ∀ terms ∈ ticket.terms, terms.quantity.key = intent.quantity.key
  market : ∀ terms ∈ ticket.terms,
    (terms.market = true ↔ intent.action = .newOrder ∧ intent.price.isZero = true)

theorem Ticket.matches_ofIntent (transactionId : Nat) (account : TradeAccount) {intent : Intent}
    {classCode secCode : String} (hasset : intent.asset = .instrument classCode secCode) :
    (Ticket.ofIntent transactionId account intent classCode secCode).Matches transactionId account
      intent := by
  have hterms : ∀ terms ∈ (ofIntent transactionId account intent classCode secCode).terms,
      ∃ side, terms =
        ⟨intent.isMarket, side, intent.price.normalize, intent.quantity.normalize⟩ := by
    intro terms hterms
    rcases Option.map_eq_some_iff.mp hterms with ⟨side, -, rfl⟩
    exact ⟨side, rfl⟩
  constructor
  case action => rfl
  case account => rfl
  case transactionId => rfl
  case asset => exact hasset.symm
  case side => simp [ofIntent, Function.comp_def]
  case price =>
    intro terms h
    rcases hterms terms h with ⟨side, rfl⟩
    exact Decimal.key_normalize intent.price
  case quantity =>
    intro terms h
    rcases hterms terms h with ⟨side, rfl⟩
    exact Decimal.key_normalize intent.quantity
  case market =>
    intro terms h
    rcases hterms terms h with ⟨side, rfl⟩
    simp [Intent.isMarket]

/-! ## What is sent -/

/-- The names of the fields of a table in order. -/
def fieldNames (side : Option Side) : List String :=
  ["ACTION", "ACCOUNT", "CLIENT_CODE", "TRANS_ID", "CLASSCODE", "SECCODE"] ++
    if side.isSome then ["TYPE", "OPERATION", "PRICE", "QUANTITY"] else []

/-- The frames of a transaction send a table to the bridge. -/
def SendsTable (transactionId : Nat) (account : TradeAccount) (intent : Intent) (table : String) :
    Prop :=
  ∃ order request, transaction .bridge transactionId account intent = .ok [order, request] ∧
    CallsWith order "sendTransaction" table

/-- An instrument and an account without line breaks in their codes and names. -/
structure OneLined (account : TradeAccount) (asset : Asset) : Prop where
  account_line : IsLine account.account
  client_line : IsLine account.clientCode
  code_lines : ∃ classCode secCode, asset = .instrument classCode secCode ∧ IsLine classCode ∧
    IsLine secCode

section Sending

variable {n m : Nat} {account other : TradeAccount} {intent another : Intent}
  {classCode secCode table : String}

theorem sendsTable_tableText (hasset : intent.asset = .instrument classCode secCode) :
    SendsTable n account intent (tableText (tableFields n account intent classCode secCode)) := by
  refine ⟨_, call (n.repr ++ "_reply") "OnTransReply" [n.repr], ?_,
    callsWith_call ("order_" ++ n.repr) "sendTransaction" _⟩
  unfold transaction bridgeTransaction
  rw [hasset]
  rfl

theorem map_fst_tableFields :
    (tableFields n account intent classCode secCode).map Prod.fst = fieldNames intent.side := by
  unfold tableFields fieldNames
  cases intent.side <;> rfl

theorem fieldNames_plain (side : Option Side) :
    ∀ name ∈ fieldNames side, '=' ∉ name.toList ∧ IsLine name := by
  unfold fieldNames
  cases side with
  | none => decide
  | some side => cases side <;> decide

theorem isLine_repr (n : Nat) : IsLine n.repr := by
  intro hmem
  rw [Nat.toList_repr] at hmem
  exact absurd (Text.isDigit_of_mem_toDigits hmem) (by decide)

theorem isLine_text (d : Decimal) : IsLine d.text := by
  intro hmem
  rcases Decimal.mem_toList_text hmem with hdigit | hsign | hpoint
  · exact absurd hdigit (by decide)
  · exact absurd hsign (by decide)
  · exact absurd hpoint (by decide)

/-- Fields of single lines are read back from the table that is sent. -/
theorem readTable?_tableFields (haccount : IsLine account.account)
    (hclient : IsLine account.clientCode) (hclass : IsLine classCode) (hsec : IsLine secCode) :
    readTable? (tableText (tableFields n account intent classCode secCode)) =
      some (tableFields n account intent classCode secCode) := by
  apply readTable?_tableText
  · unfold tableFields
    simp
  · intro field hfield
    apply fieldNames_plain intent.side
    rw [← map_fst_tableFields]
    exact List.mem_map_of_mem hfield
  · have haction : IsLine intent.action.tag := by cases intent.action <;> decide
    have htype : IsLine (if intent.isMarket then "M" else "L") := by
      cases intent.isMarket <;> decide
    unfold tableFields
    cases intent.side with
    | none => simp [haction, haccount, hclient, isLine_repr, hclass, hsec]
    | some side =>
        have hbuy : IsLine "B" := by decide
        have hsell : IsLine "S" := by decide
        cases side <;>
          simp [haction, haccount, hclient, isLine_repr, hclass, hsec, htype, hbuy, hsell,
            isLine_text]

/-- One table is sent for a transaction. -/
theorem SendsTable.unique {first second : String} (hfirst : SendsTable n account intent first)
    (hsecond : SendsTable n account intent second) : first = second := by
  rcases hfirst with ⟨order, request, hsent, hcalls⟩
  rcases hsecond with ⟨_, _, hagain, hcallsAgain⟩
  injection hsent.symm.trans hagain with hframes
  obtain rfl := (List.cons.inj hframes).1
  exact hcalls.unique hcallsAgain

/-- The table of a transaction has each field once and says what the intent means. -/
theorem exists_ticket (n : Nat) (h : OneLined account intent.asset) :
    ∃ table fields ticket, SendsTable n account intent table ∧ readTable? table = some fields ∧
      fields.map Prod.fst = fieldNames intent.side ∧ Ticket.ofFields? fields = some ticket ∧
      ticket.Matches n account intent := by
  rcases h.code_lines with ⟨classCode, secCode, hasset, hclass, hsec⟩
  exact ⟨_, _, _, sendsTable_tableText hasset,
    readTable?_tableFields h.account_line h.client_line hclass hsec, map_fst_tableFields,
    Ticket.ofFields?_tableFields n account intent classCode secCode,
    Ticket.matches_ofIntent n account hasset⟩

end Sending

/-- Two transactions are the same: by value, what price and quantity of an order are concerned. -/
structure SameTransaction (n : Nat) (account : TradeAccount) (intent : Intent) (m : Nat)
    (other : TradeAccount) (another : Intent) : Prop where
  transactionId : m = n
  account : other = account
  action : another.action = intent.action
  asset : another.asset = intent.asset
  side : another.side = intent.side
  price : intent.side.isSome → another.price.key = intent.price.key
  quantity : intent.side.isSome → another.quantity.key = intent.quantity.key

/-- A ticket does not match two transactions. -/
theorem Ticket.Matches.same {ticket : Ticket} {n m : Nat} {account other : TradeAccount}
    {intent another : Intent} (h : ticket.Matches n account intent)
    (hother : ticket.Matches m other another) :
    SameTransaction n account intent m other another := by
  have hterms (hside : intent.side.isSome) : ∃ terms, ticket.terms = some terms := by
    rwa [← h.side, Option.isSome_map, Option.isSome_iff_exists] at hside
  constructor
  case transactionId => exact hother.transactionId.symm.trans h.transactionId
  case account => exact hother.account.symm.trans h.account
  case action => exact hother.action.symm.trans h.action
  case asset => exact hother.asset.symm.trans h.asset
  case side => exact hother.side.symm.trans h.side
  case price =>
    intro hside
    rcases hterms hside with ⟨terms, hterms⟩
    exact (hother.price terms hterms).symm.trans (h.price terms hterms)
  case quantity =>
    intro hside
    rcases hterms hside with ⟨terms, hterms⟩
    exact (hother.quantity terms hterms).symm.trans (h.quantity terms hterms)

/-- A table without stray line breaks has each field once, says what the intent means, and is sent
for no other transaction. -/
theorem table_unambiguous (n : Nat) {account : TradeAccount} {intent : Intent}
    (h : OneLined account intent.asset) :
    (∃ table fields ticket, SendsTable n account intent table ∧
      readTable? table = some fields ∧ fields.map Prod.fst = fieldNames intent.side ∧
      Ticket.ofFields? fields = some ticket ∧ ticket.Matches n account intent) ∧
    ∀ table, SendsTable n account intent table →
      ∀ {m other another}, OneLined other another.asset → SendsTable m other another table →
        SameTransaction n account intent m other another := by
  constructor
  · exact exists_ticket n h
  · intro table hsends m other another hother hsame
    rcases exists_ticket n h with ⟨first, fields, ticket, hfirst, hread, -, hticket, hmatches⟩
    rcases exists_ticket m hother with
      ⟨second, others, otherTicket, hsecond, hreadOther, -, hotherTicket, hmatchesOther⟩
    obtain rfl := hsends.unique hfirst
    obtain rfl := hsame.unique hsecond
    obtain rfl := Option.some.inj (hread.symm.trans hreadOther)
    obtain rfl := Option.some.inj (hticket.symm.trans hotherTicket)
    exact hmatches.same hmatchesOther

/-- Equals signs in a client code and in the code of an asset do no harm: the order is read back, and
an order for the other side is sent as another table. -/
theorem table_unambiguous_equalsSign :
    let account : TradeAccount := ⟨"10113=PRICE", "NL0011100043"⟩
    let asset : Asset := .instrument "QJSIM" "SBER=1"
    let quantity : Decimal := ⟨false, 300, 2, by decide, by decide⟩
    (∃ table fields ticket, SendsTable 7 account (.newOrder asset .buy .zero quantity) table ∧
      readTable? table = some fields ∧ fields.map Prod.fst = fieldNames (some .buy) ∧
      Ticket.ofFields? fields = some ticket ∧
      ticket.Matches 7 account (.newOrder asset .buy .zero quantity)) ∧
    ∀ table, SendsTable 7 account (.newOrder asset .buy .zero quantity) table →
      ¬SendsTable 7 account (.newOrder asset .sell .zero quantity) table := by
  intro account asset quantity
  have hlines : OneLined account asset :=
    ⟨by decide, by decide, "QJSIM", "SBER=1", rfl, by decide, by decide⟩
  have hbuy : OneLined account (Intent.newOrder asset .buy .zero quantity).asset := hlines
  have hsell : OneLined account (Intent.newOrder asset .sell .zero quantity).asset := hlines
  refine ⟨(table_unambiguous 7 hbuy).1, ?_⟩
  intro table hsends hsame
  have hside := ((table_unambiguous 7 hbuy).2 table hsends hsell hsame).side
  exact absurd hside (by decide)

/-- A line break in a client code adds a field: the table has a second price, ahead of the one that
was meant.  With line breaks, two accounts are sent as one table.  And what has a side but is no new
order is none at the market price, although its price is zero. -/
theorem field_injected :
    let asset : Asset := .instrument "QJSIM" "SBER"
    let five : Decimal := ⟨false, 5, 0, by decide, by decide⟩
    let one : Decimal := ⟨false, 1, 0, by decide, by decide⟩
    (∃ table, SendsTable 7 ⟨"10113\nPRICE=1", ""⟩ (.newOrder asset .buy five one) table ∧
      (readTable? table).map (List.map Prod.fst) = some ["ACTION", "ACCOUNT", "CLIENT_CODE",
        "PRICE", "TRANS_ID", "CLASSCODE", "SECCODE", "TYPE", "OPERATION", "PRICE", "QUANTITY"] ∧
      (readTable? table).bind (List.lookup "PRICE") = some "1") ∧
    (∃ table, SendsTable 7 ⟨"C", "A\nCLIENT_CODE=B"⟩ (.killAll asset) table ∧
      SendsTable 7 ⟨"B\nCLIENT_CODE=C", "A"⟩ (.killAll asset) table) ∧
    (∃ table, SendsTable 7 {} ⟨.killAllOrders, asset, some .buy, .zero, .zero⟩ table ∧
      (readTable? table).bind (List.lookup "TYPE") = some "L") := by
  dsimp only
  refine ⟨?injected, ?confused, ?limited⟩
  case injected =>
    exact ⟨_, sendsTable_tableText rfl, by decide +kernel, by decide +kernel⟩
  case confused =>
    refine ⟨_, sendsTable_tableText rfl, ?_⟩
    have htables : tableText (tableFields 7 ⟨"C", "A\nCLIENT_CODE=B"⟩
          (.killAll (.instrument "QJSIM" "SBER")) "QJSIM" "SBER") =
        tableText (tableFields 7 ⟨"B\nCLIENT_CODE=C", "A"⟩
          (.killAll (.instrument "QJSIM" "SBER")) "QJSIM" "SBER") := by
      decide +kernel
    rw [htables]
    exact sendsTable_tableText rfl
  case limited =>
    exact ⟨_, sendsTable_tableText rfl, by decide +kernel⟩

end TerminalGateway.Command
