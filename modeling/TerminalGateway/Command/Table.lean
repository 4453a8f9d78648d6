import TerminalGateway.Command.Dialect
import TerminalGateway.Intent

/-!
# Transaction tables

The bridge takes a transaction as a text with one field to a line, the name of the field and its
value on either side of an equals sign.
-/

namespace TerminalGateway.Command

/-- The fields of a transaction on the bridge in order, on an asset with the given codes. -/
def tableFields (transactionId : Nat) (account : TradeAccount) (intent : Intent)
    (classCode secCode : String) : List (String × String) :=
  [("ACTION", intent.action.tag),
    ("ACCOUNT", account.account),
    ("CLIENT_CODE", account.clientCode),
    ("TRANS_ID", transactionId.repr),
    ("CLASSCODE", classCode),
    ("SECCODE", secCode)] ++
  match intent.side with
  | none => []
  | some side =>
      [("TYPE", if intent.isMarket then "M" else "L"),
        ("OPERATION", match side with
          | .buy => "B"
          | .sell => "S"),
        ("PRICE", intent.price.normalize.text),
        ("QUANTITY", intent.quantity.normalize.text)]

/-- The text of a table. -/
def tableText (fields : List (String × String)) : String :=
  "\n".intercalate (fields.map fun field => field.1 ++ "=" ++ field.2)

end TerminalGateway.Command
