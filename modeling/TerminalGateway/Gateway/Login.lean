import TerminalGateway.Command.Dialect
import TerminalGateway.Failure
import TerminalGateway.Message.Scalar

/-!
# Answers to a login

The web server answers with a result code, zero for success, and perhaps a text; a missing code
counts as a failure.  The bridge answers with a list whose first item tells whether the password
was right.
-/

namespace TerminalGateway.Gateway

open TerminalGateway.Json (Value)
open TerminalGateway.Message

/-- The result code of an answer. -/
def resultCode (payload : Value) : Int :=
  (Scalar.intAt? payload "resultCode").getD (-1)

/-- The text of an answer, or all of it where it has none. -/
def resultText (payload : Value) : String :=
  (Scalar.first? Scalar.text? payload ["resultMsg", "resultText", "text"]).getD payload.text

/-- The bridge's verdict on a password. -/
def passwordAccepted (payload : Value) : Bool :=
  (payload.get? "result" >>= (Value.item? · 0) >>= Value.bool?).getD false

/-- Why a login was refused, nothing if it was accepted. -/
def loginError? (dialect : Dialect) (payload : Value) : Option AuthError :=
  match dialect with
  | .web =>
      if resultCode payload = 0 then none
      else some (.rejected (resultCode payload) (resultText payload))
  | .bridge =>
      if passwordAccepted payload then none
      else some (.rejected (-1) "password check failed")

/-- Why the trade session was refused, nothing if it is open. -/
def sessionError? (payload : Value) : Option AuthError :=
  if resultCode payload = 0 then none
  else some (.sessionRejected (resultCode payload) (resultText payload))

end TerminalGateway.Gateway
