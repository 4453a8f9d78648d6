import TerminalGateway.Transport.Socket

/-!
# Outgoing bytes of a raw socket

What a gateway writes to a raw socket, kept until somebody puts it on the wire.  Connections are
numbered, and only the newest one that was not closed takes bytes.

Main definitions:

- `Outbox`: the bytes to be sent, and which connection is open.
- `Outbox.send`, `Outbox.close`: writing and closing.
-/

namespace TerminalGateway.Transport

open TerminalGateway.Frame (Splitter)

/-- What is to be sent. -/
structure Outbox where
  encoding : Text.Encoding
  splitter : Splitter
  /-- The bytes to be sent, oldest first. -/
  bytes : List UInt8 := []
  /-- The connection that takes bytes. -/
  current : Option Nat := none
  /-- The number of connections so far. -/
  made : Nat := 0

namespace Outbox

/-- A new connection takes the bytes from now on. -/
def connect (outbox : Outbox) : Nat × Outbox :=
  (outbox.made,
    { outbox with bytes := [], current := some outbox.made, made := outbox.made + 1 })

/-- Writes a text. -/
def send (outbox : Outbox) (number : Nat) (text : String) : Except SendError Unit × Outbox :=
  if outbox.current = some number then
    match Socket.outgoing outbox.splitter outbox.encoding text with
    | .ok bytes => (.ok (), { outbox with bytes := outbox.bytes ++ bytes })
    | .error error => (.error error, outbox)
  else (.error (.io "connection closed"), outbox)

/-- A probe, which counts as answered. -/
def ping (outbox : Outbox) (_ : Nat) : Except SendError Liveness × Outbox :=
  (.ok .immediate, outbox)

/-- Closes a connection; what was written before is still to be sent. -/
def close (outbox : Outbox) (number : Nat) : Outbox :=
  if outbox.current = some number then { outbox with current := none } else outbox

/-- The bytes to be sent, and the outbox without them. -/
def takeBytes (outbox : Outbox) : List UInt8 × Outbox :=
  (outbox.bytes, { outbox with bytes := [] })

end Outbox

end TerminalGateway.Transport
