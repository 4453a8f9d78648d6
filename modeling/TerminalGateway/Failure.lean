import TerminalGateway.Text.Encoding

/-!
# Failures

Why a connection is not made, a session is not opened or a message is not written, and how each
failure is worded.

Main definitions:

- `SendError`: a message is not written.
- `ConnectError`: a connection is not made, or ends before its session is open.
- `AuthError`: the terminal refuses the login or the trade session.
- `GatewayError`: what the caller of a connection is told.
-/

namespace TerminalGateway

/-- Why a message is not written. -/
inductive SendError where
  | notConnected
  /-- The connection refused the bytes. -/
  | io (reason : String)
  /-- The command has no form on the wire. -/
  | serialization (reason : String)
  /-- The text has a character that the encoding lacks. -/
  | encoding (used : Text.Encoding)
deriving Repr, DecidableEq

/-- Why there is no connection. -/
inductive ConnectError where
  | invalidEndpoint (reason : String)
  | io (reason : String)
  | handshake (reason : String)
  /-- The connection ended before its session was open. -/
  | closedDuringHandshake
  | alreadyConnected
deriving Repr, DecidableEq

/-- Why the terminal opens no session. -/
inductive AuthError where
  | rejected (code : Int) (text : String)
  | sessionRejected (code : Int) (text : String)
deriving Repr, DecidableEq

/-- Why a caller gets no open session. -/
inductive GatewayError where
  | connect (error : ConnectError)
  | auth (error : AuthError)
  /-- The gateway is no longer running. -/
  | stopped
  /-- The connection was closed on request. -/
  | closed
deriving Repr, DecidableEq

/-- The wording of a failed write. -/
def SendError.message : SendError → String
  | .notConnected => "Not connected"
  | .io reason => s!"Write failed: {reason}"
  | .serialization reason => s!"Serialization failed: {reason}"
  | .encoding used => s!"Text not representable in {used.name}"

/-- The wording of a failed connection. -/
def ConnectError.message : ConnectError → String
  | .invalidEndpoint reason => s!"Invalid endpoint: {reason}"
  | .io reason => s!"Connection failed: {reason}"
  | .handshake reason => s!"WebSocket handshake failed: {reason}"
  | .closedDuringHandshake => "Connection closed before the session was opened"
  | .alreadyConnected => "Gateway is already connecting or connected"

/-- The wording of a refusal. -/
def AuthError.message : AuthError → String
  | .rejected code text => s!"Authentication failed (code {code.repr}): {text}"
  | .sessionRejected code text => s!"Trade session opening failed (code {code.repr}): {text}"

/-- The wording of what a caller is told. -/
def GatewayError.message : GatewayError → String
  | .connect error => s!"Connect error: {error.message}"
  | .auth error => s!"Auth error: {error.message}"
  | .stopped => "Gateway stopped"
  | .closed => "Closed by request"

end TerminalGateway
