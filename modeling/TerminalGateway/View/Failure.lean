import TerminalGateway.Frame
import TerminalGateway.Message.Basic
import TerminalGateway.Settings.Basic
import TerminalGateway.View
import TerminalGateway.View.Words

/-!
# Views of failures

A failure is shown by its kind and its wording.  What another program words, an operating system
say, is shown by its kind alone.

Main definitions:

- `View.failure`, `View.failureKind`: the two forms of a view.
- `View.assetError`, `View.decodeError`, `View.sendError`, `View.gatewayError`,
  `View.settingsError`: the views of the domain's failures.
-/

namespace TerminalGateway.View

open TerminalGateway.Json (Value)

/-- A failure with its wording. -/
def failure (kind message : String) : Value :=
  .object [("error", .string kind), ("message", .string message)]

/-- A failure by its kind alone. -/
def failureKind (kind : String) : Value :=
  .object [("error", .string kind)]

/-- A text that is no asset. -/
def assetError (error : AssetError) : Value :=
  let kind := match error with
    | .emptyClassCode => "EmptyClassCode"
    | .emptySecCode => "EmptySecCode"
    | .invalid _ => "Invalid"
  failure kind error.message

/-- A frame or a message that cannot be read. -/
def decodeError (error : DecodeError) : Value :=
  match error with
  | .encoding _ => failure "Encoding" error.message
  | .json => failureKind "Json"
  | .notAnObject => failure "NotAnObject" error.message
  | .missingId => failure "MissingId" error.message
  | .invalidId _ => failure "InvalidId" error.message
  | .field _ => failure "Field" error.message

/-- The kind of a failed write. -/
def sendErrorKind : SendError → String
  | .notConnected => "NotConnected"
  | .io _ => "Io"
  | .serialization _ => "Serialization"
  | .encoding _ => "Encoding"

/-- A failed write. -/
def sendError (error : SendError) : Value :=
  failure (sendErrorKind error) error.message

/-- The result of a write, null for success. -/
def sent {α : Type} : Except SendError α → Value
  | .ok _ => .null
  | .error error => sendError error

/-- How a probe is answered, if it could be written. -/
def probed : Except SendError Transport.Liveness → Value
  | .ok liveness => livenesses.view liveness
  | .error error => sendError error

/-- The kind of a failed connection. -/
def connectErrorKind : ConnectError → String
  | .invalidEndpoint _ => "InvalidEndpoint"
  | .io _ => "Io"
  | .handshake _ => "Handshake"
  | .closedDuringHandshake => "ClosedDuringHandshake"
  | .alreadyConnected => "AlreadyConnected"

/-- A failed connection. -/
def connectError (error : ConnectError) : Value :=
  failure (connectErrorKind error) error.message

/-- Why a caller gets no open session. -/
def gatewayError (error : GatewayError) : Value :=
  let kind := match error with
    | .connect error => "Connect/" ++ connectErrorKind error
    | .auth (.rejected _ _) => "Auth/Rejected"
    | .auth (.sessionRejected _ _) => "Auth/SessionRejected"
    | .stopped => "Stopped"
    | .closed => "Closed"
  failure kind error.message

/-- Settings that cannot be used. -/
def settingsError (error : SettingsError) : Value :=
  match error with
  | .io => failureKind "Io"
  | .parse => failureKind "Parse"
  | .invalid _ => failure "Invalid" error.message

/-- A piece of a stream, which may be too long for a frame. -/
def cut : Frame.Cut → Value
  | .frame data => bytes data
  | .oversize limit => failure "FrameTooLarge" (Frame.oversizeMessage limit)

end TerminalGateway.View
