import TerminalGateway.Settings.Basic
import TerminalGateway.View

/-!
# Views of settings

Settings are shown with what is given and what is in effect, and with all times in nanoseconds.

Main definition:

- `View.settings`: the view of settings.
-/

namespace TerminalGateway.View

open TerminalGateway.Json (Value)

/-- The bits of a floating-point number as sixteen hexadecimal digits. -/
def bits (number : Nat) : Value :=
  let digits := Nat.toDigits 16 number
  .string (String.ofList (List.replicate (16 - digits.length) '0' ++ digits))

/-- An endpoint with its parts. -/
def endpoint : Endpoint → Value
  | .webSocket url => .object [("url", .string url)]
  | .socket address delimiter maxLength =>
      .object [
        ("address", .string address), ("delimiter", .string delimiter),
        ("max_frame_len", integer maxLength)]

/-- What is given, if it is, and what is in effect. -/
def choice (given : Option String) (inEffect : String) : Value :=
  .array [maybe .string given, .string inEffect]

/-- Settings, perhaps with the form of the credentials that hides the password. -/
def settings (s : Settings) (withCredentials : Bool) : Value :=
  let credentials :=
    if withCredentials then [("credentials_debug", Value.string s.credentials.shown)] else []
  .object ([
    ("transport", endpoint s.endpoint), ("endpoint", .string s.endpoint.shown),
    ("dialect", choice (s.dialect?.map Dialect.name) s.dialect.name),
    ("encoding", choice (s.encoding?.map Text.Encoding.name) s.encoding.name),
    ("login", .string s.credentials.login), ("password", .string s.credentials.password),
    ("client_code", .string s.account.clientCode), ("account", .string s.account.account),
    ("client_version", .string s.clientVersion), ("period", .ofInt s.feed.period),
    ("depth", .ofInt s.feed.depth), ("heartbeat_ns", integer s.probeInterval),
    ("pong_timeout", .ofInt s.probing.limit), ("transaction_timeout_ns", integer s.timeoutNanos),
    ("sweep_ns", integer s.sweepInterval),
    ("initial_delay_ns", integer (Duration.ofMillis s.retry.initialDelay)),
    ("max_delay_ns", integer (Duration.ofMillis s.retry.maxDelay)),
    ("multiplier_bits", bits s.retry.multiplier.bits),
    ("max_retries", maybe (fun n : Nat => .ofInt n) s.retry.maxRetries),
    ("queue_warn_depth", integer s.queueWarnDepth)] ++ credentials)

end TerminalGateway.View
