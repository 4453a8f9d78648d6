import TerminalGateway.Command.Dialect
import TerminalGateway.Connection.Retry
import TerminalGateway.Frame
import TerminalGateway.Text.Quoted

/-!
# Settings

What a gateway is to connect to and how it behaves.  Everything but the endpoint has a default;
the dialect follows from the kind of endpoint, and the encoding from the dialect, unless they are
given.

Main definitions:

- `Endpoint`, `Credentials`, `Feed`, `Probing`: the parts of the settings.
- `Settings`: all of them; `Settings.ofEndpoint` has the defaults.
- `Settings.validate`: what makes settings usable.
-/

namespace TerminalGateway

/-- What a gateway connects to. -/
inductive Endpoint where
  | webSocket (url : String)
  /-- A raw socket, given by its address. -/
  | socket (address delimiter : String) (maxLength : Nat)
deriving Repr, DecidableEq

/-- The login at the terminal. -/
structure Credentials where
  login : String := ""
  password : String := ""
deriving Repr, DecidableEq

/-- What is asked for when a feed is requested. -/
structure Feed where
  /-- The period of the candles, zero for the terminal's own. -/
  period : Nat := 0
  /-- The depth of the order book. -/
  depth : Nat := 30
deriving Repr, DecidableEq

/-- How an open session is probed. -/
structure Probing where
  /-- The time between two probes in milliseconds. -/
  interval : Nat := 3000
  /-- The number of probes that may stay unanswered, without bound if zero. -/
  limit : Nat := 3
deriving Repr, DecidableEq

/-- All settings of a gateway. -/
structure Settings where
  endpoint : Endpoint
  dialect? : Option Dialect := none
  encoding? : Option Text.Encoding := none
  credentials : Credentials := {}
  account : TradeAccount := {}
  clientVersion : String := "6.6.1"
  feed : Feed := {}
  probing : Probing := {}
  /-- The time that a transaction may stay pending, in milliseconds. -/
  timeout : Nat := 30000
  retry : Connection.RetryPolicy := {}
  /-- A long queue is reported at each multiple of this length. -/
  queueWarnDepth : Nat := 10000
deriving DecidableEq

/-- Why settings cannot be used. -/
inductive SettingsError where
  /-- They cannot be fetched. -/
  | io
  /-- They are not written as settings are. -/
  | parse
  | invalid (reason : String)
deriving Repr, DecidableEq

/-- The wording of an error. -/
def SettingsError.message : SettingsError → String
  | .io => "Failed to read config file"
  | .parse => "Failed to parse config"
  | .invalid reason => s!"Invalid config: {reason}"

/-- An endpoint as diagnostics show it. -/
def Endpoint.shown : Endpoint → String
  | .webSocket url => url
  | .socket address _ _ => "tcp://" ++ address

/-- Credentials as diagnostics show them: without the password. -/
def Credentials.shown (credentials : Credentials) : String :=
  "Credentials \x7b login: " ++ Text.quoted credentials.login ++ ", password: \"***\" \x7d"

namespace Settings

/-- The settings for an endpoint with every default. -/
def ofEndpoint (endpoint : Endpoint) : Settings where
  endpoint := endpoint

/-- The settings of the demonstration server. -/
def demonstration : Settings where
  endpoint := .webSocket "wss://junior.webquik.ru:443/quik"
  credentials := { login := "U0000000" }
  account := { clientCode := "10000", account := "NL0011100043" }
  retry := { initialDelay := 1000 }

/-- The settings with other credentials. -/
def withCredentials (settings : Settings) (login password : String) : Settings :=
  { settings with credentials := ⟨login, password⟩ }

/-- The settings with the login and the password replaced where the environment has them. -/
def withEnvironment (settings : Settings) (login password : Option String) : Settings :=
  settings.withCredentials (login.getD settings.credentials.login)
    (password.getD settings.credentials.password)

/-! ## What is in effect -/

/-- The dialect in effect. -/
def dialect (settings : Settings) : Dialect :=
  settings.dialect?.getD
    (match settings.endpoint with
    | .webSocket _ => .web
    | .socket _ _ _ => .bridge)

/-- The encoding in effect. -/
def encoding (settings : Settings) : Text.Encoding :=
  settings.encoding?.getD settings.dialect.encoding

/-- The time between two probes in nanoseconds. -/
def probeInterval (settings : Settings) : Nat :=
  Duration.ofMillis settings.probing.interval

/-- The time that a transaction may stay pending, in nanoseconds. -/
def timeoutNanos (settings : Settings) : Nat :=
  Duration.ofMillis settings.timeout

/-- The least time between two searches for overdue transactions, in nanoseconds. -/
def minSweepInterval : Nat :=
  Duration.ofMillis 50

/-- The time between two searches for overdue transactions, in nanoseconds. -/
def sweepInterval (settings : Settings) : Nat :=
  max (settings.timeoutNanos / 4) minSweepInterval

/-! ## Validity -/

/-- A text begins with another. -/
def begins (beginning text : String) : Bool :=
  beginning.toList.isPrefixOf text.toList

/-- The first fault of an endpoint. -/
def endpointFault? : Endpoint → Option String
  | .webSocket url =>
      if begins "ws://" url || begins "wss://" url then none
      else some s!"websocket url must start with ws:// or wss://, got '{url}'"
  | .socket address delimiter maxLength =>
      if address = "" then some "tcp address is empty"
      else if delimiter = "" then some "tcp delimiter is empty"
      else if maxLength = 0 then some "max_frame_len must be positive"
      else none

/-- The first fault of settings. -/
def fault? (settings : Settings) : Option String :=
  match endpointFault? settings.endpoint with
  | some fault => some fault
  | none =>
      if settings.dialect = .web ∧ settings.credentials.login = "" then
        some "credentials.login is required"
      else if settings.probing.interval = 0 then some "heartbeat.interval_ms must be positive"
      else if settings.timeout = 0 then some "transaction_timeout_ms must be positive"
      else if settings.retry.multiplier.lt .one then
        some "reconnect.multiplier must be at least 1.0"
      else none

/-- The settings, if they can be used. -/
def validate (settings : Settings) : Except SettingsError Settings :=
  match settings.fault? with
  | some fault => .error (.invalid fault)
  | none => .ok settings

end Settings

end TerminalGateway
