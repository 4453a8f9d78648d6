import TerminalGateway.CommandLine.Arguments
import TerminalGateway.Gateway.Basic

/-!
# What the program says

The program logs what its gateway hands out, and says why it ends.

Main definitions:

- `helpLines`: how to use the program.
- `Stop.lines`, `Stop.exitCode`: an end before the gateway is started.
- `eventLine?`: the line about an event.
- `gatewayErrorLine`: the last line after a failed connection.
-/

namespace TerminalGateway.CommandLine

open TerminalGateway.Text (quoted)

/-! ## Ends before the start -/

/-- How to use the program. -/
def helpLines : List String :=
  ["quikgate - QUIK terminal gateway",
    "",
    "USAGE:",
    "    quikgate [OPTIONS]",
    "",
    "OPTIONS:",
    "    --config <PATH>     Load configuration from JSON file",
    "    --asset <CLASS/SEC> Request market data for an asset (repeatable)",
    "    --help              Print this help message",
    "",
    "ENVIRONMENT VARIABLES:",
    "    QUIKGATE_LOGIN      Overrides credentials.login",
    "    QUIKGATE_PASSWORD   Overrides credentials.password",
    "    RUST_LOG            Log level filter",
    "",
    "EXAMPLES:",
    "    # Stream SBER quotes from the demo server",
    "    QUIKGATE_PASSWORD=... quikgate --asset QJSIM/SBER",
    "",
    "    # Lua socket bridge from a config file",
    "    quikgate --config lua.json --asset SPBFUT/RIU8",
    ""]

/-- An error as the last line of the program shows it: by its name. -/
def assetErrorName : AssetError → String
  | .emptyClassCode => "EmptyClassCode"
  | .emptySecCode => "EmptySecCode"
  | .invalid text => s!"Invalid({quoted text})"

/-- An error as the last line of the program shows it: by its name. -/
def settingsErrorName : SettingsError → String
  | .io => "Io"
  | .parse => "Parse"
  | .invalid reason => s!"Invalid({quoted reason})"

/-- What the program says when it ends before the start. -/
def Stop.lines : Stop → List String
  | .help => helpLines
  | .missingPath => ["Error: --config requires a path argument"]
  | .missingAsset => ["Error: --asset requires CLASS/SEC"]
  | .unknownArgument argument => s!"Error: unknown argument '{argument}'" :: helpLines
  | .asset error => ["Error: " ++ assetErrorName error]
  | .settings error => ["Error: " ++ settingsErrorName error]

/-- Only asking for help is a success. -/
def Stop.exitCode : Stop → Nat
  | .help => 0
  | _ => 1

/-! ## The log -/

/-- A line of the log. -/
def infoLine (text : String) : String :=
  "[INFO  quikgate] " ++ text

/-- A line of the log about a failure. -/
def errorLine (text : String) : String :=
  "[ERROR quikgate] " ++ text

/-- A line of the log with the time at which it was said; other lines carry no time. -/
def stamped (time line : String) : String :=
  match line.toList with
  | '[' :: rest => "[" ++ time ++ " " ++ String.ofList rest
  | _ => line

/-- What may be missing, as the log shows it. -/
def maybe (value : Option String) : String :=
  match value with
  | some text => s!"Some({text})"
  | none => "None"

/-- A decimal that may be missing. -/
def maybeDecimal (value : Option Decimal) : String :=
  maybe (value.map Decimal.text)

/-- The name of a table of limits. -/
def limitName : Account.LimitKind → String
  | .money => "Money"
  | .stock => "Stock"
  | .received => "Received"
  | .tradeAccount => "TradeAccount"

/-- How a transaction ended. -/
def outcomeText : Transaction.Outcome → String
  | .accepted number =>
      "Accepted \x7b order_number: " ++ maybe (number.map quoted) ++ " \x7d"
  | .rejected text => s!"Rejected({quoted text})"
  | .unrecognized => "Unrecognized"
  | .timedOut => "TimedOut"

/-- What the log says about an event; heartbeats are left out. -/
def eventText? : Event → Option String
  | .quote q =>
      some (q.asset.text ++ " bid=" ++ maybeDecimal q.bid ++ " ask=" ++ maybeDecimal q.ask
        ++ " last=" ++ maybeDecimal q.last)
  | .candle c =>
      some (c.asset.text ++ " " ++ c.time.spacedText ++ " o=" ++ c.openPrice.text
        ++ " h=" ++ c.high.text ++ " l=" ++ c.low.text ++ " c=" ++ c.close.text
        ++ " v=" ++ c.volume.text)
  | .book b =>
      some (b.asset.text ++ " book: " ++ b.levels.length.repr ++ " levels, best bid "
        ++ maybeDecimal (b.bestBid?.map Market.Level.price) ++ ", best ask "
        ++ maybeDecimal (b.bestAsk?.map Market.Level.price))
  | .heartbeat _ => none
  | .order o =>
      some ("Order " ++ o.number ++ " " ++ o.asset.text ++ " " ++ o.side.name ++ " "
        ++ o.quantity.text ++ "@" ++ o.price.text ++ " status=" ++ o.status.repr)
  | .trade t =>
      some ("Trade " ++ t.number ++ " " ++ t.asset.text ++ " " ++ t.side.name ++ " "
        ++ t.quantity.text ++ "@" ++ t.price.text)
  | .limit l => some (limitName l.kind ++ " limit for " ++ l.asset.text ++ ": " ++ l.payload.text)
  | .reply n =>
      some ("Transaction " ++ n.transactionId.repr ++ " on " ++ n.asset.text ++ ": "
        ++ outcomeText n.outcome)
  | .state s => some ("Connection " ++ s.name)

/-- The line about an event. -/
def eventLine? (event : Event) : Option String :=
  (eventText? event).map infoLine

/-- What the program says once it is connected. -/
def bannerLine : String :=
  infoLine "Connected, press Ctrl+C to stop"

/-- What the program says when it is interrupted. -/
def farewellLines (counters : Gateway.Counters) : List String :=
  [infoLine "Shutting down",
    infoLine (counters.frames.repr ++ " frames, " ++ counters.decodeErrors.repr
      ++ " decode errors, " ++ counters.unhandled.repr ++ " unhandled, "
      ++ counters.reconnects.repr ++ " reconnects")]

/-! ## Failed connections -/

/-- A failed connection as the last line shows it: by its name. -/
def connectErrorName : ConnectError → String
  | .invalidEndpoint reason => s!"InvalidEndpoint({quoted reason})"
  | .io reason => s!"Io({quoted reason})"
  | .handshake reason => s!"Handshake({quoted reason})"
  | .closedDuringHandshake => "ClosedDuringHandshake"
  | .alreadyConnected => "AlreadyConnected"

/-- A refusal as the last line shows it: by its name. -/
def authErrorName : AuthError → String
  | .rejected code text =>
      "Rejected \x7b code: " ++ code.repr ++ ", message: " ++ quoted text ++ " \x7d"
  | .sessionRejected code text =>
      "SessionRejected \x7b code: " ++ code.repr ++ ", message: " ++ quoted text ++ " \x7d"

/-- The log's line about a failed connection. -/
def failureLine (error : GatewayError) : String :=
  errorLine ("Connect failed: " ++ error.message)

/-- The last line after a failed connection. -/
def gatewayErrorLine (error : GatewayError) : String :=
  "Error: " ++ match error with
    | .connect error => s!"Connect({connectErrorName error})"
    | .auth error => s!"Auth({authErrorName error})"
    | .stopped => "Stopped"
    | .closed => "Closed"

end TerminalGateway.CommandLine
