import TerminalGateway.Json.Record
import TerminalGateway.Settings.Basic

/-!
# Settings in JSON

Settings are read from a JSON record.  Every part but the endpoint may be left out.  The endpoint
names its kind in a member of its own, which may stand anywhere among the others or first in a
list.

Main definitions:

- `readEndpoint?`, `readRetry?`, `Settings.ofTree?`: the record forms.
- `Settings.ofText`, `Settings.ofFile`: settings that are read, completed and found usable.
-/

namespace TerminalGateway

open TerminalGateway.Json (Tree Piece pieceText?)
open TerminalGateway.Connection (RetryPolicy)

namespace Settings

/-! ## Parts -/

/-- A number of 32 bits. -/
def readNat32? (tree : Tree) : Option Nat :=
  tree.nat? Number.limit32

/-- A number of 64 bits. -/
def readSize? (tree : Tree) : Option Nat :=
  tree.nat? Number.limit64

/-- The nesting that an endpoint may have when it is all there is to read. -/
def endpointDepth : Nat :=
  Tree.maxDepth

/-- An endpoint of a given kind from its own fields. -/
def endpointOfKind? (kind : String) (fields : Tree) : Option Endpoint :=
  if kind = "websocket" then do
    let record ← Json.Record.ofTree? ["url"] fields
    return .webSocket (← record.required "url" Tree.text?)
  else if kind = "tcp" then do
    let record ← Json.Record.ofTree? ["address", "delimiter", "max_frame_len"] fields
    let address ← record.required "address" Tree.text?
    let delimiter ← record.defaulted "delimiter" Frame.defaultDelimiter Tree.text?
    let maxLength ← record.defaulted "max_frame_len" Frame.defaultMaxLength readSize?
    return .socket address delimiter maxLength
  else none

/-- A member named for the kind of an endpoint. -/
def isKind (member : List Piece × Tree) : Bool :=
  pieceText? member.1 = some "kind"

/-- An endpoint.  Even what is passed over in it must be understood and not be nested too
deeply. -/
def readEndpoint? (depth : Nat) (tree : Tree) : Option Endpoint :=
  match tree.value? depth, tree with
  | some _, .object members =>
      match members.filter isKind with
      | [kind] => do
          endpointOfKind? (← kind.2.text?) (.object (members.filter fun member => !isKind member))
      | _ => none
  | some _, .array (kind :: rest) => do endpointOfKind? (← kind.text?) (.array rest)
  | _, _ => none

/-- A dialect by its name. -/
def readDialect? (tree : Tree) : Option Dialect :=
  tree.unitVariant? >>= Dialect.ofName?

/-- An encoding by its name in settings. -/
def readEncoding? (tree : Tree) : Option Text.Encoding :=
  match tree.unitVariant? with
  | some "utf8" => some .utf8
  | some "windows1251" => some .windows1251
  | _ => none

/-- Credentials. -/
def readCredentials? (tree : Tree) : Option Credentials := do
  let record ← Json.Record.ofTree? ["login", "password"] tree
  return {
    login := ← record.defaulted "login" "" Tree.text?
    password := ← record.defaulted "password" "" Tree.text? }

/-- A trade account. -/
def readAccount? (tree : Tree) : Option TradeAccount := do
  let record ← Json.Record.ofTree? ["client_code", "account"] tree
  return {
    clientCode := ← record.defaulted "client_code" "" Tree.text?
    account := ← record.defaulted "account" "" Tree.text? }

/-- What is asked for when a feed is requested. -/
def readFeed? (tree : Tree) : Option Feed := do
  let record ← Json.Record.ofTree? ["period", "depth"] tree
  let default : Feed := {}
  return {
    period := ← record.defaulted "period" default.period readNat32?
    depth := ← record.defaulted "depth" default.depth readNat32? }

/-- How an open session is probed. -/
def readProbing? (tree : Tree) : Option Probing := do
  let record ← Json.Record.ofTree? ["interval_ms", "pong_timeout"] tree
  let default : Probing := {}
  return {
    interval := ← record.defaulted "interval_ms" default.interval readSize?
    limit := ← record.defaulted "pong_timeout" default.limit readNat32? }

/-- A retry policy.  The growth may be written as any number. -/
def readRetry? (tree : Tree) : Option RetryPolicy := do
  let record ← Json.Record.ofTree?
    ["initial_delay_ms", "max_delay_ms", "multiplier", "max_retries"] tree
  let default : RetryPolicy := {}
  return {
    initialDelay := ← record.defaulted "initial_delay_ms" default.initialDelay readSize?
    maxDelay := ← record.defaulted "max_delay_ms" default.maxDelay readSize?
    multiplier := ← record.defaulted "multiplier" default.multiplier fun tree =>
      tree.number?.map Json.Number.toBinary64
    maxRetries := ← record.defaulted "max_retries" default.maxRetries (Tree.nullable? readNat32?) }

/-! ## The whole -/

/-- Settings from their record form. -/
def ofTree? (tree : Tree) : Option Settings := do
  let record ← Json.Record.ofTree? ["transport", "dialect", "encoding", "credentials",
    "trade_account", "client_version", "feed", "heartbeat", "transaction_timeout_ms", "reconnect",
    "queue_warn_depth"] tree
  let default := ofEndpoint (← record.required "transport" (readEndpoint? (endpointDepth - 1)))
  return {
    endpoint := default.endpoint
    dialect? := ← record.defaulted "dialect" default.dialect? (Tree.nullable? readDialect?)
    encoding? := ← record.defaulted "encoding" default.encoding? (Tree.nullable? readEncoding?)
    credentials := ← record.defaulted "credentials" default.credentials readCredentials?
    account := ← record.defaulted "trade_account" default.account readAccount?
    clientVersion := ← record.defaulted "client_version" default.clientVersion Tree.text?
    feed := ← record.defaulted "feed" default.feed readFeed?
    probing := ← record.defaulted "heartbeat" default.probing readProbing?
    timeout := ← record.defaulted "transaction_timeout_ms" default.timeout readSize?
    retry := ← record.defaulted "reconnect" default.retry readRetry?
    queueWarnDepth := ← record.defaulted "queue_warn_depth" default.queueWarnDepth readSize? }

/-- Settings as they are written in a text, usable or not. -/
def parse (text : List Char) : Except SettingsError Settings :=
  match Tree.read? text >>= ofTree? with
  | some settings => .ok settings
  | none => .error .parse

/-- Usable settings from a text. -/
def ofText (text : List Char) : Except SettingsError Settings :=
  parse text >>= validate

/-- Usable settings from the bytes of a file, with credentials from the environment. -/
def ofFile (bytes : List UInt8) (login password : Option String) :
    Except SettingsError Settings :=
  match Text.Utf8.decode bytes with
  | .error _ => .error .io
  | .ok text => do validate ((← parse text).withEnvironment login password)

/-- An endpoint as it is written in a text. -/
def parseEndpoint (text : List Char) : Except SettingsError Endpoint :=
  match Tree.read? text >>= readEndpoint? endpointDepth with
  | some endpoint => .ok endpoint
  | none => .error .parse

end Settings

end TerminalGateway
