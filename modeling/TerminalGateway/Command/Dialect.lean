import TerminalGateway.Text.Encoding

/-!
# Dialects

Two kinds of terminal understand the same commands in different words: the web server, whose
messages are known by numbers, and the bridge inside the desktop terminal, whose messages are known
by texts and call its methods.
-/

namespace TerminalGateway

/-- The command set that a terminal understands. -/
inductive Dialect where
  /-- The web server, which logs in and then opens a trade session. -/
  | web
  /-- The bridge in the desktop terminal, which only checks a password. -/
  | bridge
deriving Repr, DecidableEq

namespace Dialect

/-- The name of a dialect. -/
def name : Dialect → String
  | web => "web_quik"
  | bridge => "lua_bridge"

/-- The dialect with a name. -/
def ofName? (name : String) : Option Dialect :=
  [web, bridge].find? fun dialect => dialect.name = name

/-- The encoding in which such a terminal writes unless told otherwise. -/
def encoding : Dialect → Text.Encoding
  | web => .utf8
  | bridge => .windows1251

/-- An accepted login also opens the session; no message about the session follows. -/
def authOpensSession : Dialect → Bool
  | web => false
  | bridge => true

end Dialect

/-- The account that every order names. -/
structure TradeAccount where
  /-- The client's code at the broker. -/
  clientCode : String := ""
  /-- The trade account on the market. -/
  account : String := ""
deriving Repr, DecidableEq

end TerminalGateway
