import TerminalGateway.Text.Integer

/-!
# Network addresses

An address is a path alone, an authority alone, or a scheme, an authority and a path behind it.
The authority names the host, perhaps with the user before it and the number of the service
behind it.

Main definitions:

- `Address`: an address taken apart.
- `Address.Fault`: why a text is no address.
- `Address.read`: takes an address apart.
- `Address.splitService?`, `Address.service?`: the number of the service.
-/

namespace TerminalGateway.Transport

/-- An address taken apart, without its path. -/
structure Address where
  /-- What stands before `://`. -/
  scheme : Option (List Char)
  /-- The host and what is written around it; nothing in a path alone. -/
  authority : List Char
deriving Repr, DecidableEq

namespace Address

/-- Why a text is no address. -/
inductive Fault where
  | empty
  | tooLong
  | schemeTooLong
  /-- A character that may not stand where it stands. -/
  | character
  /-- The authority is put together in a way that it may not be. -/
  | authority
  /-- A part is missing, or follows where none may. -/
  | format
deriving Repr, DecidableEq

/-- The wording of a fault. -/
def Fault.message : Fault → String
  | .empty => "empty string"
  | .tooLong => "uri too long"
  | .schemeTooLong => "scheme too long"
  | .character => "invalid uri character"
  | .authority => "invalid authority"
  | .format => "invalid format"

/-- The greatest number of bytes of an address. -/
def maxLength : Nat :=
  65534

/-- The greatest number of characters of a scheme. -/
def maxSchemeLength : Nat :=
  64

/-- An ASCII letter or digit. -/
def isAlphanumeric (c : Char) : Bool :=
  Text.isDigit c || ('A' ≤ c && c ≤ 'Z') || ('a' ≤ c && c ≤ 'z')

/-- The characters of a scheme. -/
def isSchemeChar (c : Char) : Bool :=
  isAlphanumeric c || "+-.~".toList.contains c

/-- The characters of an authority that have no meaning for how it is put together. -/
def isPlainChar (c : Char) : Bool :=
  isAlphanumeric c || "!$&'()*+,-.;=_~".toList.contains c

/-- The characters that end an authority. -/
def isEnd (c : Char) : Bool :=
  c = '/' || c = '?' || c = '#'

/-- The characters of a path. -/
def isPathChar (c : Char) : Bool :=
  '!' ≤ c && c ≠ '<' && c ≠ '>' && c.toNat ≠ 0x60

/-- The characters of a query. -/
def isQueryChar (c : Char) : Bool :=
  '!' ≤ c && c ≠ '<' && c ≠ '>' && c ≠ '"' && c.toNat ≠ 0x7F

/-- The scheme of an address, if it has one, and what follows it. -/
def splitScheme (cs : List Char) : Except Fault (Option (List Char) × List Char) :=
  match cs.span isSchemeChar with
  | (scheme, ':' :: '/' :: '/' :: rest) =>
      if maxSchemeLength < scheme.length then .error .schemeTooLong
      else .ok (some scheme, rest)
  | _ => .ok (none, cs)

/-- What has been seen of an authority. -/
structure Seen where
  colons : Nat := 0
  percent : Bool := false
  opened : Bool := false
  closed : Bool := false

/-- Takes note of a character.  The colons and percent signs of a user and of a host in brackets
do not count. -/
def Seen.take (seen : Seen) (c : Char) : Except Fault Seen :=
  if c = ':' then
    if 8 ≤ seen.colons then .error .authority else .ok { seen with colons := seen.colons + 1 }
  else if c = '[' then
    if seen.percent || seen.opened then .error .authority else .ok { seen with opened := true }
  else if c = ']' then
    if !seen.opened || seen.closed then .error .authority
    else .ok { seen with closed := true, colons := 0, percent := false }
  else if c = '@' then .ok { seen with colons := 0, percent := false }
  else if c = '%' then .ok { seen with percent := true }
  else if isPlainChar c then .ok seen
  else .error .character

/-- The check of an authority: brackets in a pair, at most one colon, no percent sign, and a host
behind the user. -/
def checkAuthority (cs : List Char) : Except Fault Unit := do
  let seen ← cs.foldlM Seen.take {}
  if seen.opened != seen.closed || 1 < seen.colons || seen.percent || cs.getLast? = some '@' then
    .error .authority
  else .ok ()

/-- The check of a path and its query.  What follows a `#` is not looked at. -/
def checkPath (cs : List Char) : Except Fault Unit :=
  let visible := cs.takeWhile (· ≠ '#')
  let path := visible.takeWhile (· ≠ '?')
  let query := visible.drop (path.length + 1)
  if path.all isPathChar && query.all isQueryChar then .ok () else .error .character

/-- Takes an address apart that is longer than one character and does not start with a path. -/
def readFull (cs : List Char) : Except Fault Address := do
  let (scheme, rest) ← splitScheme cs
  let (authority, path) := rest.span (!isEnd ·)
  checkAuthority authority
  match scheme with
  | none => if path.isEmpty then return ⟨none, authority⟩ else throw .format
  | some _ =>
      if authority.isEmpty then throw .format
      checkPath path
      return ⟨scheme, authority⟩

/-- Takes an address apart. -/
def read (text : String) : Except Fault Address :=
  if maxLength < text.utf8ByteSize then .error .tooLong
  else
    match text.toList with
    | [] => .error .empty
    | '/' :: path => do
        checkPath path
        return ⟨none, []⟩
    | ['*'] => .ok ⟨none, []⟩
    | ['?'] => .error .character
    | ['#'] => .error .character
    | cs => readFull cs

/-- What stands before and behind the last colon. -/
def splitService? (cs : List Char) : Option (List Char × List Char) :=
  match cs.reverse.span (· ≠ ':') with
  | (service, ':' :: host) => some (host.reverse, service.reverse)
  | _ => none

/-- The number that names a service. -/
def readService? (cs : List Char) : Option Nat :=
  Text.readNat? Number.limit16 cs

/-- The number of the service, which stands behind the last colon. -/
def service? (address : Address) : Option Nat := do
  readService? (← splitService? address.authority).2

example : read "ws://u:p@host:8080/quik?a#b"
    = .ok ⟨some "ws".toList, "u:p@host:8080".toList⟩ := by rfl
example : read "ws://" = .error .format := by rfl
example : read "ws://@" = .error .authority := by rfl
example : read "not an address" = .error .character := by rfl

end Address

end TerminalGateway.Transport
