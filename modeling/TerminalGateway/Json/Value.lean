import TerminalGateway.Json.Number

/-!
# JSON values

A value read from a text keeps the members of each object in the order of their names, each
name once.  A value that is written for a record keeps the order of the record's fields.

Main definitions:

- `Value`: a JSON value; `Value.set` adds a member in the order of names.
- `Value.get?`, `Value.item?`: what an object or an array holds.
- `Value.toChars`, `Value.text`: the compact text of a value.
-/

namespace TerminalGateway.Json

/-- A JSON value. -/
inductive Value where
  | null
  | bool (value : Bool)
  | number (value : Number)
  | string (value : String)
  | array (items : List Value)
  | object (members : List (String × Value))
deriving Repr, Inhabited

namespace Value

/-! ## Objects and arrays -/

/-- Adds a member in the order of names, replacing one of the same name.  Names compare by
their code points, which is also the order of their UTF-8 bytes. -/
def set (name : String) (value : Value) : List (String × Value) → List (String × Value)
  | [] => [(name, value)]
  | (other, held) :: rest =>
      if name = other then (name, value) :: rest
      else if name < other then (name, value) :: (other, held) :: rest
      else (other, held) :: set name value rest

/-- The object with the given members; of two with one name the later one counts. -/
def ofMembers (members : List (String × Value)) : Value :=
  .object (members.foldl (fun held member => set member.1 member.2 held) [])

/-- The members of an object. -/
def members? : Value → Option (List (String × Value))
  | object members => some members
  | _ => none

/-- The items of an array. -/
def items? : Value → Option (List Value)
  | array items => some items
  | _ => none

/-- The member of an object with a name. -/
def get? (value : Value) (name : String) : Option Value :=
  match value with
  | object members => members.lookup name
  | _ => none

/-- The item of an array at a position. -/
def item? (value : Value) (position : Nat) : Option Value :=
  match value with
  | array items => items[position]?
  | _ => none

/-- The text of a string. -/
def string? : Value → Option String
  | string value => some value
  | _ => none

/-- A truth value. -/
def bool? : Value → Option Bool
  | bool value => some value
  | _ => none

/-- A whole number as a value. -/
def ofInt (value : Int) : Value :=
  .number (.whole value)

/-- An optional value, null when absent. -/
def ofOption {α : Type} (write : α → Value) : Option α → Value
  | some value => write value
  | none => .null

/-! ## Text -/

/-- The lower-case hexadecimal digit of a number below 16. -/
def hexDigit (n : Nat) : Char :=
  if n < 10 then Char.ofNat ('0'.toNat + n) else Char.ofNat ('a'.toNat + (n - 10))

/-- A character inside a string.  Only quotes, backslashes and the controls below U+0020 are
escaped. -/
def escape (c : Char) : List Char :=
  if c = '"' then ['\\', '"']
  else if c = '\\' then ['\\', '\\']
  else if c.toNat = 0x8 then ['\\', 'b']
  else if c.toNat = 0x9 then ['\\', 't']
  else if c.toNat = 0xA then ['\\', 'n']
  else if c.toNat = 0xC then ['\\', 'f']
  else if c.toNat = 0xD then ['\\', 'r']
  else if c.toNat < 0x20 then
    ['\\', 'u', '0', '0', hexDigit (c.toNat / 16), hexDigit (c.toNat % 16)]
  else [c]

/-- A string between quotes. -/
def quote (s : String) : List Char :=
  '"' :: (s.toList.flatMap escape ++ ['"'])

mutual

/-- The compact text of a value. -/
def toChars : Value → List Char
  | null => ['n', 'u', 'l', 'l']
  | bool true => ['t', 'r', 'u', 'e']
  | bool false => ['f', 'a', 'l', 's', 'e']
  | number value => value.text.toList
  | string value => quote value
  | array [] => ['[', ']']
  | array (first :: rest) => '[' :: (toChars first ++ itemsToChars rest)
  | object [] => ['\x7b', '\x7d']
  | object ((name, first) :: rest) =>
      '\x7b' :: (quote name ++ ':' :: (toChars first ++ membersToChars rest))

/-- The items after the first, and the end of the array. -/
def itemsToChars : List Value → List Char
  | [] => [']']
  | first :: rest => ',' :: (toChars first ++ itemsToChars rest)

/-- The members after the first, and the end of the object. -/
def membersToChars : List (String × Value) → List Char
  | [] => ['\x7d']
  | (name, first) :: rest =>
      ',' :: (quote name ++ ':' :: (toChars first ++ membersToChars rest))

end

/-- The compact text of a value. -/
def text (value : Value) : String :=
  String.ofList value.toChars

example : (ofMembers [("b", .null), ("a", .bool true), ("b", ofInt 2)]).text
    = "\x7b\"a\":true,\"b\":2\x7d" := by decide +kernel

end Value

end TerminalGateway.Json
