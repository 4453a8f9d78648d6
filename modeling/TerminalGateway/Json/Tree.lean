import TerminalGateway.Json.Value

/-!
# JSON texts

The form of a JSON text before its strings and numbers are understood.  A record reads the
members it knows from this form and passes over the others, whose strings may hold unpaired
surrogates and whose numbers may be of any size; a free value must be understood as a whole.

Main definitions:

- `Tree`: a text's values, with strings as pieces and numbers as numerals.
- `Tree.read?`: the tree of a text.
- `Tree.value?`: the value of a tree, nested no deeper than a limit.
- `Value.read?`: the value of a text.
-/

namespace TerminalGateway.Json

/-- One part of a string: a character, or a code unit given by its number. -/
inductive Piece where
  | plain (c : Char)
  | unit (code : Nat)
deriving Repr, DecidableEq

/-- A JSON text's values in the order of the text. -/
inductive Tree where
  | null
  | bool (value : Bool)
  | number (numeral : Numeral)
  | string (pieces : List Piece)
  | array (items : List Tree)
  | object (members : List (List Piece × Tree))
deriving Repr, Inhabited

/-! ## Reading a text -/

/-- The four blanks that may stand between tokens. -/
def isSpace (c : Char) : Bool :=
  c = ' ' || c = '\t' || c = '\n' || c = '\r'

/-- The text after its leading blanks. -/
def skipSpace (cs : List Char) : List Char :=
  cs.dropWhile isSpace

/-- The value of a hexadecimal digit of either case. -/
def hexValue? (c : Char) : Option Nat :=
  if '0'.toNat ≤ c.toNat ∧ c.toNat ≤ '9'.toNat then some (c.toNat - '0'.toNat)
  else if 'a'.toNat ≤ c.toNat ∧ c.toNat ≤ 'f'.toNat then some (c.toNat - 'a'.toNat + 10)
  else if 'A'.toNat ≤ c.toNat ∧ c.toNat ≤ 'F'.toNat then some (c.toNat - 'A'.toNat + 10)
  else none

/-- The number written by four hexadecimal digits. -/
def hexUnit? (a b c d : Char) : Option Nat := do
  let a ← hexValue? a
  let b ← hexValue? b
  let c ← hexValue? c
  let d ← hexValue? d
  return ((a * 16 + b) * 16 + c) * 16 + d

/-- The character of a one-letter escape. -/
def escaped? (c : Char) : Option Char :=
  if c = '"' || c = '\\' || c = '/' then some c
  else if c = 'b' then some (Char.ofNat 0x8)
  else if c = 'f' then some (Char.ofNat 0xC)
  else if c = 'n' then some '\n'
  else if c = 'r' then some '\r'
  else if c = 't' then some '\t'
  else none

/-- The pieces of a string whose opening quote has been read, and the text after it. -/
def readPieces : List Char → Option (List Piece × List Char)
  | [] => none
  | '"' :: rest => some ([], rest)
  | '\\' :: 'u' :: a :: b :: c :: d :: rest => do
      let code ← hexUnit? a b c d
      let (pieces, rest) ← readPieces rest
      return (.unit code :: pieces, rest)
  | '\\' :: letter :: rest => do
      let c ← escaped? letter
      let (pieces, rest) ← readPieces rest
      return (.plain c :: pieces, rest)
  | c :: rest =>
      if c.toNat < 0x20 || c = '\\' then none
      else do
        let (pieces, rest) ← readPieces rest
        return (.plain c :: pieces, rest)

/-- A run of digits at the head of a text, and the text after it. -/
def digitRun (cs : List Char) : List Char × List Char :=
  cs.span Text.isDigit

/-- The digits after a point, and the text after them; a point needs a digit. -/
def readFraction : List Char → Option (Option (List Char) × List Char)
  | '.' :: rest =>
      match digitRun rest with
      | ([], _) => none
      | (digits, rest) => some (some digits, rest)
  | cs => some (none, cs)

/-- A written exponent, and the text after it; the letter needs a digit. -/
def readExponent (cs : List Char) : Option (Option (Bool × List Char) × List Char) :=
  let signed (cs : List Char) : Bool × List Char :=
    match cs with
    | '-' :: rest => (true, rest)
    | '+' :: rest => (false, rest)
    | _ => (false, cs)
  let digits (cs : List Char) : Option (Option (Bool × List Char) × List Char) :=
    let (minus, cs) := signed cs
    match digitRun cs with
    | ([], _) => none
    | (digits, rest) => some (some (minus, digits), rest)
  match cs with
  | 'e' :: rest => digits rest
  | 'E' :: rest => digits rest
  | _ => some (none, cs)

/-- A numeral at the head of a text, and the text after it.  A leading zero stands alone. -/
def readNumeral (cs : List Char) : Option (Numeral × List Char) := do
  let (negative, cs) := match cs with
    | '-' :: rest => (true, rest)
    | _ => (false, cs)
  let (whole, cs) ← match digitRun cs with
    | ([], _) => none
    | ('0' :: _ :: _, _) => none
    | (digits, rest) => some (digits, rest)
  let (fraction, cs) ← readFraction cs
  let (exponent, cs) ← readExponent cs
  return (⟨negative, whole, fraction, exponent⟩, cs)

mutual

/-- A value at the head of a text, and the text after it.  The first argument bounds the
number of nested calls; twice the length of the text is enough. -/
def readTree : Nat → List Char → Option (Tree × List Char)
  | 0, _ => none
  | depth + 1, cs =>
      match skipSpace cs with
      | 'n' :: 'u' :: 'l' :: 'l' :: rest => some (.null, rest)
      | 't' :: 'r' :: 'u' :: 'e' :: rest => some (.bool true, rest)
      | 'f' :: 'a' :: 'l' :: 's' :: 'e' :: rest => some (.bool false, rest)
      | '"' :: rest => do
          let (pieces, rest) ← readPieces rest
          return (.string pieces, rest)
      | '[' :: rest =>
          match skipSpace rest with
          | ']' :: rest => some (.array [], rest)
          | _ => do
              let (items, rest) ← readItems depth rest
              return (.array items, rest)
      | '\x7b' :: rest =>
          match skipSpace rest with
          | '\x7d' :: rest => some (.object [], rest)
          | _ => do
              let (members, rest) ← readMembers depth rest
              return (.object members, rest)
      | cs => do
          let (numeral, rest) ← readNumeral cs
          return (.number numeral, rest)

/-- One or more items and the end of their array. -/
def readItems : Nat → List Char → Option (List Tree × List Char)
  | 0, _ => none
  | depth + 1, cs => do
      let (item, rest) ← readTree depth cs
      match skipSpace rest with
      | ']' :: rest => return ([item], rest)
      | ',' :: rest =>
          let (items, rest) ← readItems depth rest
          return (item :: items, rest)
      | _ => none

/-- One or more members and the end of their object. -/
def readMembers : Nat → List Char → Option (List (List Piece × Tree) × List Char)
  | 0, _ => none
  | depth + 1, cs =>
      match skipSpace cs with
      | '"' :: rest => do
          let (name, rest) ← readPieces rest
          match skipSpace rest with
          | ':' :: rest =>
              let (value, rest) ← readTree depth rest
              match skipSpace rest with
              | '\x7d' :: rest => return ([(name, value)], rest)
              | ',' :: rest =>
                  let (members, rest) ← readMembers depth rest
                  return ((name, value) :: members, rest)
              | _ => none
          | _ => none
      | _ => none

end

/-- The tree of a text; nothing but blanks may follow it. -/
def Tree.read? (cs : List Char) : Option Tree := do
  let (tree, rest) ← readTree (2 * cs.length + 2) cs
  if (skipSpace rest).isEmpty then return tree else none

/-! ## Understanding a tree -/

/-- The first of two code units of a character past U+FFFF. -/
def isHighSurrogate (code : Nat) : Bool :=
  0xD800 ≤ code && code ≤ 0xDBFF

/-- The second of two code units of a character past U+FFFF. -/
def isLowSurrogate (code : Nat) : Bool :=
  0xDC00 ≤ code && code ≤ 0xDFFF

/-- The characters of a string; its surrogates must come in pairs. -/
def characters? : List Piece → Option (List Char)
  | [] => some []
  | .plain c :: rest => (characters? rest).map (c :: ·)
  | .unit high :: .unit low :: rest =>
      if isHighSurrogate high then
        if isLowSurrogate low then
          (characters? rest).map
            (Char.ofNat (0x10000 + (high - 0xD800) * 0x400 + (low - 0xDC00)) :: ·)
        else none
      else if isLowSurrogate high then none
      else (characters? (.unit low :: rest)).map (Char.ofNat high :: ·)
  | .unit code :: rest =>
      if isHighSurrogate code || isLowSurrogate code then none
      else (characters? rest).map (Char.ofNat code :: ·)

/-- The text of a string. -/
def pieceText? (pieces : List Piece) : Option String :=
  (characters? pieces).map String.ofList

namespace Tree

mutual

/-- The value of a tree with at most `depth` nested arrays and objects. -/
def value? (depth : Nat) : Tree → Option Value
  | null => some .null
  | bool value => some (.bool value)
  | number numeral => numeral.number?.map .number
  | string pieces => (pieceText? pieces).map .string
  | array items =>
      match depth with
      | 0 => none
      | depth + 1 => (values? depth items).map .array
  | object members =>
      match depth with
      | 0 => none
      | depth + 1 => (namedValues? depth members).map Value.ofMembers

/-- The values of an array's items. -/
def values? (depth : Nat) : List Tree → Option (List Value)
  | [] => some []
  | first :: rest => do
      let value ← value? depth first
      let values ← values? depth rest
      return value :: values

/-- The names and values of an object's members. -/
def namedValues? (depth : Nat) : List (List Piece × Tree) → Option (List (String × Value))
  | [] => some []
  | (name, first) :: rest => do
      let name ← pieceText? name
      let value ← value? depth first
      let values ← namedValues? depth rest
      return (name, value) :: values

end

/-- The number of nested arrays and objects that a free value may have. -/
def maxDepth : Nat :=
  127

end Tree

/-- The value of a text. -/
def Value.read? (cs : List Char) : Option Value := do
  (← Tree.read? cs).value? Tree.maxDepth

end TerminalGateway.Json
