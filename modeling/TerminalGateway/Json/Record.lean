import TerminalGateway.Json.Tree

/-!
# Records in JSON

A record is read from an object that names its fields or from an array that lists them in
order.  An object may hold members that the record does not know; they are passed over.  A
field may not be named twice, and an array may not be longer than the record.

Main definitions:

- `Record`: the fields of a tree, ready to be read by name.
- `Record.required`, `Record.optional`, `Record.defaulted`: the three kinds of field.
- `Tree.variant?`: the form of a choice between named alternatives.
- `Tree.text?`, `Tree.int?`, `Tree.nat?`: the simplest field contents.
-/

namespace TerminalGateway.Json

/-! ## Simple contents -/

namespace Tree

/-- A string. -/
def text? : Tree → Option String
  | string pieces => pieceText? pieces
  | _ => none

/-- The number of a numeral. -/
def number? : Tree → Option Number
  | number numeral => numeral.number?
  | _ => none

/-- A whole number of at least `low` and below `high`, spelled as one. -/
def int? (low high : Int) (tree : Tree) : Option Int :=
  match tree.number? with
  | some (.whole value) => if low ≤ value ∧ value < high then some value else none
  | _ => none

/-- A whole number below `limit`, spelled as one. -/
def nat? (limit : Nat) (tree : Tree) : Option Nat :=
  (tree.int? 0 limit).map Int.toNat

/-- Something or null. -/
def nullable? {α : Type} (read : Tree → Option α) : Tree → Option (Option α)
  | null => some none
  | tree => (read tree).map some

/-- The items of an array, each read alike. -/
def list? {α : Type} (read : Tree → Option α) : Tree → Option (List α)
  | array items => items.mapM read
  | _ => none

/-- A choice between named alternatives: a name, or an object whose only member gives the name
and the content. -/
def variant? : Tree → Option (String × Option Tree)
  | string pieces => (pieceText? pieces).map fun name => (name, none)
  | object [(name, content)] => (pieceText? name).map fun name => (name, some content)
  | _ => none

/-- A choice between alternatives without content; in an object the content is null. -/
def unitVariant? (tree : Tree) : Option String :=
  match tree.variant? with
  | some (name, none) => some name
  | some (name, some null) => some name
  | _ => none

end Tree

/-! ## Fields -/

/-- The fields of a record in order, each with its content if there is one. -/
structure Record where
  /-- The fields were listed in an array and not named in an object. -/
  listed : Bool
  fields : List (String × Option Tree)

namespace Record

/-- The members of an object under their names. -/
def namedMembers? (members : List (List Piece × Tree)) : Option (List (String × Tree)) :=
  members.mapM fun member => (pieceText? member.1).map fun name => (name, member.2)

/-- The record with the given fields, as far as their names are concerned. -/
def ofTree? (names : List String) : Tree → Option Record
  | .object members => do
      let members ← namedMembers? members
      let known := (members.map Prod.fst).filter names.contains
      if known.length ≠ known.eraseDups.length then none
      return ⟨false, names.map fun name => (name, members.lookup name)⟩
  | .array items =>
      if names.length < items.length then none
      else
        some ⟨true, names.zip (items.map some ++ List.replicate (names.length - items.length) none)⟩
  | _ => none

/-- The content of a field. -/
def field? (record : Record) (name : String) : Option Tree :=
  (record.fields.lookup name).join

/-- A field that must be there. -/
def required {α : Type} (record : Record) (name : String) (read : Tree → Option α) : Option α :=
  record.field? name >>= read

/-- A field that may be null, and that an object may leave out. -/
def optional {α : Type} (record : Record) (name : String) (read : Tree → Option α) :
    Option (Option α) :=
  match record.field? name with
  | some tree => tree.nullable? read
  | none => if record.listed then none else some none

/-- A field with a default, which an object may leave out and an array may stop before. -/
def defaulted {α : Type} (record : Record) (name : String) (default : α)
    (read : Tree → Option α) : Option α :=
  match record.field? name with
  | some tree => read tree
  | none => some default

end Record

end TerminalGateway.Json
