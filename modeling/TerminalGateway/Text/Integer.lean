import TerminalGateway.Number.Range

/-!
# Whole numbers in text

Ids, flags and counts that arrive as text are runs of ASCII digits with an optional sign.
No blanks, separators or other digits are allowed, and a number outside its range is refused
instead of being cut.

Main definitions:

- `digit?`: the value of an ASCII digit.
- `natOfDigits?`: a non-empty run of digits.
- `readNat?`, `readInt?`: signed forms within a range.
-/

namespace TerminalGateway.Text

open TerminalGateway.Number (limit64 signedLimit64)

/-- The value of an ASCII digit. -/
def digit? (c : Char) : Option Nat :=
  if '0'.toNat ≤ c.toNat ∧ c.toNat ≤ '9'.toNat then some (c.toNat - '0'.toNat) else none

/-- An ASCII digit. -/
def isDigit (c : Char) : Bool :=
  (digit? c).isSome

/-- The number that a run of digits continues, read from its most significant end. -/
def extendNat (value : Nat) : List Char → Option Nat
  | [] => some value
  | c :: rest =>
      match digit? c with
      | some d => extendNat (value * 10 + d) rest
      | none => none

/-- The number written by a non-empty run of ASCII digits. -/
def natOfDigits? : List Char → Option Nat
  | [] => none
  | cs => extendNat 0 cs

/-- A number below `limit`: digits with an optional plus sign. -/
def readNat? (limit : Nat) (cs : List Char) : Option Nat :=
  let digits := match cs with
    | '+' :: rest => rest
    | _ => cs
  (natOfDigits? digits).filter (· < limit)

/-- A number of at least `-limit` and below `limit`: digits with an optional sign. -/
def readInt? (limit : Nat) (cs : List Char) : Option Int :=
  match cs with
  | '-' :: rest => ((natOfDigits? rest).filter (· ≤ limit)).map fun n => -(n : Int)
  | '+' :: rest => ((natOfDigits? rest).filter (· < limit)).map fun n => (n : Int)
  | _ => ((natOfDigits? cs).filter (· < limit)).map fun n => (n : Int)

/-- The decimal digits of a number, padded on the left with zeros to `width`. -/
def padded (width n : Nat) : String :=
  let digits := Nat.repr n
  String.ofList (List.replicate (width - digits.length) '0') ++ digits

example : readNat? limit64 "+007".toList = some 7 := by decide
example : readNat? limit64 "+".toList = none := by decide
example : readInt? signedLimit64 "-0".toList = some 0 := by decide
example : readInt? signedLimit64 "1_0".toList = none := by decide

end TerminalGateway.Text
