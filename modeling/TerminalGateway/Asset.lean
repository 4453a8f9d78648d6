/-!
# Assets

An asset is a tradable instrument, named by its class code and its security code, or the
wildcard that stands for all of them.  It has three written forms: the pair of codes with a slash,
the terminal's ticker, and for the wildcard a pair of stars.

Main definitions:

- `Asset`: an instrument or the wildcard.
- `Asset.ofCodes`: the instrument with two non-empty codes.
- `Asset.parse`, `Asset.text`: the form with a slash.
- `Asset.ofTicker?`, `Asset.ticker?`: the terminal's form.
-/

namespace TerminalGateway

/-- A tradable instrument, or the wildcard for all of them. -/
inductive Asset where
  | any
  | instrument (classCode secCode : String)
deriving Repr, DecidableEq, Inhabited

/-- Why a text or a pair of codes names no asset. -/
inductive AssetError where
  | emptyClassCode
  | emptySecCode
  | invalid (text : String)
deriving Repr, DecidableEq

/-- The wording of an error. -/
def AssetError.message : AssetError → String
  | .emptyClassCode => "Class code must not be empty"
  | .emptySecCode => "Security code must not be empty"
  | .invalid text => s!"Invalid asset key: {text}"

namespace Asset

/-- The instrument with the given codes, neither of which may be empty. -/
def ofCodes (classCode secCode : String) : Except AssetError Asset :=
  if classCode = "" then .error .emptyClassCode
  else if secCode = "" then .error .emptySecCode
  else .ok (.instrument classCode secCode)

/-- The wildcard. -/
def isAny : Asset → Bool
  | any => true
  | instrument _ _ => false

/-- The class and security codes of an instrument. -/
def codes? : Asset → Option (String × String)
  | any => none
  | instrument classCode secCode => some (classCode, secCode)

/-! ## The form with a slash -/

/-- The code that stands for every instrument. -/
def wildcard : String :=
  "*"

/-- The parts of a text before and after the first occurrence of a character. -/
def splitFirst? (separator : Char) (cs : List Char) : Option (List Char × List Char) :=
  match cs.dropWhile (· ≠ separator) with
  | [] => none
  | _ :: after => some (cs.takeWhile (· ≠ separator), after)

/-- The asset written by a class code, a slash and a security code.  Two stars are the
wildcard; a single one is refused. -/
def parse (text : String) : Except AssetError Asset :=
  match splitFirst? '/' text.toList with
  | none => .error (.invalid text)
  | some (before, after) =>
      let classCode := String.ofList before
      let secCode := String.ofList after
      if classCode = wildcard ∧ secCode = wildcard then .ok .any
      else if classCode = wildcard ∨ secCode = wildcard then .error (.invalid text)
      else ofCodes classCode secCode

/-- The codes with a slash between them. -/
def text : Asset → String
  | any => wildcard ++ "/" ++ wildcard
  | instrument classCode secCode => classCode ++ "/" ++ secCode

/-! ## The terminal's form -/

/-- The broken bar between the parts of a ticker. -/
def tickerSeparator : Char :=
  '\u00A6'

/-- The parts of a text between the occurrences of a character. -/
def splitAll (separator : Char) : List Char → List (List Char)
  | [] => [[]]
  | c :: rest =>
      if c = separator then [] :: splitAll separator rest
      else
        match splitAll separator rest with
        | [] => [[c]]
        | part :: parts => (c :: part) :: parts

/-- The instrument named by the first two parts of a ticker.  Later parts, such as the interval
of a candle, do not matter. -/
def ofTicker? (ticker : String) : Option Asset :=
  match splitAll tickerSeparator ticker.toList with
  | classCode :: secCode :: _ =>
      (ofCodes (String.ofList classCode) (String.ofList secCode)).toOption
  | _ => none

/-- The ticker of an instrument. -/
def ticker? : Asset → Option String
  | any => none
  | instrument classCode secCode => some (classCode ++ tickerSeparator.toString ++ secCode)

/-- A pair of codes is read back from its ticker, with or without an interval behind it. -/
example : ofTicker? "QJSIM¦SBER¦0" = some (.instrument "QJSIM" "SBER") := by decide +kernel

/-- A ticker needs both codes. -/
example : ofTicker? "QJSIM¦" = none := by decide +kernel

end Asset

end TerminalGateway
