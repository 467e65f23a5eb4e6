import SchemaFold.Text.Decimal
import SchemaFold.Text.Quoted
/-!
What can be wrong with a JSON text, or with what it says.

* `Found`: a value that stands where another kind of value is expected;
* `Cause`: the causes, with their wording in `Cause.message`;
* `Fault`: a cause with the text left where it was found; `Failure` is a fault by line and column.

A fault is open as long as the value it belongs to has not been closed. It is then settled at the
place that closing the value reaches.
-/

namespace SchemaFold.Json

/-- The values of numbers: whole ones that fit 64 bits, and all others by significand and exponent.
-/
inductive Number
  | natural (n : Nat)
  | negative (n : Nat)
  | floating (isNegative : Bool) (significand : Nat) (exponent : Int)
  deriving DecidableEq, Repr

namespace Number

/-- Scales by a power of ten, in steps that a floating point number can hold. None if the result is
too large. -/
def scaled : (steps : Nat) → Float → Int → Option Float
  | 0, x, _ => some x
  | steps + 1, x, e =>
    if e.natAbs ≤ 308 then
      let power := Float.ofScientific 1 false e.natAbs
      if 0 ≤ e then
        if (x * power).isInf then none else some (x * power)
      else some (x / power)
    else if x == 0.0 then some x
    else if 0 ≤ e then none
    else scaled steps (x / Float.ofScientific 1 false 308) (e + 308)

/-- The floating point number of a significand and an exponent. -/
def toFloat? (significand : Nat) (exponent : Int) : Option Float :=
  scaled 8 significand.toUInt64.toFloat exponent

/-- The text of a number that is not whole. -/
def floatText (isNegative : Bool) (significand : Nat) (exponent : Int) : String :=
  let x := (toFloat? significand exponent).getD 0.0
  Text.Decimal.ofFloat (if isNegative then -x else x)

end Number

/-- A value that is not of the kind expected. -/
inductive Found
  | null
  | boolean (value : Bool)
  | number (value : Number)
  | string (value : String)
  | sequence
  | map
  deriving DecidableEq, Repr

/-- How a found value is named. -/
def Found.text : Found → String
  | .null => "null"
  | .boolean value => "boolean `" ++ toString value ++ "`"
  | .number (.natural n) => "integer `" ++ toString n ++ "`"
  | .number (.negative n) => "integer `-" ++ toString n ++ "`"
  | .number (.floating isNegative significand exponent) =>
    "floating point `" ++ Number.floatText isNegative significand exponent ++ "`"
  | .string value => "string " ++ Text.quote value
  | .sequence => "sequence"
  | .map => "map"

/-- Why a text is not JSON, or does not say what is expected. -/
inductive Cause
  | endInValue
  | endInObject
  | endInList
  | endInString
  | expectedValue
  | keyNotString
  | expectedColon
  | expectedObjectNext
  | expectedListNext
  | trailingComma
  | trailingCharacters
  | invalidNumber
  | numberOutOfRange
  | recursionLimit
  | expectedIdent
  | invalidEscape
  | endOfHexEscape
  | loneSurrogate
  | controlCharacter
  | invalidType (found : Found) (expected : String)
  | invalidValue (found : Found) (expected : String)
  | unknownField (name : String) (known : List String)
  | duplicateField (name : String)
  | missingField (name : String)
  | unknownVariant (name first second : String)
  | invalidLength (length : Nat) (expected : String)
  | noVariant
  deriving DecidableEq, Repr

/-- Names between back quotes, with commas. -/
def backQuoted (names : List String) : String :=
  String.intercalate ", " (names.map (fun name => "`" ++ name ++ "`"))

/-- The wording of a cause. -/
def Cause.message : Cause → String
  | .endInValue => "EOF while parsing a value"
  | .endInObject => "EOF while parsing an object"
  | .endInList => "EOF while parsing a list"
  | .endInString => "EOF while parsing a string"
  | .expectedValue => "expected value"
  | .keyNotString => "key must be a string"
  | .expectedColon => "expected `:`"
  | .expectedObjectNext => "expected `,` or `\x7d`"
  | .expectedListNext => "expected `,` or `]`"
  | .trailingComma => "trailing comma"
  | .trailingCharacters => "trailing characters"
  | .invalidNumber => "invalid number"
  | .numberOutOfRange => "number out of range"
  | .recursionLimit => "recursion limit exceeded"
  | .expectedIdent => "expected ident"
  | .invalidEscape => "invalid escape"
  | .endOfHexEscape => "unexpected end of hex escape"
  | .loneSurrogate => "lone leading surrogate in hex escape"
  | .controlCharacter => "control character (\\u0000-\\u001F) found while parsing a string"
  | .invalidType found expected => "invalid type: " ++ found.text ++ ", expected " ++ expected
  | .invalidValue found expected => "invalid value: " ++ found.text ++ ", expected " ++ expected
  | .unknownField name known =>
    "unknown field `" ++ name ++ "`, expected one of " ++ backQuoted known
  | .duplicateField name => "duplicate field `" ++ name ++ "`"
  | .missingField name => "missing field `" ++ name ++ "`"
  | .unknownVariant name first second =>
    "unknown variant `" ++ name ++ "`, expected `" ++ first ++ "` or `" ++ second ++ "`"
  | .invalidLength length expected =>
    "invalid length " ++ toString length ++ ", expected " ++ expected
  | .noVariant => "data did not match any variant of untagged enum Value"

/-- A cause, the text left when it was found, and how many octets of that text it takes in. -/
structure Fault where
  cause : Cause
  left : List Char
  beyond : Nat
  isOpen : Bool
  deriving Repr

/-- A cause by the line and column of the last octet that had been read. -/
structure Failure where
  cause : Cause
  line : Nat
  column : Nat
  deriving DecidableEq, Repr

/-- The wording of a failure. -/
def Failure.message (f : Failure) : String :=
  f.cause.message ++ " at line " ++ toString f.line ++ " column " ++ toString f.column

/-- The number of octets of a text. -/
def octets : List Char → Nat
  | [] => 0
  | c :: cs => c.utf8Size + octets cs

/-- The line and column after `n` octets, counted on from a line and column. -/
def locate : (n line column : Nat) → List Char → Nat × Nat
  | _, line, column, [] => (line, column)
  | n, line, column, c :: cs =>
    if n = 0 then (line, column)
    else if n < c.utf8Size then (line, column + n)
    else if c = '\n' then locate (n - 1) (line + 1) 0 cs
    else locate (n - c.utf8Size) line (column + c.utf8Size) cs

/-- A fault by its place in the whole text. -/
def Fault.failure (text : List Char) (f : Fault) : Failure :=
  let (line, column) := locate (octets text - octets f.left + f.beyond) 1 0 text
  ⟨f.cause, line, column⟩

end SchemaFold.Json
