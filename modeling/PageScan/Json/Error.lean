import PageScan.Json.Value
import PageScan.Decimal.Layout
import PageScan.Text.Quoted

/-!
# What can be wrong with a document

A document can break off, break the grammar, or hold something other than what is wanted. Each
cause is a constructor; `Error.message` has the wording.
-/

namespace PageScan.Json

/-- Numbers have a point or an exponent, are written positionally from `0.00001` to below `10^16`,
and otherwise with a signed exponent. -/
def numberLayout : Decimal.Layout where
  isPlain e := -5 ≤ e && e < 16
  pointZero := true
  plusSign := true
  tie := .toEven
  nan := "null"
  infinity := "null"

/-- The text of a number. -/
def Number.text : Number → String
  | .int i => toString i
  | .float x => numberLayout.float64 x

/-- How a document breaks off or breaks the grammar. -/
inductive Fault
  | endInValue
  | endInList
  | endInObject
  | endInString
  | expectedValue
  | expectedWord
  | expectedColon
  | expectedCommaInList
  | expectedCommaInObject
  | trailingComma
  | trailingCharacters
  | keyMustBeString
  | invalidNumber
  | numberOutOfRange
  | invalidEscape
  | controlCharacter
  | loneSurrogate
  | endOfHexEscape
  | tooDeep
  deriving DecidableEq, Repr

/-- The document ended too early. -/
def Fault.isEnd : Fault → Bool
  | .endInValue | .endInList | .endInObject | .endInString => true
  | _ => false

/-- The wording of a fault. -/
def Fault.message : Fault → String
  | .endInValue => "EOF while parsing a value"
  | .endInList => "EOF while parsing a list"
  | .endInObject => "EOF while parsing an object"
  | .endInString => "EOF while parsing a string"
  | .expectedValue => "expected value"
  | .expectedWord => "expected ident"
  | .expectedColon => "expected `:`"
  | .expectedCommaInList => "expected `,` or `]`"
  | .expectedCommaInObject => "expected `,` or `\x7d`"
  | .trailingComma => "trailing comma"
  | .trailingCharacters => "trailing characters"
  | .keyMustBeString => "key must be a string"
  | .invalidNumber => "invalid number"
  | .numberOutOfRange => "number out of range"
  | .invalidEscape => "invalid escape"
  | .controlCharacter => "control character (\\u0000-\\u001F) found while parsing a string"
  | .loneSurrogate => "lone leading surrogate in hex escape"
  | .endOfHexEscape => "unexpected end of hex escape"
  | .tooDeep => "recursion limit exceeded"

/-- What stands where something else was wanted. -/
inductive Found
  | null
  | bool (b : Bool)
  | number (n : Number)
  | string (s : String)
  | sequence
  | map
  | unitVariant
  | newtypeVariant

/-- How a message speaks of it. -/
def Found.text : Found → String
  | .null => "null"
  | .bool b => "boolean `" ++ (if b then "true" else "false") ++ "`"
  | .number (.int i) => "integer `" ++ toString i ++ "`"
  | .number (.float x) => "floating point `" ++ numberLayout.float64 x ++ "`"
  | .string s => "string " ++ Text.quoted s
  | .sequence => "sequence"
  | .map => "map"
  | .unitVariant => "unit variant"
  | .newtypeVariant => "newtype variant"

/-- How a well-formed document fails to be what is wanted. -/
inductive Mismatch
  | invalidType (found : Found) (expected : String)
  | invalidValue (found : Found) (expected : String)
  | invalidLength (length : Nat) (expected : String)
  | unknownVariant (name : String) (known : List String)
  | missingField (name : String)
  | duplicateField (name : String)
  | other (text : String)

/-- Names as a message lists them. -/
def oneOf : List String → String
  | [] => "there are no variants"
  | [a] => "expected `" ++ a ++ "`"
  | [a, b] => "expected `" ++ a ++ "` or `" ++ b ++ "`"
  | names => "expected one of " ++ ", ".intercalate (names.map fun n => "`" ++ n ++ "`")

/-- The wording of a mismatch. -/
def Mismatch.message : Mismatch → String
  | .invalidType found expected => "invalid type: " ++ found.text ++ ", expected " ++ expected
  | .invalidValue found expected => "invalid value: " ++ found.text ++ ", expected " ++ expected
  | .invalidLength length expected =>
    "invalid length " ++ toString length ++ ", expected " ++ expected
  | .unknownVariant name known => "unknown variant `" ++ name ++ "`, " ++ oneOf known
  | .missingField name => "missing field `" ++ name ++ "`"
  | .duplicateField name => "duplicate field `" ++ name ++ "`"
  | .other text => text

/-- Why a document is not what is wanted. -/
inductive Error
  | fault (f : Fault)
  | mismatch (m : Mismatch)

/-- The three classes of errors. -/
inductive ErrorClass
  | syntactic
  | data
  | ended
  deriving DecidableEq

namespace Error

/-- The class of an error. -/
def errorClass : Error → ErrorClass
  | .fault f => if f.isEnd then .ended else .syntactic
  | .mismatch _ => .data

/-- The wording of an error. -/
def message : Error → String
  | .fault f => f.message
  | .mismatch m => m.message

/-- An error in the words of the type that was being read. -/
def custom (text : String) : Error :=
  .mismatch (.other text)

end Error

end PageScan.Json
