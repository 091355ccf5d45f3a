import DeviceFilter.Json.Number
import DeviceFilter.Text.Quoted

/-!
Why a JSON text could not be read: it ended too early, it is no JSON, or it is JSON of the wrong
shape. Reading stops at the first such place in text order.
-/
set_option autoImplicit false

namespace DeviceFilter.Json

/-- What the text ended inside of. -/
inductive Unfinished where
  | list
  | object
  | string
  | value
deriving DecidableEq, Repr

/-- Departures from the grammar. -/
inductive Malformed where
  | expectedColon
  | expectedListCommaOrEnd
  | expectedObjectCommaOrEnd
  | expectedLiteral
  | expectedValue
  | invalidEscape
  | invalidNumber
  | numberOutOfRange
  | controlCharacter
  | keyMustBeString
  | loneSurrogate
  | trailingComma
  | trailingCharacters
  | unexpectedEndOfEscape
  | nestingTooDeep
deriving DecidableEq, Repr

/-- A value as a message names it. -/
inductive Found where
  | null
  | boolean (b : Bool)
  | number (n : Number)
  | string (s : String)
  | list
  | object

/-- Well-formed JSON that is not what was asked for. -/
inductive Mismatch where
  | wrongType (found : Found) (expected : String)
  | integerOutOfRange (n : Int) (expected : String)
  | tooShort (length : Nat) (expected : String)
  | missingField (name : String)
  | duplicateField (name : String)
  | unknownVariant (name : String) (variants : List String)

inductive Error where
  | unfinished (what : Unfinished)
  | malformed (what : Malformed)
  | mismatch (what : Mismatch)

def Unfinished.message : Unfinished → String
  | list => "EOF while parsing a list"
  | object => "EOF while parsing an object"
  | string => "EOF while parsing a string"
  | value => "EOF while parsing a value"

def Malformed.message : Malformed → String
  | expectedColon => "expected `:`"
  | expectedListCommaOrEnd => "expected `,` or `]`"
  | expectedObjectCommaOrEnd => "expected `,` or `\x7d`"
  | expectedLiteral => "expected ident"
  | expectedValue => "expected value"
  | invalidEscape => "invalid escape"
  | invalidNumber => "invalid number"
  | numberOutOfRange => "number out of range"
  | controlCharacter => "control character (\\u0000-\\u001F) found while parsing a string"
  | keyMustBeString => "key must be a string"
  | loneSurrogate => "lone leading surrogate in hex escape"
  | trailingComma => "trailing comma"
  | trailingCharacters => "trailing characters"
  | unexpectedEndOfEscape => "unexpected end of hex escape"
  | nestingTooDeep => "recursion limit exceeded"

def Found.text : Found → String
  | null => "null"
  | boolean true => "boolean `true`"
  | boolean false => "boolean `false`"
  | number (.integer n) => "integer `" ++ toString n ++ "`"
  | number (.float x) => "floating point `" ++ floatText x ++ "`"
  | string s => "string " ++ Text.quoted s
  | list => "sequence"
  | object => "map"

/-- The allowed names as a message lists them. -/
def variantList : List String → String
  | [] => "there are no variants"
  | [a] => "expected `" ++ a ++ "`"
  | [a, b] => "expected `" ++ a ++ "` or `" ++ b ++ "`"
  | names => "expected one of " ++ ", ".intercalate (names.map fun n => "`" ++ n ++ "`")

def Mismatch.message : Mismatch → String
  | wrongType found expected => "invalid type: " ++ found.text ++ ", expected " ++ expected
  | integerOutOfRange n expected =>
    "invalid value: integer `" ++ toString n ++ "`, expected " ++ expected
  | tooShort length expected => "invalid length " ++ toString length ++ ", expected " ++ expected
  | missingField name => "missing field `" ++ name ++ "`"
  | duplicateField name => "duplicate field `" ++ name ++ "`"
  | unknownVariant name variants => "unknown variant `" ++ name ++ "`, " ++ variantList variants

def Error.message : Error → String
  | unfinished what => what.message
  | malformed what => what.message
  | mismatch what => what.message

end DeviceFilter.Json
