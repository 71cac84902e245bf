import Idempotency.Decimal.Shortest
import Idempotency.SortedMap
import Idempotency.Text.Quoted
import Idempotency.Text.Utf8

/-!
# `Idempotency.Json.Basic`: JSON values and what can be wrong with a text

A number is an integer of the signed or unsigned sixty-four bit range, or a
finite double. The members of an object are a list of pairs; `Json.normalize` puts
them in key order at every level, which is the form in which values are
written and compared.

`Json.Error` lists the causes for which a text is refused, and
`Json.Error.message` gives each its wording.
-/

set_option autoImplicit false

namespace Idempotency

namespace Json

/-- A number as a text spells it: whole, or in floating point. No text spells
an infinity or what is no number. -/
inductive Number
  | integer (i : Int)
  | double (x : Double) (finite : x.isFinite = true)
  deriving DecidableEq, Inhabited

/-- The number of a double, if it is finite. -/
def Number.ofDouble? (x : Double) : Option Number :=
  if finite : x.isFinite = true then some (.double x finite) else none

/-- Doubles of magnitude from `10 ^ -5` up to, not including, `10 ^ 16` are
written without an exponent; an exponent has a sign. -/
def doubleLayout : Decimal.Layout := ⟨-5, 15⟩

/-- The text of a number. -/
def Number.text : Number → List Char
  | .integer i => Decimal.integer i
  | .double x _ => doubleLayout.text x

end Json

/-- A JSON value. -/
inductive Json
  | null
  | bool (b : Bool)
  | number (n : Json.Number)
  | string (s : String)
  | array (items : List Json)
  | object (members : List (String × Json))
  deriving Inhabited

namespace Json

mutual

/-- The value with the members of every object in key order; of two members
with one name the later one stays. -/
def normalize : Json → Json
  | .array items => .array (normalizeItems items)
  | .object members => .object (SortedMap.ofList (normalizeMembers members)).entries
  | .null => .null
  | .bool b => .bool b
  | .number n => .number n
  | .string s => .string s

/-- `normalize` on the items of a list. -/
def normalizeItems : List Json → List Json
  | [] => []
  | item :: items => item.normalize :: normalizeItems items

/-- `normalize` on the values of members. -/
def normalizeMembers : List (String × Json) → List (String × Json)
  | [] => []
  | (name, value) :: members => (name, value.normalize) :: normalizeMembers members

end

/-- What a reader finds where it looks for something else. Lists and objects
are known by their opening bracket. -/
inductive Found
  | null
  | bool (b : Bool)
  | number (n : Number)
  | string (s : String)
  | sequence
  | map
  deriving DecidableEq, Inhabited

/-- What was found, in words. -/
def Found.text : Found → String
  | .null => "null"
  | .bool true => "boolean `true`"
  | .bool false => "boolean `false`"
  | .number (.integer i) => "integer `" ++ String.ofList (Decimal.integer i) ++ "`"
  | .number (.double x _) => "floating point `" ++ String.ofList (doubleLayout.text x) ++ "`"
  | .string s => "string " ++ Text.quoted s
  | .sequence => "sequence"
  | .map => "map"

/-- Why a text is refused. -/
inductive Error
  /-- The text ends where a value should start or go on. -/
  | endInValue
  /-- The text ends inside a list. -/
  | endInList
  /-- The text ends inside an object. -/
  | endInObject
  /-- The text ends inside a string. -/
  | endInString
  /-- No value starts like this. -/
  | expectedValue
  /-- A word that starts like `true`, `false` or `null` goes on otherwise. -/
  | expectedWord
  | expectedColon
  | expectedCommaOrBracket
  | expectedCommaOrBrace
  /-- A comma with nothing after it before the closing bracket. -/
  | trailingComma
  /-- Something follows the value. -/
  | trailingCharacters
  | keyNotString
  | invalidNumber
  /-- The number is beyond the largest double. -/
  | numberOutOfRange
  | invalidEscape
  /-- An escaped half of a surrogate pair is not followed by its other half. -/
  | loneSurrogate
  /-- An escaped first half of a surrogate pair is not followed by an escape. -/
  | endOfEscape
  /-- A control character stands unescaped in a string. -/
  | controlCharacter
  /-- A string holds bytes that are no character. -/
  | invalidCodePoint
  /-- Lists and objects are nested too deeply. -/
  | recursionLimit
  /-- A value of another kind is wanted here. -/
  | wrongType (found : Found) (expected : String)
  /-- The integer does not fit the kind of integer wanted here. -/
  | wrongValue (found : Int) (expected : String)
  /-- A list has fewer elements than the structure it stands for. -/
  | tooShort (length : Nat) (expected : String)
  | missingField (name : String)
  | duplicateField (name : String)
  /-- The structure has no such field. -/
  | unknownField (name : String) (known : List String)
  /-- The string is not of the form that is wanted here. -/
  | malformed (reason : String)
  deriving DecidableEq

private def ticked (name : String) : String := "`" ++ name ++ "`"

/-- The wording of a refusal. -/
def Error.message : Error → String
  | .endInValue => "EOF while parsing a value"
  | .endInList => "EOF while parsing a list"
  | .endInObject => "EOF while parsing an object"
  | .endInString => "EOF while parsing a string"
  | .expectedValue => "expected value"
  | .expectedWord => "expected ident"
  | .expectedColon => "expected `:`"
  | .expectedCommaOrBracket => "expected `,` or `]`"
  | .expectedCommaOrBrace => "expected `,` or `\x7d`"
  | .trailingComma => "trailing comma"
  | .trailingCharacters => "trailing characters"
  | .keyNotString => "key must be a string"
  | .invalidNumber => "invalid number"
  | .numberOutOfRange => "number out of range"
  | .invalidEscape => "invalid escape"
  | .loneSurrogate => "lone leading surrogate in hex escape"
  | .endOfEscape => "unexpected end of hex escape"
  | .controlCharacter => "control character (\\u0000-\\u001F) found while parsing a string"
  | .invalidCodePoint => "invalid unicode code point"
  | .recursionLimit => "recursion limit exceeded"
  | .wrongType found expected => "invalid type: " ++ found.text ++ ", expected " ++ expected
  | .wrongValue found expected =>
    "invalid value: " ++ (Found.number (.integer found)).text ++ ", expected " ++ expected
  | .tooShort length expected =>
    "invalid length " ++ String.ofList (Decimal.decimal length) ++ ", expected " ++ expected
  | .missingField name => "missing field " ++ ticked name
  | .duplicateField name => "duplicate field " ++ ticked name
  | .unknownField name known =>
    "unknown field " ++ ticked name ++ ", expected one of "
      ++ String.intercalate ", " (known.map ticked)
  | .malformed reason => reason

/-- A reader takes a value off the front of a text: the value and what
follows, or the first thing that is wrong. -/
abbrev Reader (α : Type) := List Text.Symbol → Except Error (α × List Text.Symbol)

end Json

end Idempotency
