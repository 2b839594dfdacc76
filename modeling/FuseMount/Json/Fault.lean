import FuseMount.Json.Basic

/-!
# Faults of JSON documents

Why a document is not what is read from it: it ends too early, it is not JSON, or it is JSON of
another shape than is asked for.
-/

namespace FuseMount.Json

/-- In what a document ends too early. -/
inductive Unfinished where
  | list
  | object
  | string
  | value
  deriving DecidableEq, Repr

/-- The wording for a document that ends too early. -/
def Unfinished.message : Unfinished → String
  | .list => "EOF while parsing a list"
  | .object => "EOF while parsing an object"
  | .string => "EOF while parsing a string"
  | .value => "EOF while parsing a value"

/-- Why a document is not JSON. -/
inductive Malformed where
  | expectedColon
  | expectedListEnd
  | expectedObjectEnd
  | expectedIdent
  | expectedValue
  | badEscape
  | badNumber
  | numberOutOfRange
  | controlInString
  | keyNotString
  | loneSurrogate
  | unpairedSurrogate
  | trailingComma
  | trailingCharacters
  deriving DecidableEq, Repr

/-- The wording for a document that is not JSON. -/
def Malformed.message : Malformed → String
  | .expectedColon => "expected `:`"
  | .expectedListEnd => "expected `,` or `]`"
  | .expectedObjectEnd => "expected `,` or `\x7d`"
  | .expectedIdent => "expected ident"
  | .expectedValue => "expected value"
  | .badEscape => "invalid escape"
  | .badNumber => "invalid number"
  | .numberOutOfRange => "number out of range"
  | .controlInString => "control character (\\u0000-\\u001F) found while parsing a string"
  | .keyNotString => "key must be a string"
  | .loneSurrogate => "lone leading surrogate in hex escape"
  | .unpairedSurrogate => "unexpected end of hex escape"
  | .trailingComma => "trailing comma"
  | .trailingCharacters => "trailing characters"

/-- What stands in a document where something else is asked for. -/
inductive Found where
  | null
  | bool (b : Bool)
  | number (n : Number)
  | string (s : String)
  | array
  | object

/-- The wording for what stands in a document. -/
def Found.message : Found → String
  | .null => "null"
  | .bool b => "boolean `" ++ (if b then "true" else "false") ++ "`"
  | .number (.integer i) => "integer `" ++ i.repr ++ "`"
  | .number (.real x) => "floating point `" ++ Decimal.render x ++ "`"
  | .string s => "string " ++ Text.quote s
  | .array => "sequence"
  | .object => "map"

/-- What kind of value a value is. -/
def found : Json → Found
  | null => .null
  | bool b => .bool b
  | number n => .number n
  | string s => .string s
  | array _ => .array
  | object _ => .object

/-- How a well-formed document is not of the shape that is asked for. -/
inductive Mismatch where
  /-- A value is of another type. -/
  | wrongType (found : Found) (expected : String)
  /-- A name is not one of the known ones. -/
  | unknownVariant (name : String) (known : List String)
  /-- A member is there twice. -/
  | duplicateField (name : String)
  /-- An array has more items than there are fields. -/
  | tooManyItems (length : Nat)
  /-- An object that stands for a name has not exactly one member. -/
  | notOneMember

/-- A name as messages show it. -/
def ticked (name : String) : String := "`" ++ name ++ "`"

/-- The wording for what a name could have been. -/
def oneOf : List String → String
  | [] => "there are no variants"
  | [a] => "expected " ++ ticked a
  | [a, b] => "expected " ++ ticked a ++ " or " ++ ticked b
  | names => "expected one of " ++ String.intercalate ", " (names.map ticked)

/-- The wording for a wrong shape. -/
def Mismatch.message : Mismatch → String
  | .wrongType found expected => "invalid type: " ++ found.message ++ ", expected " ++ expected
  | .unknownVariant name known => "unknown variant " ++ ticked name ++ ", " ++ oneOf known
  | .duplicateField name => "duplicate field " ++ ticked name
  | .tooManyItems length =>
    "invalid length " ++ length.repr ++ ", expected fewer elements in array"
  | .notOneMember => "invalid value: map, expected map with a single key"

/-- Why a document cannot be read. -/
inductive Fault where
  | unfinished (u : Unfinished)
  | malformed (m : Malformed)
  | mismatch (m : Mismatch)

/-- The wording for a fault. The place in the text, ` at line L column C`, which is said after it, is
left out. -/
def Fault.message : Fault → String
  | .unfinished u => u.message
  | .malformed m => m.message
  | .mismatch m => m.message

end FuseMount.Json
