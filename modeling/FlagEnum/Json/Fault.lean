import FlagEnum.Text.Place

/-!
# What can be wrong with a JSON text

The causes for which reading a declaration fails, their messages, and the three
classes that they fall into: the text ends too early, it is no JSON, or it is
JSON of another shape. A fault is reported with its place in the text.
-/

namespace FlagEnum.Json

/-- A value that stands where another type of value is expected. -/
inductive Found where
  | null
  | boolean (value : Bool)
  | integer (value : Int)
  /-- A number with a point or an exponent, or too large an integer, in the
  text that shows it. -/
  | decimal (shown : String)
  /-- A string, in the quoted form that shows it. -/
  | text (shown : String)
  | array
  | object
deriving DecidableEq, Repr

/-- How a message names a value of the wrong type. -/
def Found.message : Found → String
  | null => "null"
  | boolean true => "boolean `true`"
  | boolean false => "boolean `false`"
  | integer value => "integer `" ++ toString value ++ "`"
  | decimal shown => "floating point `" ++ shown ++ "`"
  | text shown => "string " ++ shown
  | array => "sequence"
  | object => "map"

/-- Why a text cannot be read. -/
inductive Fault where
  | missingField (name : String)
  | duplicateField (name : String)
  | wrongType (found : Found) (expected : String)
  /-- A record written as an array has no elements. -/
  | emptyRecord (expected : String)
  | endInValue
  | endInObject
  | endInList
  | endInText
  | expectedValue
  | expectedWord
  | expectedCommaOrBrace
  | expectedCommaOrBracket
  | expectedColon
  | trailingComma
  | trailingCharacters
  | keyNotText
  | invalidNumber
  | numberOutOfRange
  | invalidEscape
  | controlCharacter
  | unfinishedSurrogate
  | loneSurrogate
deriving DecidableEq, Repr

/-- The class of a fault. -/
inductive FaultClass where
  /-- Well-formed, but not the data that is expected. -/
  | data
  /-- The text ends too early. -/
  | early
  /-- Not JSON. -/
  | form
deriving DecidableEq, Repr

namespace Fault

/-- The class that a fault falls into. -/
def faultClass : Fault → FaultClass
  | missingField _ | duplicateField _ | wrongType _ _ | emptyRecord _ => .data
  | endInValue | endInObject | endInList | endInText => .early
  | _ => .form

/-- What is reported for a fault. -/
def message : Fault → String
  | missingField name => "missing field `" ++ name ++ "`"
  | duplicateField name => "duplicate field `" ++ name ++ "`"
  | wrongType found expected => "invalid type: " ++ found.message ++ ", expected " ++ expected
  | emptyRecord expected => "invalid length 0, expected " ++ expected
  | endInValue => "EOF while parsing a value"
  | endInObject => "EOF while parsing an object"
  | endInList => "EOF while parsing a list"
  | endInText => "EOF while parsing a string"
  | expectedValue => "expected value"
  | expectedWord => "expected ident"
  | expectedCommaOrBrace => "expected `,` or `\x7d`"
  | expectedCommaOrBracket => "expected `,` or `]`"
  | expectedColon => "expected `:`"
  | trailingComma => "trailing comma"
  | trailingCharacters => "trailing characters"
  | keyNotText => "key must be a string"
  | invalidNumber => "invalid number"
  | numberOutOfRange => "number out of range"
  | invalidEscape => "invalid escape"
  | controlCharacter => "control character (\\u0000-\\u001F) found while parsing a string"
  | unfinishedSurrogate => "unexpected end of hex escape"
  | loneSurrogate => "lone leading surrogate in hex escape"

end Fault

/-- A fault with its place in the text. -/
structure LocatedFault where
  fault : Fault
  place : Text.Place
deriving DecidableEq, Repr

/-- What is reported for a fault and its place. -/
def LocatedFault.message (located : LocatedFault) : String :=
  located.fault.message ++ " at " ++ located.place.toText

/-- A fault as a scanner meets it, with the number of bytes that follow its
place. A scanner sees only what is left of a text, so it counts from the end. -/
structure Refusal where
  fault : Fault
  left : Nat
deriving DecidableEq, Repr

/-- The place of a refusal in the whole text. -/
def Refusal.locate (refusal : Refusal) (text : List Char) : LocatedFault :=
  ⟨refusal.fault, Text.Place.start.advance (Text.byteCount text - refusal.left) text⟩

namespace Fault

/-- The refusal of a text that ends too early. -/
def atEnd (fault : Fault) : Refusal := ⟨fault, 0⟩

/-- A refusal some bytes into what is left of a text, or at its end. -/
def within (fault : Fault) (bytes : Nat) (rest : List Char) : Refusal :=
  ⟨fault, Text.byteCount rest - bytes⟩

/-- A refusal in front of what is left of a text. -/
def before (fault : Fault) (rest : List Char) : Refusal :=
  fault.within 0 rest

/-- A refusal for the first byte of what is left of a text. Its place is after
that byte. -/
def shownBy (fault : Fault) (rest : List Char) : Refusal :=
  fault.within 1 rest

end Fault

end FlagEnum.Json
