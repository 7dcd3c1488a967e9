import FlagEnum.Flag

/-!
# JSON values and their texts

The JSON values that reports and declarations are written as, with a compact
and an indented text for each. Objects keep the order of their fields. Reading
is done per format, in `FlagEnum.Json.Scan` and the modules that build on it.
-/

namespace FlagEnum

/-- A JSON value to be written. Numbers are integers of any size. -/
inductive Json where
  | boolean (value : Bool)
  | integer (value : Int)
  | string (value : String)
  | array (items : List Json)
  | object (fields : List (String × Json))
deriving Repr

namespace Json

/-- The escape of one character inside a quoted text. Only the quote, the
backslash and control characters have one. -/
def escape (character : Char) : List Char :=
  let code := character.toNat
  if code = 0x22 then ['\x5c', '\x22']
  else if code = 0x5C then ['\x5c', '\x5c']
  else if code = 0x08 then ['\x5c', 'b']
  else if code = 0x09 then ['\x5c', 't']
  else if code = 0x0A then ['\x5c', 'n']
  else if code = 0x0C then ['\x5c', 'f']
  else if code = 0x0D then ['\x5c', 'r']
  else if code < 0x20 then '\x5c' :: 'u' :: (Nat.toDigits 16 code).leftpad 4 '0'
  else [character]

/-- A text between quotes. -/
def quoted (text : String) : List Char :=
  '\x22' :: text.toList.flatMap escape ++ ['\x22']

/-- The text of a truth value. -/
def truth : Bool → List Char
  | true => "true".toList
  | false => "false".toList

mutual

/-- The text of a value without any blanks. -/
def compactChars : Json → List Char
  | .boolean value => truth value
  | .integer value => decimal value
  | .string value => quoted value
  | .array items => '[' :: compactItems items ++ [']']
  | .object fields => '\x7b' :: compactFields fields ++ ['\x7d']

/-- The items of an array with commas between them. -/
def compactItems : List Json → List Char
  | [] => []
  | [item] => compactChars item
  | item :: next :: rest => compactChars item ++ ',' :: compactItems (next :: rest)

/-- The fields of an object with commas between them. -/
def compactFields : List (String × Json) → List Char
  | [] => []
  | [(key, value)] => quoted key ++ ':' :: compactChars value
  | (key, value) :: next :: rest =>
    quoted key ++ ':' :: compactChars value ++ ',' :: compactFields (next :: rest)

end

/-- The start of a line that is `depth` levels in: two blanks a level. -/
def newLine (depth : Nat) : List Char :=
  '\n' :: List.replicate (2 * depth) ' '

mutual

/-- The text of a value with each item and field on a line of its own. Empty
arrays and objects stay on one line. -/
def indentedChars (depth : Nat) : Json → List Char
  | .boolean value => truth value
  | .integer value => decimal value
  | .string value => quoted value
  | .array [] => ['[', ']']
  | .array (item :: items) =>
    '[' :: newLine (depth + 1) ++ indentedItems (depth + 1) (item :: items) ++
      newLine depth ++ [']']
  | .object [] => ['\x7b', '\x7d']
  | .object (field :: fields) =>
    '\x7b' :: newLine (depth + 1) ++ indentedFields (depth + 1) (field :: fields) ++
      newLine depth ++ ['\x7d']

/-- The items of an array, each on a line of its own. -/
def indentedItems (depth : Nat) : List Json → List Char
  | [] => []
  | [item] => indentedChars depth item
  | item :: next :: rest =>
    indentedChars depth item ++ ',' :: newLine depth ++ indentedItems depth (next :: rest)

/-- The fields of an object, each on a line of its own. -/
def indentedFields (depth : Nat) : List (String × Json) → List Char
  | [] => []
  | [(key, value)] => quoted key ++ ':' :: ' ' :: indentedChars depth value
  | (key, value) :: next :: rest =>
    quoted key ++ ':' :: ' ' :: indentedChars depth value ++
      ',' :: newLine depth ++ indentedFields depth (next :: rest)

end

/-- The text of a value without any blanks. -/
def compact (value : Json) : String :=
  String.ofList value.compactChars

/-- The text of a value over several lines. -/
def indented (value : Json) : String :=
  String.ofList (value.indentedChars 0)

end Json

/-- A flag as reports give it. -/
def Flag.toJson (flag : Flag) : Json :=
  .object [("domain", .string flag.domain.keyword), ("value", .integer flag.value)]

end FlagEnum
