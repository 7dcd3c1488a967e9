import FlagEnum.Binary64
import FlagEnum.Toml.Line
import FlagEnum.Toml.Value

/-!
# Unquoted values

Truth values, numbers, dates and times: everything that is written without
quotes or brackets. Such a value is cut out of the text first and then
recognised as a whole.
-/

namespace FlagEnum.Toml

/-- Whether a character is a decimal digit. -/
def isDigit (character : Char) : Bool :=
  '0' ≤ character && character ≤ '9'

/-- The digits of a run without the underscores between them. Each underscore
must stand between two digits. -/
def digitRun? (isDigit : Char → Bool) (text : List Char) : Option (List Char) :=
  let groups := text.splitOn '_'
  if groups.all fun group => !group.isEmpty && group.all isDigit then some groups.flatten else none

/-- The value of a hexadecimal or smaller digit. -/
def digitValue (character : Char) : Nat :=
  if isDigit character then character.toNat - '0'.toNat
  else character.toLower.toNat - 'a'.toNat + 10

/-- The number that a run of digits denotes. -/
def runValue (base : Nat) (digits : List Char) : Nat :=
  digits.foldl (fun number digit => number * base + digitValue digit) 0

/-- Takes one sign off the front of a text. -/
def splitSign : List Char → Bool × List Char
  | '-' :: rest => (true, rest)
  | '+' :: rest => (false, rest)
  | text => (false, text)

/-! ## Numbers -/

/-- An integer, unless no 128-bit type holds it. -/
def integer? (value : Int) : Option Value :=
  if -(1 <<< 127) ≤ value && value < 1 <<< 128 then some (.integer value) else none

/-- Recognises an integer in another base than ten, which has no sign. -/
def basedInteger? : List Char → Option Value
  | '0' :: 'x' :: rest => do
    let digits ← digitRun? (fun digit => isDigit digit ||
      ('a' ≤ digit.toLower && digit.toLower ≤ 'f')) rest
    integer? (runValue 16 digits)
  | '0' :: 'o' :: rest => do
    let digits ← digitRun? (fun digit => '0' ≤ digit && digit ≤ '7') rest
    integer? (runValue 8 digits)
  | '0' :: 'b' :: rest => do
    let digits ← digitRun? (fun digit => digit == '0' || digit == '1') rest
    integer? (runValue 2 digits)
  | _ => none

/-- The digits before a point or exponent: a zero has no further ones. -/
def wholeDigits? (text : List Char) : Option (List Char) :=
  match text with
  | '0' :: _ :: _ => none
  | _ => digitRun? isDigit text

/-- Recognises a decimal integer. -/
def decimalInteger? (text : List Char) : Option Value := do
  let (negative, body) := splitSign text
  let size : Int := runValue 10 (← wholeDigits? body)
  integer? (if negative then -size else size)

/-- Whether `digits * 10 ^ exponent` rounds to a floating-point number. Sizes
that are far from the limit are decided by their count of digits. -/
def inFloatRange (digits : Nat) (exponent : Int) : Bool :=
  let places : Int := (decimalDigits digits).length + exponent
  if digits = 0 || places < 300 then true
  else if 400 < places then false
  else
    let (top, bottom) := (Binary64.Decimal.mk digits exponent).ratio
    (Binary64.ofRatio? top bottom).isSome

/-- The exponent of a number, given the text after its mark. -/
def exponent? (text : List Char) : Option Int := do
  let (negative, body) := splitSign text
  let size : Int := runValue 10 (← digitRun? isDigit body)
  return if negative then -size else size

/-- Recognises a number with a point, an exponent or both. -/
def decimalFloat? (text : List Char) : Option Value := do
  let (_, body) := splitSign text
  let isMark (character : Char) : Bool := character == 'e' || character == 'E'
  let mantissa := body.takeWhile fun character => !isMark character
  let exponent ←
    match body.dropWhile fun character => !isMark character with
    | [] => some none
    | _ :: tail => (exponent? tail).map some
  let whole ← wholeDigits? (mantissa.takeWhile (· != '.'))
  let fraction ←
    match mantissa.dropWhile (· != '.') with
    | [] => some none
    | _ :: tail => (digitRun? isDigit tail).map some
  if exponent.isNone && fraction.isNone then none
  else
    let places := fraction.getD []
    if inFloatRange (runValue 10 (whole ++ places)) (exponent.getD 0 - places.length) then
      some (.float (String.ofList text))
    else none

/-- Recognises infinity and the results that are no number. -/
def specialFloat? (text : List Char) : Option Value :=
  let (_, body) := splitSign text
  if body == ['i', 'n', 'f'] || body == ['n', 'a', 'n'] then some (.float (String.ofList text))
  else none

/-! ## Dates and times -/

/-- Scans exactly `count` digits. -/
def digits? (count : Nat) (text : List Char) : Option (Nat × List Char) :=
  let digits := text.take count
  if digits.length == count && digits.all isDigit then some (runValue 10 digits, text.drop count)
  else none

/-- Scans one given character. -/
def expect? (expected : Char) : List Char → Option (List Char)
  | character :: rest => if character = expected then some rest else none
  | [] => none

/-- The days of a month. -/
def daysIn (year month : Nat) : Nat :=
  if month = 2 then
    if year % 4 = 0 && (year % 100 != 0 || year % 400 = 0) then 29 else 28
  else if month = 4 || month = 6 || month = 9 || month = 11 then 30
  else 31

/-- Scans a date of the calendar. -/
def date? (text : List Char) : Option (List Char) := do
  let (year, rest) ← digits? 4 text
  let (month, rest) ← digits? 2 (← expect? '-' rest)
  let (day, rest) ← digits? 2 (← expect? '-' rest)
  if 1 ≤ month && month ≤ 12 && 1 ≤ day && day ≤ daysIn year month then some rest else none

/-- Scans the fraction of a second, if there is one. -/
def subsecond? : List Char → Option (List Char)
  | '.' :: rest =>
    if (rest.takeWhile isDigit).isEmpty then none else some (rest.dropWhile isDigit)
  | text => some text

/-- Scans the seconds of a time, which may be left out. A minute may have a leap
second. -/
def seconds? : List Char → Option (List Char)
  | ':' :: rest => do
    let (second, rest) ← digits? 2 rest
    if second ≤ 60 then subsecond? rest else none
  | text => some text

/-- Scans a time of day. -/
def time? (text : List Char) : Option (List Char) := do
  let (hour, rest) ← digits? 2 text
  let (minute, rest) ← digits? 2 (← expect? ':' rest)
  if hour ≤ 23 && minute ≤ 59 then seconds? rest else none

/-- Scans an offset from universal time, if there is one. -/
def offset? : List Char → Option (List Char)
  | [] => some []
  | character :: rest =>
    if character = 'Z' || character = 'z' then some rest
    else if character = '+' || character = '-' then do
      let (hour, rest) ← digits? 2 rest
      let (minute, rest) ← digits? 2 (← expect? ':' rest)
      if hour ≤ 23 && minute ≤ 59 then some rest else none
    else none

/-- Recognises a date, a time, or both with or without an offset. -/
def moment? (text : List Char) : Option Value := do
  let rest ←
    match date? text with
    | some [] => some []
    | some (separator :: rest) =>
      if separator = 'T' || separator = 't' || separator = ' ' then do offset? (← time? rest)
      else none
    | none => time? text
  if rest.isEmpty then some (.moment (String.ofList text)) else none

/-! ## Any of them -/

/-- Recognises an unquoted value. -/
def recognise? (text : List Char) : Option Value :=
  if text == "true".toList then some (.boolean true)
  else if text == "false".toList then some (.boolean false)
  else
    basedInteger? text <|> decimalInteger? text <|> decimalFloat? text <|>
      specialFloat? text <|> moment? text

/-- A character that cannot be part of an unquoted value. -/
def isDelimiter (character : Char) : Bool :=
  isBlank character || character == '\n' || character == '\r' || character == ',' ||
    character == '#' || character == '[' || character == ']' || character == '\x7b' ||
    character == '\x7d' || character == '=' || character == '\x22' || character == '\x27'

/-- Cuts out the text of an unquoted value. A date takes the time after it in,
when only one blank is between them. -/
def cut (input : List Char) : List Char × List Char :=
  let isInside (character : Char) : Bool := !isDelimiter character
  let first := input.takeWhile isInside
  let rest := input.dropWhile isInside
  match rest with
  | ' ' :: next :: tail =>
    if date? first == some [] && isDigit next then
      let second := (next :: tail).takeWhile isInside
      (first ++ ' ' :: second, (next :: tail).dropWhile isInside)
    else (first, rest)
  | _ => (first, rest)

/-- Scans an unquoted value. -/
def scalar : Scanner Value := fun input => do
  let (text, rest) := cut input
  return (← recognise? text, rest)

end FlagEnum.Toml
