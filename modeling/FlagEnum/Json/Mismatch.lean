import FlagEnum.Binary64
import FlagEnum.Json.Scan
import FlagEnum.Text.Shown

/-!
# Values of the wrong type

Where a value of another type stands than the one expected, it is read as far
as needed to name it in the message: words, numbers and texts wholly, brackets
not at all. What is no value at all is reported as such.
-/

namespace FlagEnum.Json

/-- Whether a character is a decimal digit. -/
def isDecimalDigit (character : Char) : Bool :=
  '0' ≤ character && character ≤ '9'

/-- The number that a decimal digit stands for. -/
def digitValue (character : Char) : Nat :=
  character.toNat - '0'.toNat

/-- The greatest number of 64 bits. -/
def maxSignificand : Nat := 1 <<< 64 - 1

/-- Reads digits onto a number while it stays within 64 bits, and counts those
read. -/
def absorb : Nat → List Char → Nat × Nat
  | number, [] => (number, 0)
  | number, character :: rest =>
    let next := number * 10 + digitValue character
    if maxSignificand < next then (number, 0)
    else
      let (total, count) := absorb next rest
      (total, count + 1)

/-- An exponent as it is written. -/
structure Exponent where
  negative : Bool
  digits : List Char
deriving DecidableEq, Repr

/-- A number as it is written: the digits before the point, those after it, and
the exponent; the last two may be missing. -/
structure Numeral where
  negative : Bool
  whole : List Char
  fraction : Option (List Char)
  exponent : Option Exponent
deriving DecidableEq, Repr

/-- The refusal of a text where a digit must stand and none does. -/
def refuseDigit (rest : List Char) : Refusal :=
  if rest.isEmpty then Fault.endInValue.atEnd else Fault.invalidNumber.shownBy rest

/-- Scans the digits after a point, of which there must be some. -/
def scanFraction : Scanner (Option (List Char))
  | '.' :: rest =>
    match rest.takeWhile isDecimalDigit with
    | [] => .error (refuseDigit rest)
    | digits => .ok (some digits, rest.dropWhile isDecimalDigit)
  | input => .ok (none, input)

/-- The number that decimal digits denote. -/
def digitsValue (digits : List Char) : Nat :=
  digits.foldl (fun number digit => number * 10 + digitValue digit) 0

/-- Scans the digits of an exponent, of which there must be some. -/
def scanExponentDigits (negative : Bool) : Scanner (Option Exponent) := fun input =>
  match input.takeWhile isDecimalDigit with
  | [] => .error (refuseDigit input)
  | digits => .ok (some ⟨negative, digits⟩, input.dropWhile isDecimalDigit)

/-- Scans an exponent, if there is one. -/
def scanExponent : Scanner (Option Exponent)
  | character :: rest =>
    if character = 'e' || character = 'E' then
      match rest with
      | '+' :: digits => scanExponentDigits false digits
      | '-' :: digits => scanExponentDigits true digits
      | digits => scanExponentDigits false digits
    else .ok (none, character :: rest)
  | [] => .ok (none, [])

/-- Scans a number after its sign. A zero in front admits no further digits. -/
def scanNumeral (negative : Bool) : Scanner Numeral := fun input => do
  match input.takeWhile isDecimalDigit with
  | [] => .error (refuseDigit input)
  | '0' :: _ :: _ => .error (Fault.invalidNumber.shownBy (input.drop 1))
  | whole => do
    let (fraction, rest) ← scanFraction (input.dropWhile isDecimalDigit)
    let (exponent, rest) ← scanExponent rest
    return (⟨negative, whole, fraction, exponent⟩, rest)

/-- The text of a number that is not kept as an integer. -/
def shownDecimal (negative : Bool) (number : Binary64) : String :=
  String.ofList (if negative then '-' :: number.toText else number.toText)

/-- The number that an exponent denotes. -/
def Exponent.value (exponent : Exponent) : Int :=
  let size : Int := digitsValue exponent.digits
  if exponent.negative then -size else size

/-- The greatest exponent that is read to its end. -/
def maxExponent : Nat := 1 <<< 31 - 1

/-- The digits of an exponent that are not read because it is too great already. -/
def unreadDigits : Nat → List Char → List Char
  | _, [] => []
  | number, digit :: rest =>
    let next := number * 10 + digitValue digit
    if maxExponent < next then rest else unreadDigits next rest

/-- The digits of a number that are not read because no digit can bring it back
into range. -/
def Numeral.unread (numeral : Numeral) : List Char :=
  match numeral.exponent with
  | some ⟨false, digits⟩ => unreadDigits 0 digits
  | _ => []

/-- How a number is named. Integers of 64 bits are kept; a point, an exponent,
a negative zero or a greater size makes a floating-point number of it. -/
def Numeral.found? (numeral : Numeral) : Option Found :=
  let (whole, wholeCount) := absorb 0 numeral.whole
  let left : Int := (numeral.whole.length - wholeCount : Nat)
  let fits := wholeCount = numeral.whole.length
  let plain := numeral.fraction.isNone && numeral.exponent.isNone
  if fits && plain && !numeral.negative then some (.integer whole)
  else if fits && plain && 0 < whole && whole ≤ 1 <<< 63 then some (.integer (-(whole : Int)))
  else
    let (digits, fractionCount) := absorb whole (numeral.fraction.getD [])
    let exponent := (numeral.exponent.map Exponent.value).getD 0
    (Binary64.ofDecimal? digits (left - fractionCount + exponent)).map fun number =>
      .decimal (shownDecimal numeral.negative number)

/-- Names the number that stands after its sign. -/
def foundNumber (negative : Bool) : Scanner Found := fun input => do
  let (numeral, rest) ← scanNumeral negative input
  match numeral.found? with
  | some value => return (value, rest)
  | none => .error (Fault.numberOutOfRange.before (numeral.unread ++ rest))

/-- Names the value at the start of a text that is not blank. -/
def found : Scanner Found
  | [] => .error Fault.endInValue.atEnd
  | 'n' :: rest => do return (.null, ← word ['u', 'l', 'l'] rest)
  | 't' :: rest => do return (.boolean true, ← word ['r', 'u', 'e'] rest)
  | 'f' :: rest => do return (.boolean false, ← word ['a', 'l', 's', 'e'] rest)
  | '\x22' :: rest => do
    let (value, rest) ← quotedText rest
    return (.text (Text.shown value), rest)
  | '[' :: rest => .ok (.array, '[' :: rest)
  | '\x7b' :: rest => .ok (.object, '\x7b' :: rest)
  | '-' :: rest => foundNumber true rest
  | character :: rest =>
    if isDecimalDigit character then foundNumber false (character :: rest)
    else .error (Fault.expectedValue.shownBy (character :: rest))

/-- The refusal of the value at the start of a text where something else is
expected. Its place is where the value was read to. -/
def mismatch (expected : String) (input : List Char) : Refusal :=
  match found input with
  | .ok (value, rest) => (Fault.wrongType value expected).before rest
  | .error refusal => refusal

end FlagEnum.Json
