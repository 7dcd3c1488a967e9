import FlagEnum.Flag
import FlagEnum.Text.Blank

/-!
# Integer literals

The integers that arguments give: decimal, or with `0x`, `0b` or `0o` in
another base, with `_` between digits and a sign in front. A literal is first
taken apart and its digits are then read from the left.
-/

namespace FlagEnum

/-- Why a text is no integer literal. -/
inductive LiteralError where
  /-- There are no digits, or a second sign stands before them. -/
  | malformed
  /-- A character is no digit of the base. -/
  | invalidDigit
  /-- The digits denote a number above 128 signed bits. -/
  | tooLarge
deriving DecidableEq, Repr

/-- The message for a text that is no literal. -/
def LiteralError.message (text : String) : LiteralError → String
  | malformed => "invalid integer literal: " ++ text
  | invalidDigit => "invalid integer literal " ++ text ++ ": invalid digit found in string"
  | tooLarge => "invalid integer literal " ++ text ++ ": number too large to fit in target type"

namespace Literal

/-- The parts of a literal: its sign, its base and what should be its digits. -/
structure Parts where
  negative : Bool
  base : Nat
  digits : List Char
deriving DecidableEq, Repr

/-- Takes one sign off the front of a text. -/
def splitSign : List Char → Bool × List Char
  | '-' :: rest => (true, rest)
  | '+' :: rest => (false, rest)
  | text => (false, text)

/-- Takes a base mark off the front of a text in lower case. -/
def splitBase : List Char → Nat × List Char
  | '0' :: 'x' :: rest => (16, rest)
  | '0' :: 'b' :: rest => (2, rest)
  | '0' :: 'o' :: rest => (8, rest)
  | text => (10, text)

/-- Takes a text apart. Blanks around it, the case of letters and separators
between digits do not count. -/
def parts (text : List Char) : Parts :=
  let (negative, unsigned) := splitSign (Text.trim text)
  let (base, digits) := splitBase (unsigned.map Char.toLower)
  ⟨negative, base, digits.filter (· != '_')⟩

/-- The number that a lower-case character stands for as a digit of `base`. -/
def digit? (base : Nat) (character : Char) : Option Nat :=
  let code := character.toNat
  let number :=
    if '0'.toNat ≤ code && code ≤ '9'.toNat then some (code - '0'.toNat)
    else if 'a'.toNat ≤ code && code ≤ 'z'.toNat then some (code - 'a'.toNat + 10)
    else none
  number.filter (· < base)

/-- Reads digits from the left onto a number already read. The first character
that is no digit, or that leaves the range, decides the error. -/
def readDigits (base : Nat) : Nat → List Char → Except LiteralError Nat
  | number, [] => .ok number
  | number, character :: rest =>
    match digit? base character with
    | none => .error .invalidDigit
    | some digit =>
      let next := number * base + digit
      if maxInteger < next then .error .tooLarge else readDigits base next rest

/-- Whether a text starts with a sign. -/
def startsWithSign : List Char → Bool
  | '-' :: _ => true
  | '+' :: _ => true
  | _ => false

/-- The integer that a literal denotes. The size is read first and must itself
be in range, so the least 128-bit integer has no literal. -/
def read (text : List Char) : Except LiteralError Int :=
  let literal := parts text
  if literal.digits.isEmpty || startsWithSign literal.digits then .error .malformed
  else do
    let size ← readDigits literal.base 0 literal.digits
    return if literal.negative then -(size : Int) else size

/-- The integer that an argument denotes. -/
def ofString (text : String) : Except LiteralError Int :=
  read text.toList

end Literal

end FlagEnum
