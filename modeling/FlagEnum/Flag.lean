import FlagEnum.Domain

/-!
# Flags and their texts

A flag is a value together with the domain that it was chosen in. Its texts are
the decimal form, a hexadecimal literal of the domain's width and a shift
expression. Reading such texts back is the work of integer literals.
-/

namespace FlagEnum

/-- Integers are held in 128 bits, signed, wherever a file or an argument gives
one. -/
def minInteger : Int := -(1 <<< 127)

/-- The greatest integer of 128 signed bits. -/
def maxInteger : Int := 1 <<< 127 - 1

/-- The decimal digits of a number, without leading zeros. -/
def decimalDigits (number : Nat) : List Char :=
  Nat.toDigits 10 number

/-- The decimal form of an integer. -/
def decimal (value : Int) : List Char :=
  if value < 0 then '-' :: decimalDigits value.natAbs else decimalDigits value.natAbs

/-- The hexadecimal digits of a number in upper case, without leading zeros. -/
def hexDigits (number : Nat) : List Char :=
  (Nat.toDigits 16 number).map Char.toUpper

/-- A value of an enumeration and the domain that it belongs to. -/
structure Flag where
  domain : Domain
  value : Int
deriving DecidableEq, Repr

namespace Flag

/-- The value of the first member of an enumeration that has no values yet. -/
def zero (domain : Domain) : Flag := ⟨domain, 0⟩

/-- The index of the lowest set bit; zero has none. The bits of a negative
number in two's complement have the same lowest one as those of its size. -/
def bitIndex? (flag : Flag) : Option Nat :=
  (List.range 128).find? fun index => flag.value.natAbs.testBit index

/-- The value in decimal. -/
def toDecimal (flag : Flag) : String :=
  String.ofList (decimal flag.value)

/-- A hexadecimal literal, filled with zeros up to the width of the domain. A
negative value shows its 128-bit pattern, and a value that is too wide for the
domain is not cut. -/
def toHex (flag : Flag) : String :=
  let pattern := (flag.value % (1 <<< 128)).toNat
  String.ofList ('0' :: 'x' :: (hexDigits pattern).leftpad (flag.domain.bits / 4) '0')

/-- The flag as a shifted 1; zero is written as such. -/
def toShift (flag : Flag) : String :=
  match flag.bitIndex? with
  | some index => "1 << " ++ String.ofList (decimalDigits index)
  | none => "0"

/-- The value in hexadecimal or in decimal. -/
def render (flag : Flag) (hex : Bool) : String :=
  if hex then flag.toHex else flag.toDecimal

end Flag

end FlagEnum
