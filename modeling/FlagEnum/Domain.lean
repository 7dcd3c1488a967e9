import FlagEnum.Text.Blank

/-!
# Integer domains

A flags enumeration is stored in one of eight integer domains, each given by a
width and a sign. This module holds the domains, their ranges and the type
names by which they are known; the arithmetic inside a domain is that of its
words.
-/

namespace FlagEnum

/-- The integer type that stores an enumeration, named by its keyword. -/
inductive Domain where
  | sbyte
  | byte
  | short
  | ushort
  | int
  | uint
  | long
  | ulong
deriving DecidableEq, Repr

namespace Domain

/-- Enumerations that name no type are stored in 32-bit signed integers. -/
instance : Inhabited Domain := ⟨.int⟩

/-- Every domain once, narrowest first and signed before unsigned. -/
def all : List Domain := [sbyte, byte, short, ushort, int, uint, long, ulong]

/-- The number of bits of a stored value. -/
def bits : Domain → Nat
  | sbyte | byte => 8
  | short | ushort => 16
  | int | uint => 32
  | long | ulong => 64

/-- Whether values are signed, in two's complement. -/
def signed : Domain → Bool
  | sbyte | short | int | long => true
  | byte | ushort | uint | ulong => false

/-- The least value of the domain. -/
def minValue (domain : Domain) : Int :=
  if domain.signed then -(1 <<< (domain.bits - 1)) else 0

/-- The greatest value of the domain. -/
def maxValue (domain : Domain) : Int :=
  if domain.signed then 1 <<< (domain.bits - 1) - 1 else 1 <<< domain.bits - 1

/-- Whether the domain can store `value` exactly. -/
def contains (domain : Domain) (value : Int) : Bool :=
  domain.minValue ≤ value && value ≤ domain.maxValue

/-- How many positive powers of two the domain holds: a sign bit is none. -/
def slots (domain : Domain) : Nat :=
  if domain.signed then domain.bits - 1 else domain.bits

/-- The keyword by which a domain is printed. -/
def keyword : Domain → String
  | sbyte => "sbyte"
  | byte => "byte"
  | short => "short"
  | ushort => "ushort"
  | int => "int"
  | uint => "uint"
  | long => "long"
  | ulong => "ulong"

/-- The spellings of a domain: its keyword, its runtime name and its short
name by sign and width. Case matters. -/
def spellings : Domain → List String
  | sbyte => ["sbyte", "SByte", "i8"]
  | byte => ["byte", "Byte", "u8"]
  | short => ["short", "Int16", "i16"]
  | ushort => ["ushort", "UInt16", "u16"]
  | int => ["int", "Int32", "i32"]
  | uint => ["uint", "UInt32", "u32"]
  | long => ["long", "Int64", "i64"]
  | ulong => ["ulong", "UInt64", "u64"]

/-- Drops one leading namespace qualifier, if there is one. -/
def dropQualifier (name : List Char) : List Char :=
  let qualifier := "System.".toList
  if qualifier.isPrefixOf name then name.drop qualifier.length else name

/-- The domain with this keyword, exactly. -/
def ofKeyword? (keyword : String) : Option Domain :=
  all.find? fun domain => domain.keyword == keyword

/-- The domain that a type name stands for. Blanks around the name and one
namespace qualifier do not count. -/
def ofName? (name : String) : Option Domain :=
  let bare := String.ofList (dropQualifier (Text.trim name.toList))
  all.find? fun domain => domain.spellings.contains bare

/-- The place of a domain among all domains. -/
def index (domain : Domain) : Nat :=
  all.idxOf domain

end Domain

end FlagEnum
