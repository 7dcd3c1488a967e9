import FlagEnum.Domain

/-!
# Words of a domain

A word is a stored value: a bit pattern of the domain's width, read as a signed
or unsigned integer. Arithmetic on words wraps. Which words a policy offers is
decided elsewhere.
-/

namespace FlagEnum

/-- A bit pattern of the width of `domain`. -/
structure Word (domain : Domain) where
  pattern : BitVec domain.bits
deriving DecidableEq, Repr

namespace Word

variable {domain : Domain}

/-- The integer that the pattern stands for in its domain. -/
def value (word : Word domain) : Int :=
  if domain.signed then word.pattern.toInt else word.pattern.toNat

/-- The pattern of an integer, reduced to the width of the domain. -/
def ofInt (domain : Domain) (value : Int) : Word domain :=
  ⟨BitVec.ofInt domain.bits value⟩

/-- The word that stores `value` exactly, if the domain has one. -/
def narrow? (domain : Domain) (value : Int) : Option (Word domain) :=
  if domain.contains value then some (ofInt domain value) else none

/-- The word for 1, the lowest flag of every domain. -/
def one (domain : Domain) : Word domain :=
  ⟨BitVec.ofNat domain.bits 1⟩

/-- The word for 0, which sets no flag. -/
def zero (domain : Domain) : Word domain :=
  ⟨BitVec.ofNat domain.bits 0⟩

/-- Twice the word; the bit that leaves at the top is lost. -/
def double (word : Word domain) : Word domain :=
  ⟨word.pattern + word.pattern⟩

/-- Whether no two bits of the pattern are set: clearing the lowest set bit
then leaves nothing. -/
def hasAtMostOneBit (word : Word domain) : Bool :=
  word.pattern &&& (word.pattern - BitVec.ofNat domain.bits 1) == BitVec.ofNat domain.bits 0

/-- Whether the word stands for an integer above zero. -/
def isPositive (word : Word domain) : Bool :=
  0 < word.value

/-- Whether the word stands for an integer that is not below zero. -/
def isNonNegative (word : Word domain) : Bool :=
  0 ≤ word.value

/-- Whether the word is a single flag: one bit, and not the sign bit. -/
def isFlag (word : Word domain) : Bool :=
  word.isNonNegative && word.hasAtMostOneBit && word != zero domain

/-- The positive words that repeated doubling reaches from `word`, in at most
`steps` steps. It ends when a doubled word is zero or negative. -/
def climb : Nat → Word domain → List (Word domain)
  | 0, _ => []
  | steps + 1, word => if word.isPositive then word :: climb steps word.double else []

/-- The flags of a domain from the lowest up: 1 and its positive doublings. No
domain has more of them than bits, and a higher bound on the steps gives no more
(`climb_eq_flags`): where every bit is a flag, the bound is met just as the
doubled word becomes zero. -/
def flags (domain : Domain) : List (Word domain) :=
  climb domain.bits (one domain)

/-- The word with the greatest value of a list. -/
def highest? : List (Word domain) → Option (Word domain)
  | [] => none
  | word :: rest =>
    match highest? rest with
    | none => some word
    | some best => if best.value ≤ word.value then some word else some best

end Word

end FlagEnum
