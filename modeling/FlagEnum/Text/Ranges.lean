/-!
# Sets of characters as ranges

A property of characters is given by the ranges of code points that have it.
-/

namespace FlagEnum.Text

/-- Whether a character lies in one of the ranges; both ends belong to a range. -/
def inRanges (ranges : List (Nat × Nat)) (character : Char) : Bool :=
  ranges.any fun range => range.1 ≤ character.toNat && character.toNat ≤ range.2

end FlagEnum.Text
