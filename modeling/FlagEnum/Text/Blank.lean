/-!
# Blank characters

The characters with the Unicode property `White_Space`, and trimming of text by
them. Formats with a narrower notion of blank keep their own.
-/

namespace FlagEnum.Text

/-- A character with the Unicode property `White_Space`. Zero-width spaces and
the byte order mark do not have it. -/
def isBlank (character : Char) : Bool :=
  let code := character.toNat
  (0x09 ≤ code && code ≤ 0x0D) || code == 0x20 || code == 0x85 || code == 0xA0 ||
    code == 0x1680 || (0x2000 ≤ code && code ≤ 0x200A) || code == 0x2028 || code == 0x2029 ||
    code == 0x202F || code == 0x205F || code == 0x3000

/-- Text without the blank characters at its end. -/
def trimEnd (text : List Char) : List Char :=
  (text.reverse.dropWhile isBlank).reverse

/-- Text without the blank characters at its two ends; those inside it stay. -/
def trim (text : List Char) : List Char :=
  trimEnd (text.dropWhile isBlank)

end FlagEnum.Text
