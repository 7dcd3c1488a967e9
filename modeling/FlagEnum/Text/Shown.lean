import FlagEnum.Text.Extending
import FlagEnum.Text.Unprintable

/-!
# Texts as messages show them

A text inside a message stands between quotes, with escapes for what could not
be seen: controls, and characters that have no printed form or would join the
one before them.
-/

namespace FlagEnum.Text

/-- How one character of a shown text is written. -/
def showCharacter (character : Char) : List Char :=
  let code := character.toNat
  if code = 0 then ['\x5c', '0']
  else if code = 0x09 then ['\x5c', 't']
  else if code = 0x0A then ['\x5c', 'n']
  else if code = 0x0D then ['\x5c', 'r']
  else if code = 0x22 then ['\x5c', '\x22']
  else if code = 0x5C then ['\x5c', '\x5c']
  else if 0x20 ≤ code && code < 0x7F then [character]
  else if isExtending character || isUnprintable character then
    '\x5c' :: 'u' :: '\x7b' :: Nat.toDigits 16 code ++ ['\x7d']
  else [character]

/-- A text between quotes, as messages show it. -/
def shown (text : String) : String :=
  String.ofList ('\x22' :: text.toList.flatMap showCharacter ++ ['\x22'])

end FlagEnum.Text
