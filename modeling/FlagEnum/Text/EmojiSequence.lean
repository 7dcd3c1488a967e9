import FlagEnum.Text.Emoji
import FlagEnum.Text.Ligature

/-!
# Emoji sequences

Pictures that several characters make together: figures with a skin tone,
pictures linked by joiners, flags of countries and of regions. A text is read
from its end, so what is remembered is the later part of a sequence.
-/

namespace FlagEnum.Text

/-- The later part of an emoji sequence. -/
inductive EmojiSequence where
  /-- A picture. -/
  | picture
  /-- A skin tone. -/
  | skinTone
  /-- A flag letter with none after it. -/
  | flagLetter
  /-- Several flag letters. -/
  | flagLetters
  /-- A joiner and a picture after it. -/
  | joined
  /-- The mark of a key, before a joined picture. -/
  | joinedKey
  /-- A flag letter, before a joined picture. -/
  | joinedFlagLetter
  /-- Flags, before a joined picture. -/
  | joinedFlags
  /-- A flag letter and flags, before a joined picture. -/
  | joinedOddLetters
  /-- The letters at the end of the name of a region, before a joined picture. -/
  | tagLetters (count : Nat)
  /-- The digits that the name of a region starts with, and what follows them. -/
  | tagDigits (count : Nat)
deriving DecidableEq, Repr

namespace EmojiSequence

/-- The sequence that a character may be the end of. -/
def ofCharacter? (character : Char) : Option EmojiSequence :=
  if isFlagLetter character then some flagLetter
  else if isSkinTone character then some skinTone
  else if isPicture character then some picture
  else none

/-- Whether what the emoji style makes a picture belongs to a joined picture. -/
def isJoined : EmojiSequence → Bool
  | joined | joinedKey => true
  | _ => false

/-- The sequence that a joiner makes of one that is complete. -/
def join? : EmojiSequence → Option EmojiSequence
  | picture | skinTone | flagLetters | joinedFlags | joinedOddLetters => some joined
  | _ => none

/-- What a character does in front of a joined picture. It is part of the
picture, so it adds nothing, but for a flag letter that may stay alone. -/
def beforeJoined? (character : Char) : Option (Int × EmojiSequence) :=
  let code := character.toNat
  if code = 0x20E3 then some (0, joinedKey)
  else if isFlagLetter character then some (1, joinedFlagLetter)
  else if isSkinTone character then some (0, skinTone)
  else if code = 0xE007F then some (0, tagLetters 0)
  else if isPicture character then some (0, picture)
  else none

/-- Whether a name of a region may end here: three digits with up to four
letters after them, or three to six letters. -/
def isRegion : EmojiSequence → Bool
  | tagLetters count => 3 ≤ count
  | tagDigits count => count = 3
  | _ => false

/-- What a character does in front of the tags that name a region. The black
flag makes them a picture. -/
def beforeTags? (sequence : EmojiSequence) (character : Char) : Option (Int × EmojiSequence) :=
  if character.toNat = 0x1F3F4 then
    if sequence.isRegion then some (0, picture) else none
  else
    match sequence with
    | tagLetters count =>
      if isTagLetter character && count < 6 then some (0, tagLetters (count + 1))
      else if isTagDigit character && count ≤ 4 then some (0, tagDigits 1)
      else none
    | tagDigits count =>
      if isTagDigit character && count < 3 then some (0, tagDigits (count + 1)) else none
    | _ => none

/-- What a character does that a sequence takes in: how many columns it adds,
and the sequence that it begins. A flag before a joined picture is part of it,
so its second letter takes back what the first one added; a third letter shows
that the joined one stands alone. -/
def before? (sequence : EmojiSequence) (character : Char) : Option (Int × EmojiSequence) :=
  if character = joiner then sequence.join?.map fun next => (0, next)
  else
    match sequence with
    | skinTone => if isFigure character then some (0, picture) else none
    | flagLetter | flagLetters => if isFlagLetter character then some (1, flagLetters) else none
    | joined => beforeJoined? character
    | joinedFlagLetter | joinedOddLetters =>
      if isFlagLetter character then some (-1, joinedFlags) else none
    | joinedFlags => if isFlagLetter character then some (3, joinedOddLetters) else none
    | tagLetters _ | tagDigits _ => beforeTags? sequence character
    | picture | joinedKey => none

end EmojiSequence

end FlagEnum.Text
