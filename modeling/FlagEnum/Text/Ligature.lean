import FlagEnum.Text.Columns

/-!
# Ligatures

Letters of some scripts that are drawn as one when they meet. A text is read
from its end, so what is remembered is the later part of a ligature; the
characters before it then decide whether it comes about. Pictures have their own
sequences, in `FlagEnum.Text.EmojiSequence`.
-/

namespace FlagEnum.Text

/-- The ranges of code points that take no column and yet keep the Arabic
letters on their two sides apart. -/
def separatingRanges : List (Nat × Nat) :=
  [ (0x605, 0x605), (0x890, 0x891), (0x8E2, 0x8E2), (0x9BE, 0x9BE), (0x9D7, 0x9D7), (0xB3E, 0xB3E),
    (0xB57, 0xB57), (0xBBE, 0xBBE), (0xBD7, 0xBD7), (0xCC0, 0xCC0), (0xCC2, 0xCC2), (0xCC7, 0xCC8),
    (0xCCA, 0xCCB), (0xCD5, 0xCD6), (0xD3E, 0xD3E), (0xD4E, 0xD4E), (0xD57, 0xD57), (0xDCF, 0xDCF),
    (0xDDF, 0xDDF), (0x1160, 0x11FF), (0x1715, 0x1715), (0x1734, 0x1734), (0x180E, 0x180E),
    (0x1B35, 0x1B35), (0x1B3B, 0x1B3B), (0x1B3D, 0x1B3D), (0x1B43, 0x1B44), (0x1BAA, 0x1BAA),
    (0x1BF2, 0x1BF3), (0x200C, 0x200D), (0x2065, 0x2069), (0x302E, 0x302F), (0x3164, 0x3164),
    (0xA8FA, 0xA8FA), (0xA953, 0xA953), (0xA9C0, 0xA9C0), (0xD7B0, 0xD7C6), (0xD7CB, 0xD7FB),
    (0xFFA0, 0xFFA0), (0xFFF0, 0xFFF8), (0x111C0, 0x111C0), (0x111C2, 0x111C3), (0x11235, 0x11235),
    (0x1133E, 0x1133E), (0x1134D, 0x1134D), (0x11357, 0x11357), (0x113B8, 0x113B8),
    (0x113C2, 0x113C2), (0x113C5, 0x113C5), (0x113C7, 0x113C9), (0x113CF, 0x113CF),
    (0x113D1, 0x113D1), (0x114B0, 0x114B0), (0x114BD, 0x114BD), (0x115AF, 0x115AF),
    (0x116B6, 0x116B6), (0x11930, 0x11930), (0x1193D, 0x1193D), (0x1193F, 0x1193F),
    (0x11941, 0x11941), (0x11A3A, 0x11A3A), (0x11A84, 0x11A89), (0x11D46, 0x11D46),
    (0x11F02, 0x11F02), (0x11F41, 0x11F41), (0x16FF0, 0x16FF1), (0x1D165, 0x1D166),
    (0x1D16D, 0x1D172), (0xE0000, 0xE0000), (0xE0002, 0xE001F), (0xE0080, 0xE00FF),
    (0xE01F0, 0xE0FFF) ]

/-- A character that is passed over between two Arabic letters. -/
def isPassedOver (character : Char) : Bool :=
  columns character = 0 && !inRanges separatingRanges character

/-- An Arabic letter with the shape of lam. -/
def isLam (character : Char) : Bool :=
  inRanges [(0x644, 0x644), (0x6B5, 0x6B8), (0x76A, 0x76A), (0x8A6, 0x8A6), (0x8C7, 0x8C7)]
    character

/-- An Arabic letter with the shape of alef. -/
def isAlef (character : Char) : Bool :=
  inRanges
    [ (0x622, 0x623), (0x625, 0x625), (0x627, 0x627), (0x671, 0x673), (0x675, 0x675),
      (0x773, 0x774), (0x870, 0x882) ]
    character

/-- A Khmer letter that has a form of no width below another letter. -/
def isSubscriptLetter (character : Char) : Bool :=
  inRanges
    [ (0x1780, 0x1782), (0x1784, 0x1787), (0x1789, 0x178C), (0x178E, 0x1793), (0x1795, 0x1798),
      (0x179B, 0x179D), (0x17A0, 0x17A0), (0x17A2, 0x17A2), (0x17A7, 0x17A7), (0x17AB, 0x17AC),
      (0x17AF, 0x17AF) ]
    character

/-- A Tifinagh consonant. -/
def isTifinaghConsonant (character : Char) : Bool :=
  inRanges [(0x2D31, 0x2D65), (0x2D6F, 0x2D6F)] character

/-- The joiner of no width. -/
def joiner : Char := '\u200d'

/-- An ignorable mark, which interrupts no ligature. -/
def isIgnorableMark (character : Char) : Bool :=
  inRanges
    [ (0x34F, 0x34F), (0x17B4, 0x17B5), (0x180B, 0x180D), (0x180F, 0x180F), (0xFE00, 0xFE0F),
      (0xE0100, 0xE01EF) ]
    character

/-- The later part of a ligature; `joined` says that a joiner stands before it. -/
inductive Ligature where
  /-- An Arabic alef: a lam before it takes it in. -/
  | alef
  /-- A Hebrew lamed: a joined alef takes it in. -/
  | lamed (joined : Bool)
  /-- A Buginese ya: a joined vowel sign and its letter take it in. -/
  | ya (joined : Bool)
  /-- A Buginese vowel sign, joined to a ya. -/
  | vowelAndYa
  /-- A Tifinagh consonant: another one takes it in, joined to it. -/
  | consonant (joined : Bool)
  /-- A Tifinagh consonant with the joiner of that script before it. -/
  | linkedConsonant
  /-- A Lisu tone letter that is the second of two. -/
  | toneLetter
  /-- The Old Turkic letter for i: a joined letter for ch takes it in. -/
  | frontVowel (joined : Bool)
  /-- A Khmer letter: the sign before it moves it below the line. -/
  | subscriptLetter
  /-- A Kirat Rai vowel sign e, alone or before pairs of its kind. -/
  | vowelE
  /-- Kirat Rai vowel signs e in pairs, or the sign ai that stands for a pair. -/
  | vowelAi
deriving DecidableEq, Repr

namespace Ligature

/-- The ligature that a character may be the end of. -/
def ofCharacter? (character : Char) : Option Ligature :=
  let code := character.toNat
  if isAlef character then some .alef
  else if code = 0x5DC then some (.lamed false)
  else if isSubscriptLetter character then some .subscriptLetter
  else if code = 0x1A10 then some (.ya false)
  else if isTifinaghConsonant character then some (.consonant false)
  else if inRanges [(0xA4FC, 0xA4FD)] character then some .toneLetter
  else if code = 0x10C03 then some (.frontVowel false)
  else if code = 0x16D67 then some .vowelE
  else if code = 0x16D68 then some .vowelAi
  else none

/-- Whether a style selector leaves a ligature as it is. The vowel signs of
Kirat Rai must stand together. -/
def keepsTogether : Ligature → Bool
  | vowelE | vowelAi => false
  | _ => true

/-- Whether ignorable marks and joiners leave a ligature as it is. Arabic
letters have a rule of their own. -/
def admitsMarks : Ligature → Bool
  | alef | vowelE | vowelAi => false
  | _ => true

/-- A ligature with a joiner before it. -/
def join : Ligature → Ligature
  | lamed _ => lamed true
  | ya _ => ya true
  | consonant _ => consonant true
  | frontVowel _ => frontVowel true
  | other => other

/-- What a character does that a ligature takes in: how many columns it adds,
and what may still follow. -/
def before? (ligature : Ligature) (character : Char) : Option (Int × Option Ligature) :=
  let code := character.toNat
  match ligature with
  | alef =>
    if isLam character then some (0, none)
    else if isPassedOver character then some (0, some alef)
    else none
  | lamed joined => if joined && code = 0x5D0 then some (0, none) else none
  | ya joined => if joined && code = 0x1A17 then some (0, some vowelAndYa) else none
  | vowelAndYa => if code = 0x1A15 then some (0, none) else none
  | consonant joined =>
    if code = 0x2D7F then some (1, some linkedConsonant)
    else if joined && isTifinaghConsonant character then some (0, none)
    else none
  | linkedConsonant => if isTifinaghConsonant character then some (-1, none) else none
  | toneLetter => if 0xA4F8 ≤ code && code ≤ 0xA4FB then some (0, none) else none
  | frontVowel joined => if joined && code = 0x10C32 then some (0, none) else none
  | subscriptLetter => if code = 0x17D2 then some (-1, none) else none
  | vowelE =>
    if code = 0x16D63 || code = 0x16D69 then some (0, none)
    else if code = 0x16D67 then some (0, some vowelAi)
    else if code = 0x16D68 then some (1, some vowelE)
    else none
  | vowelAi => if code = 0x16D63 then some (0, none) else none

end Ligature

end FlagEnum.Text
