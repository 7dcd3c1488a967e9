import FlagEnum.Text.EmojiSequence

/-!
# Columns of a text

How many columns a text takes. That is the sum over its characters, but for
ligatures, emoji sequences and characters with a style selector after them. A
text is measured from its end, because what a character adds depends on the
characters after it.
-/

namespace FlagEnum.Text

/-- A character that chooses how the one before it is drawn. -/
inductive Selector where
  /-- As text, and as narrow as a letter. -/
  | text
  /-- As a picture. -/
  | emoji
  /-- As a quotation mark of full width. -/
  | fullWidth
deriving DecidableEq, Repr

/-- The selector that a character is. -/
def Selector.ofCharacter? (character : Char) : Option Selector :=
  let code := character.toNat
  if code = 0xFE01 then some .fullWidth
  else if code = 0xFE0E then some .text
  else if code = 0xFE0F then some .emoji
  else none

/-- What a text begins with, as far as the characters before it may change what
it takes. -/
inductive Opening where
  | plain
  | ligature (ligature : Ligature)
  | emoji (sequence : EmojiSequence)
deriving DecidableEq, Repr

namespace Opening

/-- The opening that a character makes on its own. -/
def ofCharacter (character : Char) : Opening :=
  match Ligature.ofCharacter? character, EmojiSequence.ofCharacter? character with
  | some part, _ => ligature part
  | none, some sequence => emoji sequence
  | none, none => plain

/-- Whether an opening stays what it is when a selector follows the character
before it. -/
def outlasts (selector : Selector) : Opening → Bool
  | plain => false
  | ligature part => part.keepsTogether
  | emoji sequence => selector = .emoji && sequence.isJoined

/-- An opening after a selector that did not apply to the character before it. -/
def release : Opening → Opening
  | ligature part => if part.keepsTogether then ligature part else plain
  | _ => plain

/-- What a character adds and opens because of the selector after it. -/
def selected? (opening : Opening) (selector : Selector) (character : Char) :
    Option (Int × Opening) :=
  match selector with
  | .emoji =>
    if isStyled character then
      let joined := match opening with
        | emoji sequence => sequence.isJoined
        | _ => false
      some (if joined then 0 else 2, emoji .picture)
    else none
  | .text => if isNarrowed character then some (1, plain) else none
  | .fullWidth =>
    if inRanges [(0x2018, 0x2019), (0x201C, 0x201D)] character then some (2, plain) else none

/-- What a character adds and opens together with the opening after it. -/
def before? (opening : Opening) (character : Char) : Option (Int × Opening) :=
  match opening with
  | plain => none
  | ligature part =>
    if part.admitsMarks && character = joiner then some (0, ligature part.join)
    else if part.admitsMarks && isIgnorableMark character then some (0, ligature part)
    else
      (part.before? character).map fun (added, next) =>
        (added, (next.map ligature).getD plain)
  | emoji sequence => (sequence.before? character).map fun (added, next) => (added, emoji next)

end Opening

/-- A measured text: its columns, what it begins with, and the selector that it
begins with, if any. -/
structure Measure where
  columns : Int
  opening : Opening
  selector : Option Selector
deriving DecidableEq, Repr

namespace Measure

/-- The measure of no text. -/
def empty : Measure := ⟨0, .plain, none⟩

/-- The measure of a text with one more character before it, where no selector
stands between them. -/
def extendPlain (columns : Int) (opening : Opening) (character : Char) : Measure :=
  match Selector.ofCharacter? character with
  | some selector =>
    ⟨columns, if opening.outlasts selector then opening else .plain, some selector⟩
  | none =>
    let (added, next) := (opening.before? character).getD
      (Text.columns character, Opening.ofCharacter character)
    ⟨columns + added, next, none⟩

/-- The measure of a text with one more character before it. -/
def extend (character : Char) (rest : Measure) : Measure :=
  match rest.selector with
  | none => extendPlain rest.columns rest.opening character
  | some selector =>
    match rest.opening.selected? selector character with
    | some (added, opening) => ⟨rest.columns + added, opening, none⟩
    | none => extendPlain rest.columns rest.opening.release character

end Measure

/-- The measure of a text. -/
def measure (text : List Char) : Measure :=
  text.foldr Measure.extend .empty

/-- The columns that a text takes. -/
def width (text : List Char) : Nat :=
  (measure text).columns.toNat

end FlagEnum.Text
