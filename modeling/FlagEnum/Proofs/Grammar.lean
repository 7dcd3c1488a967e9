import FlagEnum.Json.Skip
import FlagEnum.Proofs.Scanning

/-!
# The grammar of JSON texts

All texts that JSON allows: a quoted text with any of the escapes that its
characters may have, and a value of any kind and depth, with blanks wherever
they may stand. The scanners of quoted texts read all of them back.
-/

namespace FlagEnum.Json

/-! ## Quoted texts -/

/-- A hexadecimal digit of either case, and the number it stands for. -/
def HexDigit (digit : Char) (number : Nat) : Prop :=
  number < 16 ∧ (digit = Nat.digitChar number ∨ digit = (Nat.digitChar number).toUpper)

/-- The four digits of a code unit. -/
inductive CodeUnit : List Char → Nat → Prop where
  | mk {first second third fourth : Char} {a b c d : Nat} (isFirst : HexDigit first a)
      (isSecond : HexDigit second b) (isThird : HexDigit third c) (isFourth : HexDigit fourth d) :
      CodeUnit [first, second, third, fourth] (((a * 16 + b) * 16 + c) * 16 + d)

/-- The letters of short escapes, and the characters they stand for. -/
def shortEscapes : List (Char × Char) :=
  [ ('\x22', '\x22'), ('\x5c', '\x5c'), ('/', '/'), ('b', '\x08'), ('f', '\x0c'), ('n', '\n'),
    ('r', '\r'), ('t', '\t') ]

/-- A character that may stand between quotes as it is. -/
structure Unescaped (character : Char) : Prop where
  printable : 0x20 ≤ character.toNat
  notQuote : character ≠ '\x22'
  notBackslash : character ≠ '\x5c'

instance (character : Char) : Decidable (Unescaped character) :=
  decidable_of_iff (0x20 ≤ character.toNat ∧ character ≠ '\x22' ∧ character ≠ '\x5c')
    ⟨fun ⟨printable, notQuote, notBackslash⟩ => ⟨printable, notQuote, notBackslash⟩,
      fun ⟨printable, notQuote, notBackslash⟩ => ⟨printable, notQuote, notBackslash⟩⟩

/-- The texts of a character between quotes. One outside the first plane is a
pair of code units. -/
inductive SpellsCharacter : Char → List Char → Prop where
  | plain {character : Char} (unescaped : Unescaped character) :
      SpellsCharacter character [character]
  | short {letter character : Char} (listed : (letter, character) ∈ shortEscapes) :
      SpellsCharacter character ['\x5c', letter]
  | unit {character : Char} {digits : List Char} (isUnit : CodeUnit digits character.toNat) :
      SpellsCharacter character ('\x5c' :: 'u' :: digits)
  | pair {character : Char} {digits otherDigits : List Char} {leading trailing : Nat}
      (isUnit : CodeUnit digits (0xD800 + leading)) (small : leading < 0x400)
      (isOtherUnit : CodeUnit otherDigits (0xDC00 + trailing)) (otherSmall : trailing < 0x400)
      (isCharacter : character.toNat = 0x10000 + leading * 0x400 + trailing) :
      SpellsCharacter character ('\x5c' :: 'u' :: digits ++ '\x5c' :: 'u' :: otherDigits)

/-- The texts of characters one after the other between quotes. -/
inductive SpellsCharacters : List Char → List Char → Prop where
  | none : SpellsCharacters [] []
  | next {character : Char} {characters front rest : List Char}
      (spells : SpellsCharacter character front) (others : SpellsCharacters characters rest) :
      SpellsCharacters (character :: characters) (front ++ rest)

/-- Characters that need no escape may spell themselves. -/
theorem spellsCharacters_unescaped {characters : List Char}
    (unescaped : characters.all (Unescaped ·) = true) : SpellsCharacters characters characters := by
  induction characters with
  | nil => exact .none
  | cons character others inductionHypothesis =>
    rw [List.all_cons, Bool.and_eq_true, decide_eq_true_eq] at unescaped
    exact .next (.plain unescaped.1) (inductionHypothesis unescaped.2)

/-- The texts of a string with its quotes. -/
def SpellsString (value : String) (text : List Char) : Prop :=
  ∃ inside, SpellsCharacters value.toList inside ∧ text = '\x22' :: inside ++ ['\x22']

/-- What may stand between quotes where nobody asks for the characters: code
units need not make up characters. -/
inductive IsQuoted : List Char → Prop where
  | none : IsQuoted []
  | plain {character : Char} {rest : List Char} (unescaped : Unescaped character)
      (others : IsQuoted rest) : IsQuoted (character :: rest)
  | short {letter character : Char} {rest : List Char}
      (listed : (letter, character) ∈ shortEscapes) (others : IsQuoted rest) :
      IsQuoted ('\x5c' :: letter :: rest)
  | unit {digits rest : List Char} {number : Nat} (isUnit : CodeUnit digits number)
      (others : IsQuoted rest) : IsQuoted ('\x5c' :: 'u' :: digits ++ rest)

/-! ## Numbers -/

/-- One or more decimal digits. -/
def IsDigits (text : List Char) : Prop :=
  text ≠ [] ∧ ∀ digit ∈ text, isDecimalDigit digit = true

/-- The digits before the point: a zero alone, or digits that do not start with
one. -/
inductive IsWhole : List Char → Prop where
  | zero : IsWhole ['0']
  | digits {first : Char} {others : List Char} (notZero : first ≠ '0')
      (isDigits : IsDigits (first :: others)) : IsWhole (first :: others)

/-- The point and the digits after it, if any. -/
inductive IsFraction : List Char → Prop where
  | none : IsFraction []
  | digits {digits : List Char} (isDigits : IsDigits digits) : IsFraction ('.' :: digits)

/-- The exponent with its mark and its sign, if any. -/
inductive IsExponent : List Char → Prop where
  | none : IsExponent []
  | digits {mark : Char} {sign digits : List Char} (isMark : mark = 'e' ∨ mark = 'E')
      (isSign : sign = [] ∨ sign = ['+'] ∨ sign = ['-']) (isDigits : IsDigits digits) :
      IsExponent (mark :: sign ++ digits)

/-- A number of any size. -/
inductive IsNumber : List Char → Prop where
  | mk {sign whole fraction exponent : List Char} (isSign : sign = [] ∨ sign = ['-'])
      (isWhole : IsWhole whole) (isFraction : IsFraction fraction)
      (isExponent : IsExponent exponent) : IsNumber (sign ++ whole ++ fraction ++ exponent)

/-! ## Values -/

mutual

/-- A text of some value. -/
inductive IsValue : List Char → Prop where
  | null : IsValue ['n', 'u', 'l', 'l']
  | boolean (value : Bool) : IsValue (truth value)
  | number {text : List Char} (isNumber : IsNumber text) : IsValue text
  | string {inside : List Char} (isQuoted : IsQuoted inside) :
      IsValue ('\x22' :: inside ++ ['\x22'])
  | array {text : List Char} (inside : IsItems true text) : IsValue ('[' :: text ++ [']'])
  | object {text : List Char} (inside : IsFields true text) :
      IsValue ('\x7b' :: text ++ ['\x7d'])

/-- A text of some items up to the closing bracket, from the first on or from a
later one. -/
inductive IsItems : Bool → List Char → Prop where
  | none {first : Bool} {blank : List Char} (isBlank : Blank blank) : IsItems first blank
  | next {first : Bool} {mark text rest : List Char} (separates : Separates first mark)
      (isValue : IsValue text) (others : IsItems false rest) :
      IsItems first (mark ++ text ++ rest)

/-- A text of some fields up to the closing brace, from the first on or from a
later one. -/
inductive IsFields : Bool → List Char → Prop where
  | none {first : Bool} {blank : List Char} (isBlank : Blank blank) : IsFields first blank
  | next {first : Bool} {mark key before after text rest : List Char}
      (separates : Separates first mark) (isKey : IsQuoted key) (isBlankBefore : Blank before)
      (isBlankAfter : Blank after) (isValue : IsValue text) (others : IsFields false rest) :
      IsFields first
        (mark ++ '\x22' :: key ++ '\x22' :: before ++ ':' :: after ++ text ++ rest)

end

/-- A text at which the value before it is over. -/
def Stops (text : List Char) : Prop :=
  ∀ character ∈ text.head?, isSpace character = true ∨ character ∈ [',', ']', '\x7d']

/-! ## Reading quoted texts back -/

/-- A hexadecimal digit is read as its number. -/
theorem hexValue?_of_hexDigit {digit : Char} {number : Nat} (isDigit : HexDigit digit number) :
    hexValue? digit = some number := by
  have each : ∀ number < 16, hexValue? (Nat.digitChar number) = some number ∧
      hexValue? (Nat.digitChar number).toUpper = some number := by decide
  obtain ⟨small, rfl | rfl⟩ := isDigit
  · exact (each number small).1
  · exact (each number small).2

/-- Four digits are long enough for a code unit. -/
theorem endsBeforeHex_of_codeUnit {digits : List Char} {number : Nat}
    (isUnit : CodeUnit digits number) (rest : List Char) :
    endsBeforeHex (digits ++ rest) = false := by
  cases isUnit with
  | @mk first second third fourth =>
    have sizes := And.intro first.utf8Size_pos
      (And.intro second.utf8Size_pos (And.intro third.utf8Size_pos fourth.utf8Size_pos))
    simp only [endsBeforeHex, List.cons_append, List.nil_append, List.take_succ_cons,
      List.take_zero, Text.byteCount, List.foldl_cons, List.foldl_nil]
    apply decide_eq_false
    omega

/-- A digit of a code unit before the last. -/
theorem textFrom_hexDigit {digit : Char} {value missing : Nat} (isDigit : HexDigit digit value)
    (more : ¬missing ≤ 1) (lead : Option Nat) (number : Nat) (scanned rest : List Char) :
    textFrom (.unit lead missing number) scanned (digit :: rest) =
      textFrom (.unit lead (missing - 1) (number * 16 + value)) scanned rest := by
  rw [textFrom, hexValue?_of_hexDigit isDigit]
  exact if_neg more

/-- The digits of a code unit are read up to the last of them. -/
theorem textFrom_codeUnit {digits : List Char} {number : Nat} (isUnit : CodeUnit digits number)
    (lead : Option Nat) (scanned rest : List Char) :
    textFrom (.unit lead 4 0) scanned (digits ++ rest) =
      match closeUnit lead number with
      | .error fault => .error (fault.before rest)
      | .ok (.inl plain) => textFrom .plain (plain :: scanned) rest
      | .ok (.inr phase) => textFrom phase scanned rest := by
  cases isUnit with
  | @mk _ _ _ _ a b c d isFirst isSecond isThird isFourth =>
    simp only [List.cons_append, List.nil_append]
    rw [textFrom_hexDigit isFirst (by decide), textFrom_hexDigit isSecond (by decide),
      textFrom_hexDigit isThird (by decide), Nat.zero_mul, Nat.zero_add]
    rcases closed : closeUnit lead (((a * 16 + b) * 16 + c) * 16 + d) with fault | plain | phase <;>
      simp [textFrom, hexValue?_of_hexDigit isFourth, closed]

private theorem closeUnit_character (character : Char) :
    closeUnit none character.toNat = .ok (.inl character) := by
  have valid : character.toNat < 0xD800 ∨ 0xDFFF < character.toNat ∧ character.toNat < 0x110000 :=
    character.valid
  have notTrailing : isTrailing character.toNat = false := by
    simp only [isTrailing, Bool.and_eq_false_iff, decide_eq_false_iff_not]
    omega
  have notLeading : isLeading character.toNat = false := by
    simp only [isLeading, Bool.and_eq_false_iff, decide_eq_false_iff_not]
    omega
  simp only [closeUnit, notTrailing, notLeading, Bool.false_eq_true, if_false, Char.ofNat_toNat]

/-- Every text of a character gives the character back. -/
theorem textFrom_spelled {character : Char} {front : List Char}
    (spells : SpellsCharacter character front) (scanned rest : List Char) :
    textFrom .plain scanned (front ++ rest) = textFrom .plain (character :: scanned) rest := by
  have opened : ∀ {digits : List Char} {number : Nat}, CodeUnit digits number →
      ∀ rest, textFrom .plain scanned ('\x5c' :: 'u' :: digits ++ rest) =
        textFrom (.unit none 4 0) scanned (digits ++ rest) := by
    intro digits number isUnit rest
    simp [textFrom, endsBeforeHex_of_codeUnit isUnit]
  cases spells with
  | plain unescaped =>
    rw [List.singleton_append, textFrom, if_neg unescaped.notQuote, if_neg unescaped.notBackslash,
      if_neg (Nat.not_lt.mpr unescaped.printable)]
  | short listed =>
    have escapes : ∀ entry ∈ shortEscapes,
        entry.1 ≠ 'u' ∧ simpleEscape? entry.1 = some entry.2 := by decide
    obtain ⟨notUnit, isEscape⟩ := escapes _ listed
    simp [textFrom, notUnit, isEscape]
  | unit isUnit =>
    rw [opened isUnit, textFrom_codeUnit isUnit, closeUnit_character]
  | @pair _ digits otherDigits leading trailing isUnit small isOtherUnit otherSmall isCharacter =>
    have isLeading : closeUnit none (0xD800 + leading) =
        .ok (.inr (.partnerMark (0xD800 + leading))) := by
      have notTrailing : isTrailing (0xD800 + leading) = false := by
        simp only [isTrailing, Bool.and_eq_false_iff, decide_eq_false_iff_not]
        omega
      have isLeading : Json.isLeading (0xD800 + leading) = true := by
        simp only [Json.isLeading, Bool.and_eq_true, decide_eq_true_eq]
        omega
      simp only [closeUnit, notTrailing, isLeading, Bool.false_eq_true, if_false, if_true]
    have isTrailing : closeUnit (some (0xD800 + leading)) (0xDC00 + trailing) =
        .ok (.inl character) := by
      have isTrailing : Json.isTrailing (0xDC00 + trailing) = true := by
        simp only [Json.isTrailing, Bool.and_eq_true, decide_eq_true_eq]
        omega
      simp only [closeUnit, isTrailing, if_true, Nat.add_sub_cancel_left, ← isCharacter,
        Char.ofNat_toNat]
    have partner : textFrom (.partnerMark (0xD800 + leading)) scanned
          ('\x5c' :: 'u' :: otherDigits ++ rest) =
        textFrom (.unit (some (0xD800 + leading)) 4 0) scanned (otherDigits ++ rest) := by
      simp [textFrom, endsBeforeHex_of_codeUnit isOtherUnit]
    -- The first unit gives no character; it only makes the scanner wait for its partner.
    rw [List.append_assoc, opened isUnit, textFrom_codeUnit isUnit, isLeading]
    dsimp only
    rw [partner, textFrom_codeUnit isOtherUnit, isTrailing]

private theorem textFrom_spelledAll {characters inside : List Char}
    (spells : SpellsCharacters characters inside) (scanned rest : List Char) :
    textFrom .plain scanned (inside ++ '\x22' :: rest) =
      .ok (scanned.reverse ++ characters, rest) := by
  induction spells generalizing scanned with
  | none => simp [textFrom]
  | next spells _ inductionHypothesis =>
    rw [List.append_assoc, textFrom_spelled spells, inductionHypothesis]
    simp

/-- Every text of a string gives the string back. -/
theorem quotedText_spelled {value : String} {inside : List Char}
    (spells : SpellsCharacters value.toList inside) (rest : List Char) :
    quotedText (inside ++ '\x22' :: rest) = .ok (value, rest) := by
  rw [quotedText, textFrom_spelledAll spells]
  simp [bind, Except.bind, pure, Except.pure]

end FlagEnum.Json
