import FlagEnum.Toml.Line

/-!
# Quoted texts

The four quotations of TOML: with escapes or without, within a line or over
several. One automaton scans them all, one character at a time.
-/

namespace FlagEnum.Toml

/-- The rules of a quotation. -/
structure Quotation where
  /-- The character that opens and closes it. -/
  quote : Char
  /-- Whether backslashes escape. -/
  escapes : Bool
  /-- Whether it may span lines, with three quotes at each end. -/
  lines : Bool
deriving DecidableEq, Repr

namespace Quotation

/-- Where the scan of a quotation stands. -/
inductive Phase where
  | plain
  /-- After some quotes in a row, which may turn out to close the text. -/
  | quotes (count : Nat)
  /-- After a backslash. -/
  | escaped
  /-- Inside the digits of a code point. -/
  | code (missing : Nat) (number : Nat)
  /-- After a backslash and blanks: the line must end. -/
  | lineEnd
  /-- After such a line end: all blank space is dropped. -/
  | margin
deriving DecidableEq, Repr

/-- What one character does to the scan. -/
inductive Step where
  /-- The scan goes on, with these characters added to the text. -/
  | more (phase : Phase) (added : List Char)
  /-- The quotation ends with the character. -/
  | endsWith (added : List Char)
  /-- The quotation ended before the character. -/
  | endsBefore (added : List Char)
deriving DecidableEq, Repr

/-- The same step with characters added before its own. -/
def Step.preceded (before : List Char) : Step → Step
  | more phase added => more phase (before ++ added)
  | endsWith added => endsWith (before ++ added)
  | endsBefore added => endsBefore (before ++ added)

/-- The character of a one-letter escape. -/
def escape? (character : Char) : Option Char :=
  let code := character.toNat
  if code = 0x22 || code = 0x5C then some character
  else if character = 'b' then some '\x08'
  else if character = 't' then some '\t'
  else if character = 'n' then some '\n'
  else if character = 'f' then some '\x0c'
  else if character = 'r' then some '\r'
  else if character = 'e' then some '\x1b'
  else none

/-- The digits of the escapes that give a code point. -/
def codeLength? (character : Char) : Option Nat :=
  if character = 'x' then some 2
  else if character = 'u' then some 4
  else if character = 'U' then some 8
  else none

/-- The number that a hexadecimal digit of either case stands for. -/
def hexValue? (character : Char) : Option Nat :=
  let code := character.toNat
  if 0x30 ≤ code && code ≤ 0x39 then some (code - 0x30)
  else if 0x41 ≤ code && code ≤ 0x46 then some (code - 0x41 + 10)
  else if 0x61 ≤ code && code ≤ 0x66 then some (code - 0x61 + 10)
  else none

/-- The character of a code point, unless it is a surrogate or too large. -/
def character? (code : Nat) : Option Char :=
  if code < 0xD800 || (0xE000 ≤ code && code ≤ 0x10FFFF) then some (Char.ofNat code) else none

/-- Whether a character is, or starts, the end of a line. -/
def startsNewLine (character : Char) (rest : List Char) : Bool :=
  character = '\n' || (character = '\r' && startsLineFeed rest)

/-- The step at a character outside escapes. -/
def plainStep (quotation : Quotation) (character : Char) (rest : List Char) : Option Step :=
  if character = quotation.quote then
    some (if quotation.lines then .more (.quotes 1) [] else .endsWith [])
  else if character = '\x5c' && quotation.escapes then some (.more .escaped [])
  else if isPlain character || (quotation.lines && startsNewLine character rest) then
    some (.more .plain [character])
  else none

/-- The step at a character after `count` quotes in a row. Three close the
text, and up to two more before them belong to it. -/
def quoteStep (quotation : Quotation) (count : Nat) (character : Char) (rest : List Char) :
    Option Step :=
  if character = quotation.quote then
    some (if count = 4 then .endsWith [character, character] else .more (.quotes (count + 1)) [])
  else if 3 ≤ count then some (.endsBefore (List.replicate (count - 3) quotation.quote))
  else
    (plainStep quotation character rest).map
      (Step.preceded (List.replicate count quotation.quote))

/-- The step at a character after a backslash and blanks. -/
def lineEndStep (character : Char) (rest : List Char) : Option Step :=
  if character = '\n' then some (.more .margin [])
  else if isBlank character || startsNewLine character rest then some (.more .lineEnd [])
  else none

/-- The step at the character after a backslash. -/
def escapeStep (quotation : Quotation) (character : Char) (rest : List Char) : Option Step :=
  match codeLength? character with
  | some length => some (.more (.code length 0) [])
  | none =>
    match escape? character with
    | some plain => some (.more .plain [plain])
    | none => if quotation.lines then lineEndStep character rest else none

/-- The step of the scan at one character; `rest` is the text after it. -/
def step (quotation : Quotation) (phase : Phase) (character : Char) (rest : List Char) :
    Option Step :=
  match phase with
  | .plain => plainStep quotation character rest
  | .quotes count => quoteStep quotation count character rest
  | .escaped => escapeStep quotation character rest
  | .code missing number => do
    let next := number * 16 + (← hexValue? character)
    if missing ≤ 1 then return .more .plain [← character? next]
    else return .more (.code (missing - 1) next) []
  | .lineEnd => lineEndStep character rest
  | .margin =>
    if isBlank character || startsNewLine character rest then some (.more .margin [])
    else plainStep quotation character rest

/-- Scans on from a phase, onto the characters already scanned in reverse. -/
def scanFrom (quotation : Quotation) (phase : Phase) (scanned : List Char) :
    List Char → Option (List Char × List Char)
  | [] =>
    match phase with
    | .quotes count =>
      if 3 ≤ count then
        some (scanned.reverse ++ List.replicate (count - 3) quotation.quote, [])
      else none
    | _ => none
  | character :: rest =>
    match step quotation phase character rest with
    | none => none
    | some (.more phase added) => scanFrom quotation phase (added.reverse ++ scanned) rest
    | some (.endsWith added) => some (scanned.reverse ++ added, rest)
    | some (.endsBefore added) => some (scanned.reverse ++ added, character :: rest)

/-- Scans a quotation after its opening quotes. -/
def scan (quotation : Quotation) : Scanner String := fun input => do
  let (text, rest) ← scanFrom quotation .plain [] input
  return (String.ofList text, rest)

end Quotation

/-- A quotation within a line, with escapes. -/
def basicQuotation : Quotation := ⟨'\x22', true, false⟩

/-- A quotation within a line, without escapes. -/
def literalQuotation : Quotation := ⟨'\x27', false, false⟩

/-- A quotation over several lines, with escapes. -/
def basicLines : Quotation := ⟨'\x22', true, true⟩

/-- A quotation over several lines, without escapes. -/
def literalLines : Quotation := ⟨'\x27', false, true⟩

/-- Drops the end of line that directly follows the opening quotes. -/
def dropFirstLine : List Char → List Char
  | '\n' :: rest => rest
  | '\r' :: '\n' :: rest => rest
  | input => input

/-- Scans a quoted text of any kind. -/
def quotedText : Scanner String
  | '\x22' :: '\x22' :: '\x22' :: rest => basicLines.scan (dropFirstLine rest)
  | '\x22' :: rest => basicQuotation.scan rest
  | '\x27' :: '\x27' :: '\x27' :: rest => literalLines.scan (dropFirstLine rest)
  | '\x27' :: rest => literalQuotation.scan rest
  | _ => none

/-- A character of a key without quotes. -/
def isKeyCharacter (character : Char) : Bool :=
  character.isAlphanum || character == '_' || character == '-'

/-- Scans one part of a key. Quoted parts stay within their line. -/
def keyPart : Scanner String
  | '\x22' :: rest => basicQuotation.scan rest
  | '\x27' :: rest => literalQuotation.scan rest
  | input =>
    match input.takeWhile isKeyCharacter with
    | [] => none
    | characters => some (String.ofList characters, input.dropWhile isKeyCharacter)

/-- Scans the further parts of a dotted key. Every part takes a character, so
`fuel` from the length of the input is never used up. -/
def keyParts : (fuel : Nat) → List String → Scanner (List String)
  | 0, parts, input => some (parts.reverse, input)
  | fuel + 1, parts, input =>
    match dropBlanks input with
    | '.' :: rest =>
      match keyPart (dropBlanks rest) with
      | none => none
      | some (part, rest) => keyParts fuel (part :: parts) rest
    | other => some (parts.reverse, other)

/-- Scans a dotted key into the path before its last part, and that part. -/
def key : Scanner (List String × String) := fun input => do
  let (first, rest) ← keyPart (dropBlanks input)
  let (parts, rest) ← keyParts rest.length [first] rest
  let last ← parts.getLast?
  return ((parts.dropLast, last), rest)

end FlagEnum.Toml
