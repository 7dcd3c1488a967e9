import FlagEnum.Json.Fault

/-!
# Tokens of a JSON text

Scanners for what the formats share: blanks, fixed words, quoted texts, and the
marks between the elements of arrays and the entries of objects. A scanner
takes the text from its point on and returns what it read with the rest. The
first fault in the order of the text is the one reported, with its place.
-/

namespace FlagEnum.Json

/-- A scanner of one thing. -/
abbrev Scanner (α : Type) := List Char → Except Refusal (α × List Char)

/-- The four characters that may stand between tokens. -/
def isSpace (character : Char) : Bool :=
  character == ' ' || character == '\t' || character == '\n' || character == '\r'

/-- Moves to the next token. -/
def dropSpace (input : List Char) : List Char :=
  input.dropWhile isSpace

/-- The number that a hexadecimal digit of either case stands for. -/
def hexValue? (character : Char) : Option Nat :=
  let code := character.toNat
  if 0x30 ≤ code && code ≤ 0x39 then some (code - 0x30)
  else if 0x41 ≤ code && code ≤ 0x46 then some (code - 0x41 + 10)
  else if 0x61 ≤ code && code ≤ 0x66 then some (code - 0x61 + 10)
  else none

/-- Whether too little of the text is left for four hexadecimal digits. The
count is in bytes, so one character beyond ASCII may stand for several. -/
def endsBeforeHex (input : List Char) : Bool :=
  Text.byteCount (input.take 4) < 4

/-- Scans the rest of a fixed word. -/
def word : List Char → List Char → Except Refusal (List Char)
  | [], input => .ok input
  | _ :: _, [] => .error Fault.endInValue.atEnd
  | expected :: others, character :: rest =>
    if character = expected then word others rest
    else .error (Fault.expectedWord.shownBy (character :: rest))

/-! ## Quoted texts -/

/-- Where the scan of a quoted text stands. -/
inductive TextPhase where
  | plain
  /-- After a backslash. -/
  | escaped
  /-- Inside the digits of a code unit, with the leading surrogate before it,
  if any, the digits still to come and the number so far. -/
  | unit (lead : Option Nat) (missing : Nat) (number : Nat)
  /-- After a leading surrogate: the backslash of its partner must follow. -/
  | partnerMark (lead : Nat)
  /-- After that backslash: the `u` must follow. -/
  | partnerLetter (lead : Nat)
deriving DecidableEq, Repr

/-- The character of a two-character escape. -/
def simpleEscape? (character : Char) : Option Char :=
  let code := character.toNat
  if code = 0x22 || code = 0x5C || code = 0x2F then some character
  else if character = 'b' then some '\x08'
  else if character = 'f' then some '\x0c'
  else if character = 'n' then some '\n'
  else if character = 'r' then some '\r'
  else if character = 't' then some '\t'
  else none

/-- Whether a code unit is the first of a surrogate pair. -/
def isLeading (unit : Nat) : Bool := 0xD800 ≤ unit && unit ≤ 0xDBFF

/-- Whether a code unit is the second of a surrogate pair. -/
def isTrailing (unit : Nat) : Bool := 0xDC00 ≤ unit && unit ≤ 0xDFFF

/-- What a complete code unit adds to the text, or the phase that it leads to. -/
def closeUnit (lead : Option Nat) (unit : Nat) : Except Fault (Char ⊕ TextPhase) :=
  match lead with
  | some first =>
    if isTrailing unit then
      .ok (.inl (Char.ofNat (0x10000 + (first - 0xD800) * 0x400 + (unit - 0xDC00))))
    else .error .loneSurrogate
  | none =>
    if isTrailing unit then .error .loneSurrogate
    else if isLeading unit then .ok (.inr (.partnerMark unit))
    else .ok (.inl (Char.ofNat unit))

/-- Scans a quoted text after its opening quote, onto the characters already
scanned in reverse. -/
def textFrom (phase : TextPhase) (scanned : List Char) :
    List Char → Except Refusal (List Char × List Char)
  | [] => .error Fault.endInText.atEnd
  | character :: rest =>
    match phase with
    | .plain =>
      if character = '\x22' then .ok (scanned.reverse, rest)
      else if character = '\x5c' then textFrom .escaped scanned rest
      else if character.toNat < 0x20 then
        .error (Fault.controlCharacter.shownBy (character :: rest))
      else textFrom .plain (character :: scanned) rest
    | .escaped =>
      if character = 'u' then
        if endsBeforeHex rest then .error Fault.endInText.atEnd
        else textFrom (.unit none 4 0) scanned rest
      else
        match simpleEscape? character with
        | some plain => textFrom .plain (plain :: scanned) rest
        | none => .error (Fault.invalidEscape.shownBy (character :: rest))
    | .unit lead missing number =>
      match hexValue? character with
      | none => .error (Fault.invalidEscape.within missing (character :: rest))
      | some digit =>
        let next := number * 16 + digit
        if missing ≤ 1 then
          match closeUnit lead next with
          | .error fault => .error (fault.before rest)
          | .ok (.inl plain) => textFrom .plain (plain :: scanned) rest
          | .ok (.inr phase) => textFrom phase scanned rest
        else textFrom (.unit lead (missing - 1) next) scanned rest
    | .partnerMark lead =>
      if character = '\x5c' then textFrom (.partnerLetter lead) scanned rest
      else .error (Fault.unfinishedSurrogate.shownBy (character :: rest))
    | .partnerLetter lead =>
      if character = 'u' then
        if endsBeforeHex rest then .error Fault.endInText.atEnd
        else textFrom (.unit (some lead) 4 0) scanned rest
      else .error (Fault.unfinishedSurrogate.shownBy (character :: rest))

/-- Scans a quoted text after its opening quote. -/
def quotedText : Scanner String := fun input => do
  let (characters, rest) ← textFrom .plain [] input
  return (String.ofList characters, rest)

/-! ## Marks between elements and entries -/

/-- Moves to the next element of an array, if there is one. The closing bracket
is left for `closeList`. -/
def nextElement (first : Bool) (input : List Char) : Except Refusal (Option (List Char)) :=
  match dropSpace input with
  | [] => .error Fault.endInList.atEnd
  | ']' :: _ => .ok none
  | ',' :: rest =>
    if first then .ok (some (',' :: rest))
    else
      match dropSpace rest with
      | [] => .error Fault.endInValue.atEnd
      | ']' :: rest => .error (Fault.trailingComma.shownBy (']' :: rest))
      | other => .ok (some other)
  | other =>
    if first then .ok (some other) else .error (Fault.expectedCommaOrBracket.shownBy other)

/-- Closes an array of which all expected elements were read. -/
def closeList (input : List Char) : Except Refusal (List Char) :=
  match dropSpace input with
  | [] => .error Fault.endInList.atEnd
  | ']' :: rest => .ok rest
  | ',' :: rest =>
    match dropSpace rest with
    | ']' :: rest => .error (Fault.trailingComma.shownBy (']' :: rest))
    | other => .error (Fault.trailingCharacters.shownBy other)
  | other => .error (Fault.trailingCharacters.shownBy other)

/-- Where an object continues. -/
inductive Entry where
  /-- After the quote that opens the next key. -/
  | key (rest : List Char)
  /-- After the closing brace. -/
  | closed (rest : List Char)
deriving DecidableEq, Repr

/-- Moves to the next key of an object, or past its end. -/
def nextEntry (first : Bool) (input : List Char) : Except Refusal Entry :=
  match dropSpace input with
  | [] => .error Fault.endInObject.atEnd
  | '\x7d' :: rest => .ok (.closed rest)
  | '\x22' :: rest =>
    if first then .ok (.key rest)
    else .error (Fault.expectedCommaOrBrace.shownBy ('\x22' :: rest))
  | ',' :: rest =>
    if first then .error (Fault.keyNotText.shownBy (',' :: rest))
    else
      match dropSpace rest with
      | [] => .error Fault.endInValue.atEnd
      | '\x22' :: rest => .ok (.key rest)
      | '\x7d' :: rest => .error (Fault.trailingComma.shownBy ('\x7d' :: rest))
      | other => .error (Fault.keyNotText.shownBy other)
  | other =>
    let fault := if first then Fault.keyNotText else Fault.expectedCommaOrBrace
    .error (fault.shownBy other)

/-- Moves past the colon after a key. -/
def colon (input : List Char) : Except Refusal (List Char) :=
  match dropSpace input with
  | [] => .error Fault.endInObject.atEnd
  | ':' :: rest => .ok rest
  | other => .error (Fault.expectedColon.shownBy other)

/-! ## Repetition -/

/-- Scans the elements of an array after its opening bracket. Every element
takes at least one character, so `fuel` above the length of the input is never
used up. -/
def elementsWithin {α : Type} (element : Scanner α) :
    (fuel : Nat) → (first : Bool) → List α → Scanner (List α)
  | 0, _, _, _ => .error Fault.endInList.atEnd
  | fuel + 1, first, items, input =>
    match nextElement first input with
    | .error refusal => .error refusal
    | .ok none =>
      match closeList input with
      | .error refusal => .error refusal
      | .ok rest => .ok (items.reverse, rest)
    | .ok (some rest) =>
      match element rest with
      | .error refusal => .error refusal
      | .ok (item, rest) => elementsWithin element fuel false (item :: items) rest

/-- Scans the elements of an array after its opening bracket. -/
def elements {α : Type} (element : Scanner α) : Scanner (List α) := fun input =>
  elementsWithin element (input.length + 1) true [] input

/-- Scans the entries of an object after its opening brace, with a state that
each of them may change. Every entry takes at least one character, so `fuel`
above the length of the input is never used up. -/
def entriesWithin {σ : Type} (entry : σ → String → Scanner σ) :
    (fuel : Nat) → (first : Bool) → σ → Scanner σ
  | 0, _, _, _ => .error Fault.endInObject.atEnd
  | fuel + 1, first, state, input =>
    match nextEntry first input with
    | .error refusal => .error refusal
    | .ok (.closed rest) => .ok (state, rest)
    | .ok (.key rest) =>
      match quotedText rest with
      | .error refusal => .error refusal
      | .ok (key, rest) =>
        match entry state key rest with
        | .error refusal => .error refusal
        | .ok (state, rest) => entriesWithin entry fuel false state rest

/-- Scans the entries of an object after its opening brace. -/
def entries {σ : Type} (entry : σ → String → Scanner σ) (state : σ) : Scanner σ := fun input =>
  entriesWithin entry (input.length + 1) true state input

/-- Accepts only blanks after the document. -/
def finish {α : Type} (value : α) (input : List Char) : Except Refusal α :=
  match dropSpace input with
  | [] => .ok value
  | other => .error (Fault.trailingCharacters.shownBy other)

end FlagEnum.Json
