import FlagEnum.Json.Scan

/-!
# Skipping a JSON value

The value of a key that nobody asks for is checked for its form only: brackets
of any depth, quoted texts, numbers of any size and the three words. Skipping is
an automaton that looks at one character at a time and keeps the open brackets
on a stack, so no depth of nesting is too much for it.
-/

namespace FlagEnum.Json

/-- An open bracket. -/
inductive Bracket where
  | list
  | object
deriving DecidableEq, Repr

/-- Where the skipping of a value stands. -/
inductive SkipPhase where
  /-- A value must start. -/
  | value
  /-- After an opening bracket: the first item, or the end. -/
  | opened
  /-- After an item: a comma, or the end. -/
  | after
  /-- A key must start. -/
  | key
  /-- After a key. -/
  | colon
  /-- Inside a quoted text; `isKey` says what it is. -/
  | text (isKey : Bool)
  /-- After a backslash in a quoted text. -/
  | escaped (isKey : Bool)
  /-- Inside the hexadecimal digits of an escape. -/
  | unit (isKey : Bool) (missing : Nat)
  /-- Inside a word, with the letters still to come. -/
  | word (missing : List Char)
  /-- After the sign of a number. -/
  | minus
  /-- After a leading zero. -/
  | zero
  /-- Inside the digits before the point. -/
  | whole
  /-- After the point. -/
  | point
  /-- Inside the digits after the point. -/
  | fraction
  /-- After the mark of an exponent. -/
  | mark
  /-- After the sign of an exponent. -/
  | sign
  /-- Inside the digits of an exponent. -/
  | exponent
deriving DecidableEq, Repr

/-- What one character does to the skipping. -/
inductive SkipStep where
  /-- The skipping goes on after the character. -/
  | more (phase : SkipPhase) (stack : List Bracket)
  /-- The value ends with the character. -/
  | endsWith
  /-- The value ended before the character. -/
  | endsBefore
deriving DecidableEq, Repr

/-- The fault of a text that ends inside a bracket. -/
def Bracket.endFault : Bracket → Fault
  | list => .endInList
  | object => .endInObject

/-- The fault of an item that neither a comma nor the end follows. -/
def Bracket.commaFault : Bracket → Fault
  | list => .expectedCommaOrBracket
  | object => .expectedCommaOrBrace

/-- The character that closes a bracket. -/
def Bracket.closer : Bracket → Char
  | list => ']'
  | object => '\x7d'

namespace Skip

/-- The step for the last character of a value, inside the given brackets. -/
def closeValue : List Bracket → SkipStep
  | [] => .endsWith
  | stack => .more .after stack

/-- Whether a character is a decimal digit. -/
def isDigit (character : Char) : Bool :=
  '0' ≤ character && character ≤ '9'

/-- The step at a character where a value must start. -/
def startValue (stack : List Bracket) (character : Char) : Except Fault SkipStep :=
  if character = 'n' then .ok (.more (.word ['u', 'l', 'l']) stack)
  else if character = 't' then .ok (.more (.word ['r', 'u', 'e']) stack)
  else if character = 'f' then .ok (.more (.word ['a', 'l', 's', 'e']) stack)
  else if character = '-' then .ok (.more .minus stack)
  else if character = '0' then .ok (.more .zero stack)
  else if isDigit character then .ok (.more .whole stack)
  else if character = '\x22' then .ok (.more (.text false) stack)
  else if character = '[' then .ok (.more .opened (.list :: stack))
  else if character = '\x7b' then .ok (.more .opened (.object :: stack))
  else .error .expectedValue

/-- The step at a character where a key must start. -/
def startKey (stack : List Bracket) (character : Char) : Except Fault SkipStep :=
  if character = '\x22' then .ok (.more (.text true) stack) else .error .keyNotText

/-- The step at a character after an item. Outside all brackets the value is
over. -/
def afterItem (stack : List Bracket) (character : Char) : Except Fault SkipStep :=
  match stack with
  | [] => .ok .endsBefore
  | bracket :: outer =>
    if isSpace character then .ok (.more .after stack)
    else if character = ',' then
      match bracket with
      | .list => .ok (.more .value stack)
      | .object => .ok (.more .key stack)
    else if character = bracket.closer then .ok (closeValue outer)
    else .error bracket.commaFault

/-- The step at the first character inside a bracket. -/
def firstItem (stack : List Bracket) (character : Char) : Except Fault SkipStep :=
  match stack with
  | [] => .ok .endsBefore
  | bracket :: outer =>
    if character = bracket.closer then .ok (closeValue outer)
    else
      match bracket with
      | .list => startValue stack character
      | .object => startKey stack character

/-- The phase after the closing quote of a text. -/
def closeText (isKey : Bool) (stack : List Bracket) : SkipStep :=
  if isKey then .more .colon stack else closeValue stack

/-- The step after a complete number that further digits may extend. -/
def extendNumber (digits : SkipPhase) (stack : List Bracket) (character : Char) :
    Except Fault SkipStep :=
  if isDigit character then .ok (.more digits stack) else afterItem stack character

/-- The step where a digit of a number must stand. -/
def needDigit (digits : SkipPhase) (stack : List Bracket) (character : Char) :
    Except Fault SkipStep :=
  if isDigit character then .ok (.more digits stack) else .error .invalidNumber

/-- The step of the skipping at one character; `rest` is the text after it. -/
def step (phase : SkipPhase) (stack : List Bracket) (character : Char) (rest : List Char) :
    Except Fault SkipStep :=
  match phase with
  | .value =>
    if isSpace character then .ok (.more .value stack) else startValue stack character
  | .opened =>
    if isSpace character then .ok (.more .opened stack) else firstItem stack character
  | .after => afterItem stack character
  | .key => if isSpace character then .ok (.more .key stack) else startKey stack character
  | .colon =>
    if isSpace character then .ok (.more .colon stack)
    else if character = ':' then .ok (.more .value stack)
    else .error .expectedColon
  | .text isKey =>
    if character = '\x22' then .ok (closeText isKey stack)
    else if character = '\x5c' then .ok (.more (.escaped isKey) stack)
    else if character.toNat < 0x20 then .error .controlCharacter
    else .ok (.more (.text isKey) stack)
  | .escaped isKey =>
    if character = 'u' then
      if endsBeforeHex rest then .error .endInText else .ok (.more (.unit isKey 4) stack)
    else if (simpleEscape? character).isSome then .ok (.more (.text isKey) stack)
    else .error .invalidEscape
  | .unit isKey missing =>
    if (hexValue? character).isSome then
      if missing ≤ 1 then .ok (.more (.text isKey) stack)
      else .ok (.more (.unit isKey (missing - 1)) stack)
    else .error .invalidEscape
  | .word [] => afterItem stack character
  | .word (expected :: missing) =>
    if character = expected then
      if missing.isEmpty then .ok (closeValue stack) else .ok (.more (.word missing) stack)
    else .error .expectedWord
  | .minus =>
    if character = '0' then .ok (.more .zero stack) else needDigit .whole stack character
  | .zero =>
    if isDigit character then .error .invalidNumber
    else if character = '.' then .ok (.more .point stack)
    else if character = 'e' || character = 'E' then .ok (.more .mark stack)
    else afterItem stack character
  | .whole =>
    if character = '.' then .ok (.more .point stack)
    else if character = 'e' || character = 'E' then .ok (.more .mark stack)
    else extendNumber .whole stack character
  | .point => needDigit .fraction stack character
  | .fraction =>
    if character = 'e' || character = 'E' then .ok (.more .mark stack)
    else extendNumber .fraction stack character
  | .mark =>
    if character = '+' || character = '-' then .ok (.more .sign stack)
    else needDigit .exponent stack character
  | .sign => needDigit .exponent stack character
  | .exponent => extendNumber .exponent stack character

/-- The place of a fault that a phase meets at the start of what is left. The
digits of an escape are judged together, and a control character is not passed. -/
def refuse (phase : SkipPhase) (fault : Fault) (rest : List Char) : Refusal :=
  if fault = .endInText then fault.atEnd
  else
    match phase with
    | .text _ => fault.before rest
    | .unit _ missing => fault.within missing rest
    | _ => fault.shownBy rest

/-- The result where the text ends. Only a number can be complete there. -/
def atEnd (phase : SkipPhase) (stack : List Bracket) : Except Fault (List Char) :=
  let complete : Except Fault (List Char) :=
    match stack with
    | [] => .ok []
    | bracket :: _ => .error bracket.endFault
  match phase with
  | .value | .word (_ :: _) => .error .endInValue
  | .key | .colon => .error .endInObject
  | .text _ | .escaped _ | .unit _ _ => .error .endInText
  | .minus | .point | .mark | .sign => .error .invalidNumber
  | .opened | .after | .word [] | .zero | .whole | .fraction | .exponent => complete

/-- Skips on from a phase inside the given brackets. -/
def run (phase : SkipPhase) (stack : List Bracket) : List Char → Except Refusal (List Char)
  | [] => (atEnd phase stack).mapError Fault.atEnd
  | character :: rest =>
    match step phase stack character rest with
    | .error fault => .error (refuse phase fault (character :: rest))
    | .ok (.more phase stack) => run phase stack rest
    | .ok .endsWith => .ok rest
    | .ok .endsBefore => .ok (character :: rest)

end Skip

/-- Moves past one value of any kind, and past the blanks before it. -/
def skipValue (input : List Char) : Except Refusal (List Char) :=
  Skip.run .value [] input

end FlagEnum.Json
