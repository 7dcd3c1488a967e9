/-!
# Lines, blanks and comments

What stands between the tokens of a TOML document. A line ends with a line feed
that a carriage return may precede; comments hold no control characters but
tabs.
-/

namespace FlagEnum.Toml

/-- A scanner takes the text from its point on and returns what it read with
the rest, or nothing where the text is not valid. -/
abbrev Scanner (α : Type) := List Char → Option (α × List Char)

/-- A blank inside a line. -/
def isBlank (character : Char) : Bool :=
  character == ' ' || character == '\t'

/-- Moves past the blanks inside a line. -/
def dropBlanks (input : List Char) : List Char :=
  input.dropWhile isBlank

/-- A character that comments and quoted texts may hold: no control character
but the tab. -/
def isPlain (character : Char) : Bool :=
  character == '\t' || (0x20 ≤ character.toNat && character.toNat != 0x7F)

/-- Whether a carriage return is followed by the line feed that it needs. -/
def startsLineFeed : List Char → Bool
  | '\n' :: _ => true
  | _ => false

/-- Moves past the end of a line. The end of the document ends its last line. -/
def newLine? : List Char → Option (List Char)
  | [] => some []
  | '\n' :: rest => some rest
  | '\r' :: '\n' :: rest => some rest
  | _ => none

/-- Moves past what may follow a statement: blanks, a comment and the end of
the line. -/
def endLine? (input : List Char) : Option (List Char) :=
  match dropBlanks input with
  | '#' :: rest => newLine? (rest.dropWhile isPlain)
  | other => newLine? other

/-- Moves past blanks, ends of lines and comments; `inComment` says whether one
is open. -/
def dropLines? (inComment : Bool) : List Char → Option (List Char)
  | [] => some []
  | character :: rest =>
    if character = '\n' then dropLines? false rest
    else if character = '\r' then
      if startsLineFeed rest then dropLines? inComment rest else none
    else if inComment then
      if isPlain character then dropLines? true rest else none
    else if isBlank character then dropLines? false rest
    else if character = '#' then dropLines? true rest
    else some (character :: rest)

end FlagEnum.Toml
