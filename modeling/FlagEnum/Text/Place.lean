/-!
# Places in a text

Where something stands in a text: its line, and the bytes before it on that
line. Bytes are counted rather than characters, so a place may lie inside a
character.
-/

namespace FlagEnum.Text

/-- The number of bytes of a text. -/
def byteCount (text : List Char) : Nat :=
  text.foldl (fun count char => count + char.utf8Size) 0

/-- A place in a text. Lines are counted from one, columns are bytes. -/
structure Place where
  line : Nat
  column : Nat
deriving DecidableEq, Repr

namespace Place

/-- The start of a text. -/
def start : Place := ⟨1, 0⟩

/-- The place some bytes further on in a text, or its end. -/
def advance (place : Place) : (bytes : Nat) → List Char → Place
  | _, [] => place
  | bytes, character :: rest =>
    if bytes = 0 then place
    else if character = '\n' then advance ⟨place.line + 1, 0⟩ (bytes - 1) rest
    else
      let size := character.utf8Size
      if bytes < size then ⟨place.line, place.column + bytes⟩
      else advance ⟨place.line, place.column + size⟩ (bytes - size) rest

/-- How a message gives a place. -/
def toText (place : Place) : String :=
  "line " ++ toString place.line ++ " column " ++ toString place.column

end Place

end FlagEnum.Text
