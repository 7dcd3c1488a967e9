/-!
# Path texts

A path is the text that names a file. Its parent and the paths inside it are
computed on the text alone; what a text names is the business of a disk.
-/

namespace FlagEnum

/-- The text of a path. -/
structure Path where
  chars : List Char
deriving DecidableEq, Repr

namespace Path

/-- The path with this text. -/
def ofString (text : String) : Path := ⟨text.toList⟩

/-- The text of a path. -/
def toString (path : Path) : String := String.ofList path.chars

/-- Splits off the start that is no ordinary part: the slash of an absolute
path, or the dot of a path that starts at the current directory. -/
def splitStart : List Char → List Char × List Char
  | '/' :: rest => (['/'], rest)
  | ['.'] => (['.'], [])
  | '.' :: '/' :: rest => (['.'], '/' :: rest)
  | text => ([], text)

/-- Drops what does not count at the end of a path: slashes, and parts that are
a single dot. The text is given in reverse. -/
def dropIdleEnd : List Char → List Char
  | '/' :: rest => dropIdleEnd rest
  | '.' :: '/' :: rest => dropIdleEnd rest
  | ['.'] => []
  | text => text

/-- The path without its last part. The empty path and the root have none. -/
def parent? (path : Path) : Option Path :=
  let (start, body) := splitStart path.chars
  match dropIdleEnd body.reverse with
  | [] => if start = ['.'] then some ⟨[]⟩ else none
  | reversed =>
    some ⟨start ++ (dropIdleEnd (reversed.dropWhile (· != '/'))).reverse⟩

/-- The path of a name inside a directory. -/
def join (path : Path) (name : String) : Path :=
  match path.chars.getLast? with
  | none => ⟨name.toList⟩
  | some '/' => ⟨path.chars ++ name.toList⟩
  | some _ => ⟨path.chars ++ '/' :: name.toList⟩

/-- A path and its parents, the nearest first. A parent has a shorter text, so
the length of the path bounds their number. -/
def climb : (fuel : Nat) → Path → List Path
  | 0, path => [path]
  | fuel + 1, path =>
    match path.parent? with
    | none => [path]
    | some parent => path :: climb fuel parent

/-- A path and all its parents, the nearest first. -/
def selfAndParents (path : Path) : List Path :=
  climb path.chars.length path

end Path

end FlagEnum
