import FlagEnum.Path
import FlagEnum.Text.Place

/-!
# Disks and directory trees

A disk says what each path text names, and that is all the program needs to
know of it. A directory tree together with a current directory is one way to
have a disk: paths are followed part by part, from the root or from the current
directory.
-/

namespace FlagEnum

/-- What a path names. -/
inductive Named where
  | nothing
  /-- A part of the path that should be a directory is a file. -/
  | throughFile
  /-- The path, or a part of it that was reached, is longer than names can be. -/
  | tooLong
  /-- The path holds the null character, which no name can. -/
  | unnamable
  | directory
  | file (content : ByteArray)

/-- What each path names. -/
abbrev Disk := Path → Named

/-- Why no text can be read at a path. -/
inductive DiskError where
  | missing
  | throughFile
  | tooLong
  | unnamable
  | isDirectory
  /-- The content is not UTF-8. -/
  | notText
deriving DecidableEq, Repr

/-- What is reported when no text can be read. -/
def DiskError.message : DiskError → String
  | missing => "No such file or directory (os error 2)"
  | throughFile => "Not a directory (os error 20)"
  | tooLong => "File name too long (os error 36)"
  | unnamable => "file name contained an unexpected NUL byte"
  | isDirectory => "Is a directory (os error 21)"
  | notText => "stream did not contain valid UTF-8"

/-- The text in a file's content. -/
def decodeText (content : ByteArray) : Except DiskError String :=
  match String.fromUTF8? content with
  | some text => .ok text
  | none => .error .notText

namespace Disk

/-- The text of the file at a path. -/
def readText (disk : Disk) (path : Path) : Except DiskError String :=
  match disk path with
  | .nothing => .error .missing
  | .throughFile => .error .throughFile
  | .tooLong => .error .tooLong
  | .unnamable => .error .unnamable
  | .directory => .error .isDirectory
  | .file content => decodeText content

/-- Whether a path names a file. -/
def isFile (disk : Disk) (path : Path) : Bool :=
  match disk path with
  | .file _ => true
  | _ => false

end Disk

/-- A file with its content, or a directory with what it holds by name. -/
inductive Tree where
  | file (content : ByteArray)
  | directory (children : List (String × Tree))

/-- What a directory holds. -/
abbrev Children := List (String × Tree)

namespace Tree

/-- Puts a node at a path of names inside a directory, and makes the
directories on the way. A node of the same name is replaced. -/
def place (node : Tree) : List String → Children → Children
  | [], children => children
  | [name], children => (name, node) :: children.filter fun child => child.1 != name
  | name :: rest, children =>
    let inner :=
      match children.lookup name with
      | some (.directory inner) => inner
      | _ => []
    (name, .directory (place node rest inner)) :: children.filter fun child => child.1 != name

/-- Makes sure that there is a directory at a path of names. What stands there
already stays. -/
def placeDirectory : List String → Children → Children
  | [], children => children
  | name :: rest, children =>
    let inner :=
      match children.lookup name with
      | some (.directory inner) => inner
      | _ => []
    (name, .directory (placeDirectory rest inner)) :: children.filter fun child => child.1 != name

/-- The greatest number of bytes in a name. -/
def maxName : Nat := 255

/-- The greatest number of bytes in a path. -/
def maxPath : Nat := 4095

/-- Follows the parts of a path from a directory, given with those above it up
to the root. The root is above itself. A file ends the walk: no further part,
not even an empty one, may follow it. -/
def follow (current : Children) (above : List Children) : List String → Named
  | [] => .directory
  | part :: rest =>
    if part = "" || part = "." then follow current above rest
    else if part = ".." then
      match above with
      | [] => follow current [] rest
      | parent :: further => follow parent further rest
    else if maxName < Text.byteCount part.toList then .tooLong
    else
      match current.lookup part with
      | none => .nothing
      | some (.directory inner) => follow inner (current :: above) rest
      | some (.file content) => if rest.isEmpty then .file content else .throughFile

/-- The directories from the one at a path of names up to the root, that one
first. The walk ends early where there is no such directory. -/
def descend (current : Children) (above : List Children) : List String → List Children
  | [] => current :: above
  | name :: rest =>
    match current.lookup name with
    | some (.directory inner) => descend inner (current :: above) rest
    | _ => current :: above

/-- The parts of a path text between its slashes. -/
def parts (path : Path) : List String :=
  (path.chars.splitOn '/').map String.ofList

/-- The disk of a tree, seen from the directory at a path of names. -/
def disk (root : Children) (current : List String) : Disk := fun path =>
  if path.chars.contains '\x00' then .unnamable
  else if maxPath < Text.byteCount path.chars then .tooLong
  else
    match path.chars with
    | [] => .nothing
    | '/' :: _ => follow root [] (parts path)
    | _ =>
      match descend root [] current with
      | [] => .nothing
      | start :: above => follow start above (parts path)

end Tree

end FlagEnum
