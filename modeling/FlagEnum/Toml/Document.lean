import FlagEnum.Toml.Quoted
import FlagEnum.Toml.Scalar
import FlagEnum.Toml.Value

/-!
# TOML documents

Values with brackets, and the statements of a document: keys with values, and
the headers of tables. A document is read into the entries of its outermost
table, or refused as a whole.
-/

namespace FlagEnum.Toml

/-! ## Values -/

/-- Scans the items of an array after its bracket. Commas stand between items,
and one may follow the last. -/
def items (item : Scanner Value) : (fuel : Nat) → List Value → Scanner (List Value)
  | 0, _, _ => none
  | fuel + 1, scanned, input =>
    match dropLines? false input with
    | none => none
    | some (']' :: rest) => some (scanned.reverse, rest)
    | some inside =>
      match item inside with
      | none => none
      | some (value, rest) =>
        match dropLines? false rest with
        | some (',' :: rest) => items item fuel (value :: scanned) rest
        | some (']' :: rest) => some ((value :: scanned).reverse, rest)
        | _ => none

/-- Scans a key and its value; `gap` moves past what may stand on the two sides
of the sign between them. -/
def pair (gap : List Char → Option (List Char)) (item : Scanner Value) :
    Scanner ((List String × String) × Value) := fun input => do
  let (name, rest) ← key input
  let rest ← expect? '=' (← gap rest)
  let (value, rest) ← item (← gap rest)
  return ((name, value), rest)

/-- Scans the entries of an inline table after its brace. Lines may end between
any two of its parts, but for the parts of a dotted key. -/
def pairs (item : Scanner Value) : (fuel : Nat) → Entries → Scanner Entries
  | 0, _, _ => none
  | fuel + 1, entries, input =>
    match dropLines? false input with
    | none => none
    | some ('\x7d' :: rest) => some (entries, rest)
    | some inside =>
      match pair (dropLines? false) item inside with
      | none => none
      | some (((path, name), value), rest) =>
        match entries.addValue path name value .inline with
        | none => none
        | some entries =>
          match dropLines? false rest with
          | some (',' :: rest) => pairs item fuel entries rest
          | some ('\x7d' :: rest) => some (entries, rest)
          | _ => none

/-- How many brackets a value may be nested in. -/
def maxDepth : Nat := 80

/-- Scans a value with at most `depth` levels of brackets. Every item takes a
character, so the length of the input bounds their number. -/
def value : (depth : Nat) → Scanner Value
  | _, '\x22' :: rest => (quotedText ('\x22' :: rest)).map fun (text, rest) => (.string text, rest)
  | _, '\x27' :: rest => (quotedText ('\x27' :: rest)).map fun (text, rest) => (.string text, rest)
  | depth + 1, '[' :: rest =>
    (items (value depth) (rest.length + 1) [] rest).map fun (values, rest) =>
      (.array false values, rest)
  | depth + 1, '\x7b' :: rest =>
    (pairs (value depth) (rest.length + 1) [] rest).map fun (entries, rest) =>
      (.table .inline entries, rest)
  | _, input => scalar input

/-! ## Statements -/

/-- A document in the making: what was read, and the table that keys go to. -/
structure Draft where
  entries : Entries
  current : List String

/-- Adds a key with its value to the current table. -/
def Draft.add (draft : Draft) (path : List String) (name : String) (value : Value) :
    Option Draft := do
  let add (origin : Origin) (entries : Entries) : Option Entries :=
    entries.addValue path name value origin
  let entries ← draft.entries.editAt false add draft.current .header
  return { draft with entries }

/-- Opens the table of a header. -/
def Draft.enter (draft : Draft) (isItem : Bool) (path : List String) (name : String) :
    Option Draft := do
  let enter (_ : Origin) (entries : Entries) : Option Entries :=
    if isItem then entries.openItem name else entries.openTable name
  let entries ← draft.entries.editAt false enter path .header
  return ⟨entries, path ++ [name]⟩

/-- Reads the rest of a header after its opening brackets. -/
def header (isItem : Bool) (draft : Draft) : Scanner Draft := fun input => do
  let ((path, name), rest) ← key input
  let rest ← expect? ']' (dropBlanks rest)
  let rest ← if isItem then expect? ']' rest else some rest
  return (← draft.enter isItem path name, rest)

/-- Reads one statement, without the end of its line. -/
def statement (draft : Draft) : Scanner Draft
  | '[' :: '[' :: rest => header true draft rest
  | '[' :: rest => header false draft rest
  | input => do
    let (((path, name), value), rest) ← pair (some ∘ dropBlanks) (value maxDepth) input
    return (← draft.add path name value, rest)

/-- Reads the statements of a document. Every one takes a character, so `fuel`
above the length of the input is never used up. -/
def statements : (fuel : Nat) → Draft → List Char → Option Draft
  | 0, _, _ => none
  | fuel + 1, draft, input =>
    match dropLines? false input with
    | none => none
    | some [] => some draft
    | some line =>
      match statement draft line with
      | none => none
      | some (draft, rest) =>
        match endLine? rest with
        | none => none
        | some rest => statements fuel draft rest

/-- A text without the byte order mark that may start it. -/
def dropMark : List Char → List Char
  | '\ufeff' :: rest => rest
  | input => input

/-- The entries of a document, if it is valid. -/
def read? (text : List Char) : Option Entries := do
  let input := dropMark text
  let draft ← statements (input.length + 1) ⟨[], []⟩ input
  return draft.entries

end FlagEnum.Toml
