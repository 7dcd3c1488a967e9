/-!
# TOML values and tables

The values of a TOML document. A table remembers how it came about, because
that decides which later lines may still add to it: each table is defined once,
and an inline table or a listed array is closed.
-/

namespace FlagEnum.Toml

/-- How a table came about. -/
inductive Origin where
  /-- By a header of its own, or as the document itself. -/
  | header
  /-- By the header of a table inside it. -/
  | implied
  /-- By a dotted key. -/
  | dotted
  /-- Between braces. -/
  | inline
deriving DecidableEq, Repr

/-- A TOML value. Numbers with a point and dates are kept as they are written. -/
inductive Value where
  | string (text : String)
  | boolean (value : Bool)
  | integer (value : Int)
  | float (text : String)
  | moment (text : String)
  /-- An array; `growing` ones are made of tables that have headers. -/
  | array (growing : Bool) (items : List Value)
  | table (origin : Origin) (entries : List (String × Value))
deriving Repr

/-- The keys of a table with their values, in order. -/
abbrev Entries := List (String × Value)

/-- The entries with another value for a key that they have. -/
def Entries.replace (entries : Entries) (key : String) (value : Value) : Entries :=
  entries.map fun entry => if entry.1 == key then (key, value) else entry

/-- Edits the table at the end of a path, and makes the tables on the way that
are missing. A path through an array of tables leads to its last table. Dotted
keys cannot enter a table that has a header, and nothing enters a closed value. -/
def Entries.editAt (dotted : Bool) (edit : Origin → Entries → Option Entries) :
    List String → Origin → Entries → Option Entries
  | [], origin, entries => edit origin entries
  | key :: path, _, entries =>
    match entries.lookup key with
    | none => do
      let origin := if dotted then .dotted else .implied
      let inner ← editAt dotted edit path origin []
      return entries ++ [(key, .table origin inner)]
    | some (.table origin inner) =>
      if origin == .inline || (dotted && origin == .header) then none
      else do
        let inner ← editAt dotted edit path origin inner
        return Entries.replace entries key (.table origin inner)
    | some (.array true items) =>
      match items.getLast? with
      | some (.table origin inner) => do
        let inner ← editAt dotted edit path origin inner
        return Entries.replace entries key (.array true (items.dropLast ++ [.table origin inner]))
      | _ => none
    | some _ => none

/-- Adds a key with its value below a dotted path. The last table on the path
must itself come from dotted keys, and may not have the key yet. -/
def Entries.addValue (path : List String) (key : String) (value : Value) (origin : Origin)
    (entries : Entries) : Option Entries :=
  let add (origin : Origin) (entries : Entries) : Option Entries :=
    if (origin == .dotted) == path.isEmpty then none
    else if (entries.lookup key).isSome then none
    else some (entries ++ [(key, value)])
  editAt true add path origin entries

/-- Opens the table of a header. It must be new, or known only by the headers
of tables inside it. -/
def Entries.openTable (key : String) (entries : Entries) : Option Entries :=
  match entries.lookup key with
  | none => some (entries ++ [(key, .table .header [])])
  | some (.table .implied inner) => some (Entries.replace entries key (.table .header inner))
  | some _ => none

/-- Opens the next table of an array of tables. -/
def Entries.openItem (key : String) (entries : Entries) : Option Entries :=
  match entries.lookup key with
  | none => some (entries ++ [(key, .array true [.table .header []])])
  | some (.array true items) =>
    some (Entries.replace entries key (.array true (items ++ [.table .header []])))
  | some _ => none

end FlagEnum.Toml
