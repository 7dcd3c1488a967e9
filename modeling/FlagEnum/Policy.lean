/-!
# Selection policies

The two ways to choose the value of a new flag, and the names by which files
and arguments refer to them. The choice itself is made in `FlagEnum.Choice`.
-/

namespace FlagEnum

/-- How the value of a new flag is chosen. -/
inductive Policy where
  /-- The lowest power of two that is not in use. -/
  | lowestFree
  /-- Twice the highest power of two in use. -/
  | aboveHighest
deriving DecidableEq, Repr

namespace Policy

/-- Gaps are filled unless something else is asked for. -/
instance : Inhabited Policy := ⟨.lowestFree⟩

/-- Every policy once. -/
def all : List Policy := [lowestFree, aboveHighest]

/-- The name of a policy in files and reports. -/
def name : Policy → String
  | lowestFree => "use-all-available-values"
  | aboveHighest => "start-from-highest-explicit-value"

/-- The short name of a policy, which only arguments may use. -/
def shortName : Policy → String
  | lowestFree => "all"
  | aboveHighest => "highest"

/-- The policy with this name, as files give it. -/
def ofName? (text : String) : Option Policy :=
  all.find? fun policy => policy.name == text

/-- Whether two texts are equal, or equal but for the case of ASCII letters. -/
def sameText (ignoreCase : Bool) (left right : String) : Bool :=
  if ignoreCase then left.toList.map Char.toLower == right.toList.map Char.toLower
  else left == right

/-- The policy that an argument names, by either of its names. -/
def ofArgument? (ignoreCase : Bool) (text : String) : Option Policy :=
  all.find? fun policy =>
    sameText ignoreCase policy.name text || sameText ignoreCase policy.shortName text

end Policy

end FlagEnum
