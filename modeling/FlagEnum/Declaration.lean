import FlagEnum.Choice

/-!
# Enumeration declarations

A declaration names its members in order, some with a constant. Which constant
a member has is asked of a lookup, so that a caller may know more, or less,
than the declaration says. Files hold declarations in the format of
`FlagEnum.Declaration.Reader`.
-/

namespace FlagEnum

/-- A member of an enumeration, with the constant written for it, if any. -/
structure Member where
  name : String
  value : Option Int := none
deriving DecidableEq, Repr

/-- An enumeration: its name, the type written for it, whether its members are
flags, and the members in order. Names may repeat. -/
structure Declaration where
  name : String
  typeName : String := "int"
  isFlags : Bool := false
  members : List Member := []
deriving DecidableEq, Repr

/-- What is known about the constants of members. A lookup is asked with the name
and the written constant of a member, so it answers alike for members that are
equal in both; one that tells such members apart, by their positions say, is
left out. -/
abbrev Lookup := Member → Option Int

namespace Declaration

/-- The domain of the type that the declaration names. -/
def domain (declaration : Declaration) : Except ChoiceError Domain :=
  Domain.ofName declaration.typeName

/-- Whether some member has this name. -/
def declares (declaration : Declaration) (name : String) : Bool :=
  declaration.members.any fun member => member.name == name

/-- The declaration with one more member, at the end. -/
def append (declaration : Declaration) (member : Member) : Declaration :=
  { declaration with members := declaration.members ++ [member] }

/-- The known constants of the members, in order and with repetitions. -/
def constants (declaration : Declaration) (lookup : Lookup) : List Int :=
  declaration.members.filterMap lookup

/-- The members whose constant is not known, in order. -/
def unknowns (declaration : Declaration) (lookup : Lookup) : List Member :=
  declaration.members.filter fun member => (lookup member).isNone

end Declaration

end FlagEnum
