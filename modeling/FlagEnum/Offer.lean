import FlagEnum.Declaration

/-!
# Offers on a declaration

Two things are offered on a declaration of flags: a new member with the next
value, and values for the members that have none. Either offer may be declined.
Writing an offer into the declaration is a separate step.
-/

namespace FlagEnum

/-- A name and the flag chosen for it. -/
structure NamedFlag where
  name : String
  flag : Flag
deriving DecidableEq, Repr

namespace Declaration

/-- The domain in which something may be offered: that of a flags enumeration
whose type is known. -/
def offerDomain? (declaration : Declaration) : Option Domain :=
  if declaration.isFlags then declaration.domain.toOption else none

/-- The names tried for a new member: the base itself, then the base with 2, 3
and so on. A declaration cannot have all of this many. -/
def nameCandidates (declaration : Declaration) (base : String) : List String :=
  base :: (List.range (declaration.members.length + 1)).map fun index =>
    base ++ String.ofList (decimalDigits (index + 2))

/-- The first of the candidate names that no member has. -/
def freshName (declaration : Declaration) (base : String) : String :=
  ((declaration.nameCandidates base).find? fun name => !declaration.declares name).getD base

/-- The base of the names of new members. -/
def newMemberBase : String := "EnumMember"

/-- Offers a new member beside the known constants. -/
def suggest (declaration : Declaration) (lookup : Lookup) (policy : Policy) :
    Option NamedFlag := do
  let domain ← declaration.offerDomain?
  let flag ← (policy.choose domain (declaration.constants lookup)).toOption
  return ⟨declaration.freshName newMemberBase, flag⟩

/-- The flag for the next member without a value. Where all values so far are
zero there is nothing to double, and 1 is next. -/
def nextFlag (policy : Policy) (domain : Domain) (values : List Int) :
    Except ChoiceError Flag :=
  match policy.choose domain values with
  | .error (.noPowerOfTwo offender) =>
    if values.all (· == 0) then .ok ⟨domain, 1⟩ else .error (.noPowerOfTwo offender)
  | result => result

/-- Gives a flag to each of the names in turn; each counts as used for the
names after it. One failure declines all. -/
def assignNames (policy : Policy) (domain : Domain) :
    List Int → List String → Option (List NamedFlag)
  | _, [] => some []
  | values, name :: rest =>
    match nextFlag policy domain values with
    | .error _ => none
    | .ok flag => do
      let others ← assignNames policy domain (values ++ [flag.value]) rest
      return ⟨name, flag⟩ :: others

/-- Offers values for all members whose constant is not known. -/
def assign (declaration : Declaration) (lookup : Lookup) (policy : Policy) :
    Option (List NamedFlag) := do
  let domain ← declaration.offerDomain?
  assignNames policy domain (declaration.constants lookup)
    ((declaration.unknowns lookup).map Member.name)

/-- The declaration with the offered member at its end. -/
def accept (declaration : Declaration) (offer : NamedFlag) : Declaration :=
  declaration.append ⟨offer.name, some offer.flag.value⟩

/-- The value that a list of offers has for a name: that of its first entry. -/
def offeredValue? (offers : List NamedFlag) (name : String) : Option Int :=
  (offers.find? fun offer => offer.name == name).map (·.flag.value)

/-- The declaration with the offered values written into its members. A value
goes to every member of its name, also to one that has a constant. -/
def record (declaration : Declaration) (offers : List NamedFlag) : Declaration :=
  { declaration with
    members := declaration.members.map fun member =>
      match offeredValue? offers member.name with
      | some value => { member with value := some value }
      | none => member }

/-- What is reported when an offer is declined. -/
def declineReason (declaration : Declaration) : String :=
  if declaration.isFlags then
    match declaration.domain with
    | .error error => error.message
    | .ok domain =>
      "no free flag value left in " ++ declaration.name ++ " (" ++ domain.keyword ++ ")"
  else declaration.name ++ " is not a flags enum"

end Declaration

end FlagEnum
