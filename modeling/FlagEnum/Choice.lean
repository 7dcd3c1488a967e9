import FlagEnum.Flag
import FlagEnum.Policy
import FlagEnum.Word

/-!
# Choosing a flag

Given the values in use, a policy offers the value of one more flag. Values are
narrowed to the domain first, since one outside it cannot clash with a flag; an
enumeration without values starts at zero. The module also lists every flag
that is still free.
-/

namespace FlagEnum

/-- Why no value can be chosen. -/
inductive ChoiceError where
  /-- The type name stands for no domain. -/
  | unsupportedType (name : String)
  /-- Every flag of the domain is in use. -/
  | exhausted (domain : Domain)
  /-- The highest flag in use has no double in the domain. -/
  | overflow (highest : Int) (domain : Domain)
  /-- No value in use is a flag, so there is none to double. -/
  | noPowerOfTwo (domain : Domain)
deriving DecidableEq, Repr

/-- What is reported when no value can be chosen. -/
def ChoiceError.message : ChoiceError → String
  | unsupportedType name => "unsupported underlying type: " ++ name
  | exhausted domain => "every power-of-two value in " ++ domain.keyword ++ " is already used"
  | overflow highest domain =>
    "doubling " ++ String.ofList (decimal highest) ++ " overflows " ++ domain.keyword
  | noPowerOfTwo domain => "no explicit value is a power of two in " ++ domain.keyword

/-- The domain that a type name stands for, or the error that there is none. -/
def Domain.ofName (name : String) : Except ChoiceError Domain :=
  match Domain.ofName? name with
  | some domain => .ok domain
  | none => .error (.unsupportedType name)

/-- The values that the domain can store, as its words. -/
def Domain.usedWords (domain : Domain) (values : List Int) : List (Word domain) :=
  values.filterMap (Word.narrow? domain)

/-- The flags of a domain that no value uses, from the lowest up. -/
def Domain.freeWords (domain : Domain) (values : List Int) : List (Word domain) :=
  let used := domain.usedWords values
  (Word.flags domain).filter fun word => !used.contains word

/-- Every flag that is still free beside the given values, from the lowest up. -/
def Domain.freeFlags (domain : Domain) (values : List Int) : List Flag :=
  (domain.freeWords values).map fun word => ⟨domain, word.value⟩

namespace Choice

variable {domain : Domain}

/-- The lowest flag that is not among the words in use. -/
def lowestFree (used : List (Word domain)) : Except ChoiceError (Word domain) :=
  match (Word.flags domain).find? fun word => !used.contains word with
  | some word => .ok word
  | none => .error (.exhausted domain)

/-- Twice the highest flag among the words in use. The double is refused when
it is the sign bit or has left the domain at the top. -/
def aboveHighest (used : List (Word domain)) : Except ChoiceError (Word domain) :=
  match Word.highest? (used.filter Word.isFlag) with
  | none => .error (.noPowerOfTwo domain)
  | some highest =>
    if highest.double.isPositive then .ok highest.double
    else .error (.overflow highest.value domain)

/-- The word that a policy offers beside the words in use. -/
def word : Policy → List (Word domain) → Except ChoiceError (Word domain)
  | .lowestFree, used => lowestFree used
  | .aboveHighest, used => aboveHighest used

end Choice

namespace Policy

/-- The flag that a policy offers beside the values in use. The first value of
an enumeration is zero, whatever the domain and the policy. -/
def choose (policy : Policy) (domain : Domain) (values : List Int) :
    Except ChoiceError Flag :=
  if values.isEmpty then .ok (.zero domain)
  else do
    let word ← Choice.word policy (domain.usedWords values)
    return ⟨domain, word.value⟩

/-- The value that a policy offers for a type name. The first value is zero
even where the name stands for no domain. -/
def chooseForType (policy : Policy) (typeName : String) (values : List Int) :
    Except ChoiceError Int :=
  if values.isEmpty then .ok 0
  else do
    let domain ← Domain.ofName typeName
    let flag ← policy.choose domain values
    return flag.value

/-- Chooses up to `count` flags in turn, each counting as used for those after
it. The result is what was chosen and the error that ended it, if any. -/
def fill (policy : Policy) (domain : Domain) : Nat → List Int → List Int × Option ChoiceError
  | 0, _ => ([], none)
  | count + 1, values =>
    match policy.choose domain values with
    | .error error => ([], some error)
    | .ok flag =>
      let (chosen, error) := fill policy domain count (values ++ [flag.value])
      (flag.value :: chosen, error)

end Policy

end FlagEnum
