import FlagEnum.Declaration
import FlagEnum.Json.Mismatch
import FlagEnum.Json.Skip

/-!
# Reading declarations

The JSON format of declarations and members. Both are records: objects whose
known keys come in any order and at most once, with unknown keys skipped, or
arrays that give the fields by position. Only names are required.
-/

namespace FlagEnum

open Json

namespace Declaration

/-! ## Field values -/

/-- Reads a text. -/
def readText : Scanner String := fun input =>
  match dropSpace input with
  | '\x22' :: rest => quotedText rest
  | other => .error (mismatch "a string" other)

/-- Reads a truth value. -/
def readTruth : Scanner Bool := fun input =>
  match dropSpace input with
  | 't' :: rest => do return (true, ← word ['r', 'u', 'e'] rest)
  | 'f' :: rest => do return (false, ← word ['a', 'l', 's', 'e'] rest)
  | other => .error (mismatch "a boolean" other)

/-- Reads the digits of a constant: a zero alone, or digits that do not start
with one. -/
def readDigits (negative : Bool) : Scanner Int := fun input =>
  match input.takeWhile isDecimalDigit with
  | [] => .error (Fault.invalidNumber.shownBy input)
  | '0' :: _ :: _ => .error (Fault.invalidNumber.shownBy (input.drop 1))
  | digits =>
    let size : Int := digitsValue digits
    let value := if negative then -size else size
    let rest := input.dropWhile isDecimalDigit
    if value < minInteger || maxInteger < value then .error (Fault.numberOutOfRange.before rest)
    else .ok (value, rest)

/-- Reads the constant of a member, which may be absent by `null`. Only digits
are read; a point or an exponent after them is left to whoever comes next. -/
def readConstant : Scanner (Option Int) := fun input =>
  match dropSpace input with
  | [] => .error Fault.endInValue.atEnd
  | 'n' :: rest => do return (none, ← word ['u', 'l', 'l'] rest)
  | '-' :: rest => do
    let (value, rest) ← readDigits true rest
    return (some value, rest)
  | other => do
    let (value, rest) ← readDigits false other
    return (some value, rest)

/-! ## Records -/

/-- The refusal of a record after the last thing that was read of it. Where its
brace follows, its place is after the brace. -/
def refuseRecord (fault : Fault) (input : List Char) : Refusal :=
  match dropSpace input with
  | '\x7d' :: rest => fault.before rest
  | other => fault.before other

/-- Reads the value of a field after its key, which must be the first of that
name. -/
def readField {α : Type} (name : String) (current : Option α) (value : Scanner α) : Scanner α :=
  fun input =>
    if current.isSome then .error (refuseRecord (.duplicateField name) input)
    else do value (← colon input)

/-- Reads the next element of a record written as an array; where the array has
ended there is none. -/
def readElement {α : Type} (first : Bool) (value : Scanner α) : Scanner (Option α) :=
  fun input => do
    match ← nextElement first input with
    | none => return (none, input)
    | some rest =>
      let (result, rest) ← value rest
      return (some result, rest)

/-! ## Members -/

/-- The fields of a member read so far. -/
structure MemberFields where
  name : Option String := none
  value : Option (Option Int) := none

/-- Reads one entry of a member. -/
def readMemberEntry (fields : MemberFields) (key : String) : Scanner MemberFields := fun input =>
  if key = "name" then do
    let (name, rest) ← readField "name" fields.name readText input
    return ({ fields with name := some name }, rest)
  else if key = "value" then do
    let (value, rest) ← readField "value" fields.value readConstant input
    return ({ fields with value := some value }, rest)
  else do return (fields, ← skipValue (← colon input))

/-- The member with the given fields, which were read up to the rest. -/
def MemberFields.member (fields : MemberFields) : Scanner Member := fun rest =>
  match fields.name with
  | some name => .ok (⟨name, fields.value.getD none⟩, rest)
  | none => .error ((Fault.missingField "name").before rest)

/-- Reads a member written as an array, after its bracket. -/
def readMemberElements : Scanner Member := fun input => do
  let (name, rest) ← readElement true readText input
  match name with
  | none =>
    .error ((Fault.emptyRecord "struct EnumMember with 2 elements").shownBy (dropSpace rest))
  | some name =>
    let (value, rest) ← readElement false readConstant rest
    return (⟨name, value.getD none⟩, ← closeList rest)

/-- Reads a member in either form. -/
def readMember : Scanner Member := fun input =>
  match dropSpace input with
  | '\x7b' :: rest => do
    let (fields, rest) ← Json.entries readMemberEntry ⟨none, none⟩ rest
    fields.member rest
  | '[' :: rest => readMemberElements rest
  | other => .error (mismatch "struct EnumMember" other)

/-- Reads the members of a declaration. -/
def readMembers : Scanner (List Member) := fun input =>
  match dropSpace input with
  | '[' :: rest => elements readMember rest
  | other => .error (mismatch "a sequence" other)

/-! ## Declarations -/

/-- The fields of a declaration read so far. -/
structure Fields where
  name : Option String := none
  typeName : Option String := none
  isFlags : Option Bool := none
  members : Option (List Member) := none

/-- Reads one entry of a declaration. -/
def readEntry (fields : Fields) (key : String) : Scanner Fields := fun input =>
  if key = "name" then do
    let (name, rest) ← readField "name" fields.name readText input
    return ({ fields with name := some name }, rest)
  else if key = "underlying_type" then do
    let (typeName, rest) ← readField "underlying_type" fields.typeName readText input
    return ({ fields with typeName := some typeName }, rest)
  else if key = "is_flags" then do
    let (isFlags, rest) ← readField "is_flags" fields.isFlags readTruth input
    return ({ fields with isFlags := some isFlags }, rest)
  else if key = "members" then do
    let (members, rest) ← readField "members" fields.members readMembers input
    return ({ fields with members := some members }, rest)
  else do return (fields, ← skipValue (← colon input))

/-- A declaration of the given name, with the defaults for fields that are
absent. -/
def build (name : String) (fields : Fields) : Declaration :=
  { name
    typeName := fields.typeName.getD "int"
    isFlags := fields.isFlags.getD false
    members := fields.members.getD [] }

/-- The declaration with the given fields, which were read up to the rest. -/
def Fields.declaration (fields : Fields) : Scanner Declaration := fun rest =>
  match fields.name with
  | some name => .ok (build name fields, rest)
  | none => .error ((Fault.missingField "name").before rest)

/-- Reads a declaration written as an array, after its bracket. -/
def readElements : Scanner Declaration := fun input => do
  let (name, rest) ← readElement true readText input
  match name with
  | none =>
    .error ((Fault.emptyRecord "struct EnumDeclaration with 4 elements").shownBy (dropSpace rest))
  | some name =>
    let (typeName, rest) ← readElement false readText rest
    let (isFlags, rest) ← readElement false readTruth rest
    let (members, rest) ← readElement false readMembers rest
    return (build name ⟨none, typeName, isFlags, members⟩, ← closeList rest)

/-- Reads a declaration in either form. -/
def readRecord : Scanner Declaration := fun input =>
  match dropSpace input with
  | '\x7b' :: rest => do
    let (fields, rest) ← Json.entries readEntry ⟨none, none, none, none⟩ rest
    fields.declaration rest
  | '[' :: rest => readElements rest
  | other => .error (mismatch "struct EnumDeclaration" other)

/-- Reads a whole document as a declaration. -/
def read (input : List Char) : Except Refusal Declaration := do
  let (declaration, rest) ← readRecord input
  finish declaration rest

/-- The declaration that a JSON text holds. -/
def ofText (text : String) : Except LocatedFault Declaration :=
  (read text.toList).mapError fun refusal => refusal.locate text.toList

end Declaration

end FlagEnum
