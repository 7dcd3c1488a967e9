import FlagEnum.Json
import FlagEnum.Offer

/-!
# Writing declarations

The JSON values of declarations, members and offers. A declaration has two
orders of its fields: the one of its own document, and the alphabetical one of
reports.
-/

namespace FlagEnum

/-- A member as JSON. A member without a constant has no field for it. -/
def Member.toJson (member : Member) : Json :=
  match member.value with
  | some value => .object [("name", .string member.name), ("value", .integer value)]
  | none => .object [("name", .string member.name)]

/-- A declaration as a document of its own. -/
def Declaration.toJson (declaration : Declaration) : Json :=
  .object
    [ ("name", .string declaration.name),
      ("underlying_type", .string declaration.typeName),
      ("is_flags", .boolean declaration.isFlags),
      ("members", .array (declaration.members.map Member.toJson)) ]

/-- A declaration inside a report, with its fields in alphabetical order. -/
def Declaration.toReport (declaration : Declaration) : Json :=
  .object
    [ ("is_flags", .boolean declaration.isFlags),
      ("members", .array (declaration.members.map Member.toJson)),
      ("name", .string declaration.name),
      ("underlying_type", .string declaration.typeName) ]

/-- An offer inside a report. -/
def NamedFlag.toJson (offer : NamedFlag) : Json :=
  .object [("name", .string offer.name), ("value", offer.flag.toJson)]

end FlagEnum
