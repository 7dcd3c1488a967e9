import FlagEnum.Declaration.Writer
import FlagEnum.Text.Style
import FlagEnum.Text.Table

/-!
# Reports

What each command prints and whether it produced a value. A report is plain
text or one JSON document; reasons for failure go to the error channel in the
plain form and into the document in the other.
-/

namespace FlagEnum

/-- How a report is written. -/
structure Format where
  json : Bool := false
  hex : Bool := false
  color : Bool := false
deriving DecidableEq, Repr

/-- A printed report, and whether the command produced what was asked for. -/
structure Report where
  produced : Bool
  out : String := ""
  err : String := ""
deriving DecidableEq, Repr

namespace Report

open Text

/-- A report that is one JSON document. -/
def document (produced : Bool) (content : Json) : Report :=
  { produced, out := content.indented ++ "\n" }

/-! ## The value of a new flag -/

/-- Reports the value that a policy offers beside the values in use. -/
def next (values : List Int) (domain : Domain) (policy : Policy) (format : Format) : Report :=
  match policy.choose domain values with
  | .ok flag =>
    if format.json then
      document true (.object
        [ ("success", .boolean true),
          ("domain", .string flag.domain.keyword),
          ("policy", .string policy.name),
          ("value", .integer flag.value),
          ("hex", .string flag.toHex),
          ("shift", .string flag.toShift) ])
    else { produced := true, out := flag.render format.hex ++ "\n" }
  | .error error =>
    if format.json then
      document false (.object
        [ ("success", .boolean false),
          ("domain", .string domain.keyword),
          ("policy", .string policy.name),
          ("error", .string error.message) ])
    else
      { produced := false
        err := Style.redBold.paint format.color "No value available:" ++ " " ++
          error.message ++ "\n" }

/-! ## The free flags -/

/-- The row of a free flag: its bit, its value and its shift expression. -/
def flagRow (hex : Bool) (flag : Flag) : List String :=
  [ String.ofList (decimalDigits (flag.bitIndex?.getD 0)), flag.render hex, flag.toShift ]

/-- The number of items of a list, as text. -/
def count {α : Type} (items : List α) : String :=
  String.ofList (decimalDigits items.length)

/-- Reports the flags that the values in use leave free. -/
def list (values : List Int) (domain : Domain) (format : Format) : Report :=
  let free := domain.freeFlags values
  let produced := !free.isEmpty
  if format.json then document produced (.array (free.map Flag.toJson))
  else if free.isEmpty then
    { produced
      out := Style.yellow.paint format.color
        ("No free power-of-two values in " ++ domain.keyword ++ ".") ++ "\n" }
  else
    let table : Table := ⟨["Bit", "Value", "Shift"], free.map (flagRow format.hex)⟩
    { produced
      out := table.render ++ "\n" ++ Style.greenBold.paint format.color (count free) ++ " of " ++
        String.ofList (decimalDigits domain.slots) ++ " slots free in " ++ domain.keyword ++ "\n" }

/-! ## Offers -/

/-- Reports that nothing is offered on a declaration. -/
def declined (declaration : Declaration) (format : Format) : Report :=
  if format.json then
    document false (.object
      [ ("enum", .string declaration.name),
        ("error", .string declaration.declineReason),
        ("success", .boolean false) ])
  else
    { produced := false
      err := Style.yellowBold.paint format.color "Not offered:" ++ " " ++
        declaration.declineReason ++ "\n" }

/-- Whether a document on an offer can hold an integer: it must fit 64 bits,
signed or unsigned. -/
def isStorable (value : Int) : Bool :=
  -(1 <<< 63) ≤ value && value < 1 <<< 64

/-- Whether a document can hold all constants of a declaration. -/
def holds (declaration : Declaration) : Bool :=
  declaration.members.all fun member => member.value.all isStorable

/-- Reports a new member for a declaration. A document that cannot hold the
declaration is not written, and the command has no report. -/
def member (declaration : Declaration) (policy : Policy) (format : Format) : Option Report :=
  match declaration.suggest Member.value policy with
  | none => some (declined declaration format)
  | some offer =>
    if format.json then
      let updated := declaration.accept offer
      if holds updated then
        some (document true (.object
          [ ("declaration", updated.toReport),
            ("member", offer.toJson),
            ("success", .boolean true) ]))
      else none
    else
      some
        { produced := true
          out := Style.greenBold.paint format.color offer.name ++ " = " ++
            offer.flag.render format.hex ++ "\n" }

/-- The row of a member: its name, its value, and a mark if the value is one of
those offered. -/
def memberRow (domain : Domain) (offers : List NamedFlag) (format : Format) (member : Member) :
    List String :=
  let shown :=
    match member.value with
    | some value => Flag.render ⟨domain, value⟩ format.hex
    | none => "?"
  let mark :=
    if offers.any fun offer => offer.name == member.name then
      Style.green.paint format.color "generated"
    else ""
  [member.name, shown, mark]

/-- Reports values for the members of a declaration that have none. A document
that cannot hold the declaration is not written, and the command has no report. -/
def assign (declaration : Declaration) (policy : Policy) (format : Format) : Option Report :=
  match declaration.assign Member.value policy, declaration.offerDomain? with
  | some offers, some domain =>
    let updated := declaration.record offers
    if format.json then
      if holds updated then
        some (document true (.object
          [ ("assigned", .array (offers.map NamedFlag.toJson)),
            ("declaration", updated.toReport),
            ("success", .boolean true) ]))
      else none
    else
      let table : Table :=
        ⟨["Member", "Value", ""], updated.members.map (memberRow domain offers format)⟩
      some
        { produced := true
          out := table.render ++ "\nAssigned " ++
            Style.greenBold.paint format.color (count offers) ++ " value(s) in " ++
            updated.name ++ "\n" }
  | _, _ => some (declined declaration format)

end Report

end FlagEnum
