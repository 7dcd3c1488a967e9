/-!
# Styled text

Colours and weights of printed text, as the control sequences of terminals.
Without colours a style changes nothing.
-/

namespace FlagEnum.Text

/-- How a piece of text is shown. -/
inductive Style where
  | green
  | greenBold
  | yellow
  | yellowBold
  | redBold
deriving DecidableEq, Repr

/-- The parameters of the sequence that switches a style on. -/
def Style.parameters : Style → String
  | green => "32"
  | greenBold => "1;32"
  | yellow => "33"
  | yellowBold => "1;33"
  | redBold => "1;31"

/-- The text in a style, which is switched off again after it. -/
def Style.paint (style : Style) (color : Bool) (text : String) : String :=
  if color then "\x1b[" ++ style.parameters ++ "m" ++ text ++ "\x1b[0m" else text

/-- What the environment says about colours: three variables, each of which may
be unset, and whether the output goes to a terminal. -/
structure ColorHints where
  noColor : Option String := none
  color : Option String := none
  forceColor : Option String := none
  terminal : Bool := false
deriving DecidableEq, Repr

/-- Whether colours are used. A variable that forces them comes first and one
that forbids them second; otherwise a terminal has them unless they are switched
off. A variable is off when it is zero. -/
def ColorHints.enabled (hints : ColorHints) : Bool :=
  if hints.forceColor.any (· != "0") then true
  else if hints.noColor.isSome then false
  else hints.terminal && hints.color.all (· != "0")

end FlagEnum.Text
