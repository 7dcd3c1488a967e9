import FlagEnum.Choice
import FlagEnum.CommandLine.Help
import FlagEnum.Literal

/-!
# Reading the command line

Arguments are read from left to right into a request. Reading stops at the
first thing that is wrong, or where help or the version is asked for. Values
are collected first; they are checked when the next switch, or an argument of
another kind, begins.
-/

namespace FlagEnum.CommandLine

/-- What is wrong with a command line. -/
inductive UsageError where
  /-- There are no arguments. -/
  | nothingGiven
  /-- There are switches, but no command. -/
  | missingCommand
  | unknownCommand
  | unknownArgument
  | missingFile
  /-- A value is absent, empty or not one of those possible. -/
  | invalidValue
  /-- A value is no integer literal or no type name. -/
  | rejectedValue
  | repeatedSwitch
  /-- A switch that takes no value is given one. -/
  | unexpectedValue
deriving DecidableEq, Repr

/-- What is reported about a wrong command line. -/
def UsageError.message : UsageError → String
  | nothingGiven => "no arguments given"
  | missingCommand => "a command is required"
  | unknownCommand => "unrecognized command"
  | unknownArgument => "unexpected argument"
  | missingFile => "a file is required"
  | invalidValue => "a value is missing or not allowed"
  | rejectedValue => "a value cannot be read"
  | repeatedSwitch => "an option is given more than once"
  | unexpectedValue => "an option takes no value"

/-- Why reading stops before a request is complete. -/
inductive Stop where
  | help (topic : Topic) (full : Bool)
  | version
  | wrong (error : UsageError)
deriving DecidableEq, Repr

/-- What a command is asked to do, as far as switches say. -/
structure Options where
  domain : Option Domain := none
  policy : Option Policy := none
  json : Bool := false
  hex : Bool := false
deriving DecidableEq, Repr

/-- A complete request. -/
inductive Request where
  | next (values : List Int) (options : Options)
  | list (values : List Int) (options : Options)
  | member (file : String) (options : Options)
  | assign (file : String) (options : Options)
deriving DecidableEq, Repr

/-! ## The shape of arguments -/

/-- Whether a text is written like a decimal number without a sign: digits, then
perhaps a point and digits, then perhaps an `e` and digits. -/
def isNumber (text : List Char) : Bool :=
  let isDigit (character : Char) : Bool := '0' ≤ character && character ≤ '9'
  let whole := text.takeWhile isDigit
  let fraction :=
    match text.dropWhile isDigit with
    | '.' :: rest => rest.dropWhile isDigit
    | rest => rest
  let exponent :=
    match fraction with
    | [] => true
    | 'e' :: rest => !rest.isEmpty && rest.all isDigit
    | _ => false
  !whole.isEmpty && exponent

/-- The shape of an argument. -/
inductive Shape where
  /-- Two dashes alone: only values follow. -/
  | divider
  /-- A long name, with the value attached to it by an equals sign, if any. -/
  | long (name : String) (value : Option String)
  /-- Letters after one dash. -/
  | letters (text : List Char)
  /-- Anything else; a lone dash is such. -/
  | plain
deriving DecidableEq, Repr

/-- Takes apart the text of a long switch at its first equals sign. -/
def splitLong (text : List Char) : Shape :=
  let name := String.ofList (text.takeWhile (· != '='))
  match text.dropWhile (· != '=') with
  | [] => .long name none
  | _ :: value => .long name (some (String.ofList value))

/-- The shape of an argument. -/
def shapeOf (argument : String) : Shape :=
  match argument.toList with
  | ['-', '-'] => .divider
  | '-' :: '-' :: text => splitLong text
  | ['-'] => .plain
  | '-' :: text => .letters text
  | _ => .plain

/-! ## Arguments of a command -/

/-- Values that are collected but not yet checked. -/
inductive Pending where
  | nothing
  /-- A switch and its value, once it has come. -/
  | ofSwitch (switch : Switch) (value : Option String)
  /-- Arguments that belong to no switch. -/
  | operands (texts : List String)
deriving DecidableEq, Repr

/-- What was read of a command so far. -/
structure Draft where
  verb : Verb
  given : List Switch := []
  options : Options := {}
  values : List Int := []
  file : Option String := none
  pending : Pending := .nothing
  /-- Whether the file was given, checked or not. -/
  hasFile : Bool := false
  /-- Whether the divider has come. -/
  onlyValues : Bool := false

namespace Draft

/-- The place of the arguments. -/
def level (draft : Draft) : Level := .command draft.verb

/-- Notes that a switch is given, which may happen once. -/
def give (draft : Draft) (switch : Switch) : Except Stop Draft :=
  if draft.given.contains switch then .error (.wrong .repeatedSwitch)
  else .ok { draft with given := switch :: draft.given }

/-- Takes a switch that has no value. -/
def set (draft : Draft) (switch : Switch) (full : Bool) : Except Stop Draft :=
  match switch with
  | .help => .error (.help (.command draft.verb) full)
  | .version => .error .version
  | .json => do
    let draft ← draft.give .json
    return { draft with options := { draft.options with json := true } }
  | .hex => do
    let draft ← draft.give .hex
    return { draft with options := { draft.options with hex := true } }
  | other => draft.give other

/-- Takes a switch with its value. -/
def setValue (draft : Draft) (switch : Switch) (text : String) : Except Stop Draft := do
  let draft ← draft.give switch
  match switch with
  | .domain =>
    match Domain.ofName? text with
    | some domain => return { draft with options := { draft.options with domain := some domain } }
    | none => .error (.wrong .rejectedValue)
  | .policy =>
    match Policy.ofArgument? false text with
    | some policy => return { draft with options := { draft.options with policy := some policy } }
    | none => .error (.wrong .invalidValue)
  | _ => .error (.wrong .unexpectedValue)

/-- Takes one argument that belongs to no switch. -/
def takeOperand (draft : Draft) (text : String) : Except Stop Draft :=
  if draft.verb.takesValues then
    match Literal.ofString text with
    | .ok value => .ok { draft with values := draft.values ++ [value] }
    | .error _ => .error (.wrong .rejectedValue)
  else if text.isEmpty then .error (.wrong .invalidValue)
  else .ok { draft with file := some text }

/-- Checks the values that are pending. -/
def settle (draft : Draft) : Except Stop Draft :=
  let settled := { draft with pending := .nothing }
  match draft.pending with
  | .nothing => .ok draft
  | .ofSwitch _ none => .error (.wrong .invalidValue)
  | .ofSwitch switch (some text) => settled.setValue switch text
  | .operands texts => texts.foldlM takeOperand settled

/-- Collects an argument that belongs to no switch. There is only one file. -/
def addOperand (draft : Draft) (text : String) : Except Stop Draft :=
  if draft.verb.takesValues then
    match draft.pending with
    | .operands texts => .ok { draft with pending := .operands (texts ++ [text]) }
    | _ => do
      let draft ← draft.settle
      return { draft with pending := .operands [text] }
  else if draft.hasFile then .error (.wrong .unknownArgument)
  else do
    let draft ← draft.settle
    return { draft with pending := .operands [text], hasFile := true }

/-- Collects an argument that looks like a value: it belongs to the switch that
waits for one, if any. -/
def addValue (draft : Draft) (text : String) : Except Stop Draft :=
  match draft.pending with
  | .ofSwitch switch none => .ok { draft with pending := .ofSwitch switch (some text) }
  | _ => draft.addOperand text

/-- Begins a switch whose value is the next argument. -/
def await (draft : Draft) (switch : Switch) : Except Stop Draft := do
  let draft ← draft.settle
  return { draft with pending := .ofSwitch switch none }

/-- Takes a long switch. -/
def addLong (draft : Draft) (name : String) (value : Option String) : Except Stop Draft :=
  match draft.level.ofLong? name, value with
  | none, _ => .error (.wrong .unknownArgument)
  | some switch, some text =>
    if switch.takesValue then do (← draft.settle).setValue switch text
    else .error (.wrong .unexpectedValue)
  | some switch, none =>
    if switch.takesValue then draft.await switch else do (← draft.settle).set switch true

/-- The value attached to a letter: an equals sign in front does not count. -/
def attached : List Char → String
  | '=' :: rest => String.ofList rest
  | text => String.ofList text

/-- Takes the letters after one dash. A letter that takes a value takes the
rest of the text as such, or the next argument if nothing is left. -/
def addLetters (draft : Draft) : List Char → Except Stop Draft
  | [] => .ok draft
  | letter :: rest =>
    match draft.level.ofLetter? letter with
    | none => .error (.wrong .unknownArgument)
    | some switch =>
      if switch.takesValue then
        if rest.isEmpty then draft.await switch
        else do (← draft.settle).setValue switch (attached rest)
      else
        match draft.settle with
        | .error stop => .error stop
        | .ok settled =>
          match settled.set switch false with
          | .error stop => .error stop
          | .ok next => next.addLetters rest

/-- Takes the next argument. Where values are taken, a dash and a number are a
value. -/
def add (draft : Draft) (argument : String) : Except Stop Draft :=
  if draft.onlyValues then draft.addOperand argument
  else
    match shapeOf argument with
    | .divider => .ok { draft with onlyValues := true }
    | .long name value => draft.addLong name value
    | .letters text =>
      if draft.verb.takesValues && isNumber text then draft.addValue argument
      else draft.addLetters text
    | .plain => draft.addValue argument

/-- The request of a command of which all arguments were read. -/
def request (draft : Draft) : Except Stop Request := do
  let draft ← draft.settle
  match draft.verb, draft.file with
  | .next, _ => return .next draft.values draft.options
  | .list, _ => return .list draft.values draft.options
  | .member, some file => return .member file draft.options
  | .assign, some file => return .assign file draft.options
  | _, none => .error (.wrong .missingFile)

end Draft

/-- Reads the arguments of a command. -/
def readCommand (verb : Verb) (arguments : List String) : Except Stop Request := do
  let draft ← arguments.foldlM Draft.add { verb }
  draft.request

/-! ## Arguments before the command -/

/-- What the arguments of the help command ask for. It takes one name at most. -/
def readHelp : List String → Stop
  | [] => .help .program true
  | [name] =>
    match Verb.ofName? name with
    | some verb => .help (.command verb) true
    | none => if name = helpName then .help .help true else .wrong .unknownCommand
  | _ => .wrong .unknownCommand

/-- Takes a switch before the command. -/
def giveBefore (given : List Switch) (switch : Switch) (full : Bool) :
    Except Stop (List Switch) :=
  match switch with
  | .help => .error (.help .program full)
  | .version => .error .version
  | other =>
    if given.contains other then .error (.wrong .repeatedSwitch) else .ok (other :: given)

/-- Takes the letters after one dash before the command. -/
def lettersBefore (given : List Switch) : List Char → Except Stop (List Switch)
  | [] => .ok given
  | letter :: rest =>
    match Level.program.ofLetter? letter with
    | none => .error (.wrong .unknownArgument)
    | some switch =>
      match giveBefore given switch false with
      | .error stop => .error stop
      | .ok given => lettersBefore given rest

/-- Takes a long switch before the command. -/
def longBefore (given : List Switch) (name : String) (value : Option String) :
    Except Stop (List Switch) :=
  match Level.program.ofLong? name, value with
  | none, _ => .error (.wrong .unknownArgument)
  | some _, some _ => .error (.wrong .unexpectedValue)
  | some switch, none => giveBefore given switch true

/-- What the arguments after a divider before the command amount to. -/
def afterDivider (given : List Switch) : List String → Stop
  | [] => .wrong (if given.isEmpty then .nothingGiven else .missingCommand)
  | name :: _ =>
    if (Verb.ofName? name).isSome || name = helpName then .wrong .unknownArgument
    else .wrong .unknownCommand

/-- Reads arguments from the program's name on. -/
def readFrom (given : List Switch) : List String → Except Stop Request
  | [] => .error (.wrong (if given.isEmpty then .nothingGiven else .missingCommand))
  | argument :: rest =>
    match Verb.ofName? argument with
    | some verb => readCommand verb rest
    | none =>
      if argument = helpName then .error (readHelp rest)
      else
        match shapeOf argument with
        | .divider => .error (afterDivider given rest)
        | .plain => .error (.wrong .unknownCommand)
        | .long name value =>
          match longBefore given name value with
          | .error stop => .error stop
          | .ok given => readFrom given rest
        | .letters text =>
          match lettersBefore given text with
          | .error stop => .error stop
          | .ok given => readFrom given rest

/-- Reads the arguments of the program, without its name. -/
def read (arguments : List String) : Except Stop Request :=
  readFrom [] arguments

end FlagEnum.CommandLine
