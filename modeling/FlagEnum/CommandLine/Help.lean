import FlagEnum.CommandLine.Grammar
import FlagEnum.Policy

/-!
# Help texts

The help of the program and of its commands, laid out from a description of
each switch and argument. Commands that have more to say about a switch have a
summary, with one line for each, and a full form with paragraphs.
-/

namespace FlagEnum.CommandLine

/-- What a help text is about. -/
inductive Topic where
  | program
  | command (verb : Verb)
  | help
deriving DecidableEq, Repr

namespace Help

/-- Text filled with blanks on its right. -/
def fill (width : Nat) (text : String) : String :=
  text ++ String.ofList (List.replicate (width - text.length) ' ')

/-- What a command does. -/
def aboutVerb : Verb → String
  | .next => "Print the value for a new member, given the values already in use"
  | .list => "List every power of two not used by the given values"
  | .member => "Suggest a new member for the flags enum described in a JSON file"
  | .assign => "Generate values for the members of a flags enum that have none"

/-- What the command that prints help does. -/
def aboutHelp : String := "Print this message or the help of the given subcommand(s)"

/-- What a switch does. -/
def aboutSwitch : Switch → String
  | .domain => "Underlying type of the enum (overrides config)"
  | .policy => "How to pick the new value (overrides config)"
  | .json => "Output raw JSON"
  | .hex => "Print values as hexadecimal literals (overrides config)"
  | .verbose => "Enable debug logging on stderr"
  | .help => "Print help"
  | .version => "Print version"

/-- What a policy does. -/
def aboutPolicy : Policy → String
  | .lowestFree =>
    "Offer the smallest positive power of two not already used, filling gaps left between " ++
      "explicit values"
  | .aboveHighest => "Offer double the highest power-of-two explicit value"

/-- The argument of a command as usage lines show it. -/
def operand (verb : Verb) : String :=
  if verb.takesValues then "[VALUES]..." else "<FILE>"

/-- What the argument of a command is. -/
def aboutOperand (verb : Verb) : String :=
  if verb.takesValues then "Values of the existing members (decimal, 0x, 0b or 0o)"
  else "Path to the enum declaration (JSON)"

/-- The spelling of a switch: its letter, its long name and its value. -/
def spelling (switch : Switch) : String :=
  let letter :=
    match switch.letter? with
    | some letter => "-" ++ String.ofList [letter] ++ ", "
    | none => "    "
  let value := if switch.takesValue then " <" ++ switch.long.toUpper ++ ">" else ""
  letter ++ "--" ++ switch.long ++ value

/-- Whether a command has a full form of its help. -/
def hasFullForm (verb : Verb) : Bool :=
  (Level.command verb).switches.contains .policy

/-- Where the help points to the other of its two forms. -/
def pointer (verb : Verb) (full : Bool) : String :=
  if !hasFullForm verb then ""
  else if full then " (see a summary with '-h')"
  else " (see more with '--help')"

/-- What a switch does, in the summary of a command. -/
def summaryOf (verb : Verb) : Switch → String
  | .policy =>
    aboutSwitch .policy ++ " [possible values: " ++
      ", ".intercalate (Policy.all.map Policy.name) ++ "]"
  | .help => aboutSwitch .help ++ pointer verb false
  | switch => aboutSwitch switch

/-- Pairs of texts in two columns, two blanks in and two apart. -/
def columns (rows : List (String × String)) : List String :=
  let width := (rows.map fun row => row.1.length).foldl max 0
  rows.map fun row => "  " ++ fill width row.1 ++ "  " ++ row.2

/-- The indentation of paragraphs. -/
def margin : String := "          "

/-- The paragraph about a switch in the full form: the switch, what it does,
and the values that it may have. -/
def paragraph (verb : Verb) (switch : Switch) : List String :=
  let about := if switch = .help then aboutSwitch .help ++ pointer verb true else aboutSwitch switch
  let width := (Policy.all.map fun policy => policy.name.length).foldl max 0
  let values :=
    if switch = .policy then
      ["", margin ++ "Possible values:"] ++ Policy.all.map fun policy =>
        margin ++ "- " ++ fill (width + 2) (policy.name ++ ": ") ++ aboutPolicy policy
    else []
  ["  " ++ spelling switch, margin ++ about] ++ values

/-- The first lines of the help of a command. -/
def opening (verb : Verb) : List String :=
  [ aboutVerb verb, "",
    "Usage: " ++ programName ++ " " ++ verb.name ++ " [OPTIONS] " ++ operand verb, "",
    "Arguments:" ]

/-- The summary of a command. -/
def summary (verb : Verb) : List String :=
  opening verb ++ columns [(operand verb, aboutOperand verb)] ++ ["", "Options:"] ++
    columns ((Level.command verb).switches.map fun switch =>
      (spelling switch, summaryOf verb switch))

/-- The full help of a command. -/
def fullForm (verb : Verb) : List String :=
  opening verb ++ ["  " ++ operand verb, margin ++ aboutOperand verb, "", "Options:"] ++
    [""].intercalate ((Level.command verb).switches.map (paragraph verb))

/-- What the help of the program says about files and the environment. -/
def notes : List String :=
  [ "CONFIGURATION FILE (.flagsynth.toml):",
    "  Create this file in your project root to set defaults.",
    "",
    "  [flagsynth]",
    "  policy = \"use-all-available-values\"  # or \"start-from-highest-explicit-value\"",
    "  domain = \"int\"                       # underlying type: sbyte, byte, short, ushort,",
    "                                       # int, uint, long, ulong",
    "  hex = false                          # print values as hex literals",
    "",
    "ENUM FILES (member, assign):",
    "  \x7b\"name\": \"Access\", \"underlying_type\": \"byte\", \"is_flags\": true,",
    "   \"members\": [\x7b\"name\": \"None\", \"value\": 0\x7d, \x7b\"name\": \"Read\"\x7d]\x7d",
    "",
    "LOGGING:",
    "  Set FLAGSYNTH_LOG to a tracing filter (e.g. \"flagsynth=debug\"), or pass --verbose." ]

/-- The help of the program. -/
def program : List String :=
  [ programName ++ " - next power-of-two values for flags enumerations", "",
    "Usage: " ++ programName ++ " [OPTIONS] <COMMAND>", "",
    "Commands:" ] ++
    columns ((Verb.all.map fun verb => (verb.name, aboutVerb verb)) ++ [(helpName, aboutHelp)]) ++
    ["", "Options:"] ++
    columns (Level.program.switches.map fun switch => (spelling switch, aboutSwitch switch)) ++
    [""] ++ notes

/-- The help of the command that prints help. -/
def ofHelp : List String :=
  [ aboutHelp, "", "Usage: " ++ programName ++ " " ++ helpName ++ " [COMMAND]...", "",
    "Arguments:" ] ++
    columns [("[COMMAND]...", "Print help for the subcommand(s)")]

/-- The lines of a help text. -/
def lines (topic : Topic) (full : Bool) : List String :=
  match topic with
  | .program => program
  | .help => ofHelp
  | .command verb => if full && hasFullForm verb then fullForm verb else summary verb

/-- A help text. -/
def text (topic : Topic) (full : Bool) : String :=
  "\n".intercalate (lines topic full) ++ "\n"

end Help

end FlagEnum.CommandLine
