/-!
# The grammar of the command line

The commands, the switches that each of them knows, and what else it takes.
How arguments are read by it is the subject of `FlagEnum.CommandLine`.
-/

namespace FlagEnum.CommandLine

/-- The name of the program. -/
def programName : String := "flagsynth"

/-- The version of the program. -/
def programVersion : String := "0.3.1"

/-- The commands. -/
inductive Verb where
  | next
  | list
  | member
  | assign
deriving DecidableEq, Repr

namespace Verb

/-- Every command once, in the order of the help text. -/
def all : List Verb := [next, list, member, assign]

/-- The name of a command. -/
def name : Verb → String
  | next => "next"
  | list => "list"
  | member => "member"
  | assign => "assign"

/-- The command with this name, exactly. -/
def ofName? (text : String) : Option Verb :=
  all.find? fun verb => verb.name == text

/-- Whether a command takes the values in use; the others take a file. -/
def takesValues : Verb → Bool
  | next | list => true
  | member | assign => false

end Verb

/-- The name of the command that prints help. -/
def helpName : String := "help"

/-- The switches of the program and of its commands. -/
inductive Switch where
  | domain
  | policy
  | json
  | hex
  | verbose
  | help
  | version
deriving DecidableEq, Repr

namespace Switch

/-- The long name of a switch, without its dashes. -/
def long : Switch → String
  | domain => "domain"
  | policy => "policy"
  | json => "json"
  | hex => "hex"
  | verbose => "verbose"
  | help => "help"
  | version => "version"

/-- The letter of a switch, if it has one. -/
def letter? : Switch → Option Char
  | domain => some 't'
  | policy => some 'p'
  | json => none
  | hex => none
  | verbose => some 'v'
  | help => some 'h'
  | version => some 'V'

/-- Whether a value belongs to a switch. -/
def takesValue : Switch → Bool
  | domain | policy => true
  | json | hex | verbose | help | version => false

end Switch

/-- The place of an argument: before the command, or after it. -/
inductive Level where
  | program
  | command (verb : Verb)
deriving DecidableEq, Repr

/-- The switches that are known at a place, in the order of the help text. -/
def Level.switches : Level → List Switch
  | program => [.verbose, .help, .version]
  | command .next => [.domain, .policy, .json, .hex, .verbose, .help]
  | command .list => [.domain, .json, .hex, .verbose, .help]
  | command .member => [.policy, .json, .hex, .verbose, .help]
  | command .assign => [.policy, .json, .hex, .verbose, .help]

/-- The switch with this long name, exactly. -/
def Level.ofLong? (level : Level) (name : String) : Option Switch :=
  level.switches.find? fun switch => switch.long == name

/-- The switch with this letter. -/
def Level.ofLetter? (level : Level) (letter : Char) : Option Switch :=
  level.switches.find? fun switch => switch.letter? == some letter

end FlagEnum.CommandLine
