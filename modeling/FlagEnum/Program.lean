import FlagEnum.CommandLine
import FlagEnum.Declaration.Reader
import FlagEnum.Report
import FlagEnum.Settings

/-!
# The program

A run of the program is a function of the disk, the arguments and whether
colours are used. Its outcome says what is printed and with which code the
program ends.
-/

namespace FlagEnum.Program

open CommandLine

/-- Why no declaration could be loaded. -/
inductive LoadError where
  | disk (error : DiskError)
  | form (located : Json.LocatedFault)
deriving DecidableEq, Repr

namespace LoadError

/-- What is wrong, without its place. -/
def cause : LoadError → String
  | disk error => error.message
  | form located => located.fault.message

/-- What is reported when no declaration could be loaded. -/
def message : LoadError → String
  | disk error => error.message
  | form located => located.message

end LoadError

/-- What is said of a file that could not be loaded. -/
def failureText (file reason : String) : String :=
  "failed to read " ++ file ++ ": " ++ reason

/-- How a run ends. -/
inductive Outcome where
  /-- Help was asked for. -/
  | help (text : String)
  /-- The version was asked for. -/
  | version (text : String)
  /-- The command line is wrong. -/
  | refused (error : UsageError)
  /-- A command has run. -/
  | reported (report : Report)
  /-- The declaration in a file could not be loaded. -/
  | failed (file : String) (error : LoadError)
  /-- A report had no document, and nothing was printed. -/
  | aborted
deriving DecidableEq, Repr

/-- The code that a run ends with, and what it writes. Log lines, which would go
to the error channel as well, are left out, and the texts there on a wrong
command line and on an aborted run are wordings of this library. -/
structure Exit where
  code : Nat
  out : String := ""
  err : String := ""
deriving DecidableEq, Repr

/-- The code and the two channels of an outcome. -/
def Outcome.exit : Outcome → Exit
  | help text => { code := 0, out := text }
  | version text => { code := 0, out := text }
  | refused error => { code := 1, err := "error: " ++ error.message ++ "\n" }
  | reported report =>
    { code := if report.produced then 0 else 1, out := report.out, err := report.err }
  | failed file error => { code := 1, err := "Error: " ++ failureText file error.message ++ "\n" }
  | aborted => { code := 101, err := "error: a value does not fit the document\n" }

/-- The outcome of a command that may have no report. -/
def ofReport : Option Report → Outcome
  | some report => .reported report
  | none => .aborted

/-- The declaration in a text, if there is one to read. -/
def readDeclaration : Except DiskError String → Except LoadError Declaration
  | .error error => .error (.disk error)
  | .ok text =>
    match Declaration.ofText text with
    | .error located => .error (.form located)
    | .ok declaration => .ok declaration

/-- The declaration in the content of a file. -/
def decodeDeclaration (content : ByteArray) : Except LoadError Declaration :=
  readDeclaration (decodeText content)

/-- The declaration in the file at a path. -/
def loadDeclaration (disk : Disk) (path : Path) : Except LoadError Declaration :=
  readDeclaration (disk.readText path)

/-- The policy of a request: a switch comes before the settings. -/
def policyOf (options : Options) (settings : Settings) : Policy :=
  options.policy.getD settings.policyOrDefault

/-- The format of a report: hexadecimal by a switch or by the settings. -/
def formatOf (options : Options) (settings : Settings) (color : Bool) : Format :=
  { json := options.json, hex := options.hex || settings.hex.getD false, color }

/-- Runs a command in the domain of a request: a switch comes before the
settings, and an unknown type in the settings is an error of theirs. -/
def inDomain (options : Options) (settings : Settings) (command : Domain → Report) : Outcome :=
  match options.domain with
  | some domain => .reported (command domain)
  | none =>
    match settings.domainOrDefault with
    | .ok domain => .reported (command domain)
    | .error error =>
      .reported { produced := false, err := "Error: " ++ error.message ++ " (from config)\n" }

/-- Runs a command on the declaration in a file, with the settings found from
its path. -/
def onDeclaration (disk : Disk) (file : String)
    (command : Declaration → Settings → Option Report) : Outcome :=
  let path := Path.ofString file
  match loadDeclaration disk path with
  | .error error => .failed file error
  | .ok declaration => ofReport (command declaration (Settings.search disk path).settings)

/-- Carries out a request. -/
def answer (disk : Disk) (color : Bool) : Request → Outcome
  | .next values options =>
    let settings := (Settings.search disk Settings.here).settings
    inDomain options settings fun domain =>
      Report.next values domain (policyOf options settings) (formatOf options settings color)
  | .list values options =>
    let settings := (Settings.search disk Settings.here).settings
    inDomain options settings fun domain =>
      Report.list values domain (formatOf options settings color)
  | .member file options =>
    onDeclaration disk file fun declaration settings =>
      Report.member declaration (policyOf options settings) (formatOf options settings color)
  | .assign file options =>
    onDeclaration disk file fun declaration settings =>
      Report.assign declaration (policyOf options settings) (formatOf options settings color)

/-- Runs the program on its arguments, without its name. -/
def run (disk : Disk) (color : Bool) (arguments : List String) : Outcome :=
  match CommandLine.read arguments with
  | .ok request => answer disk color request
  | .error (.help topic full) => .help (Help.text topic full)
  | .error .version => .version (programName ++ " " ++ programVersion ++ "\n")
  | .error (.wrong error) => .refused error

/-- The paths that a run may look at, by which a disk can be read in advance. -/
def consulted (arguments : List String) : List Path :=
  let around (path : Path) : List Path :=
    path :: path.selfAndParents.map (·.join Settings.fileName)
  match CommandLine.read arguments with
  | .ok (.next _ _) | .ok (.list _ _) => around Settings.here
  | .ok (.member file _) | .ok (.assign file _) => around (Path.ofString file)
  | .error _ => []

end FlagEnum.Program
