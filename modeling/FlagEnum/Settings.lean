import FlagEnum.Choice
import FlagEnum.Disk
import FlagEnum.Toml.Document

/-!
# Settings

Project defaults from a configuration file: the policy, the domain and whether
values are printed in hexadecimal. They stand in one table of a TOML document,
and the nearest valid file on the way up from a path counts.
-/

namespace FlagEnum

/-- The defaults that a configuration file gives; each may be absent. The domain
is a type name that may turn out to be unknown. -/
structure Settings where
  policy : Option Policy := none
  domain : Option String := none
  hex : Option Bool := none
deriving DecidableEq, Repr

namespace Settings

/-- The policy in force. -/
def policyOrDefault (settings : Settings) : Policy :=
  settings.policy.getD default

/-- The domain in force. -/
def domainOrDefault (settings : Settings) : Except ChoiceError Domain :=
  match settings.domain with
  | some name => Domain.ofName name
  | none => .ok default

/-! ## Reading -/

/-- A policy by its name. A table with that name as its only key and nothing
under it stands for the same. -/
def policyOf? : Toml.Value → Option Policy
  | .string name => Policy.ofName? name
  | .table _ [(name, .table _ [])] => Policy.ofName? name
  | .table _ [(name, .array _ [])] => Policy.ofName? name
  | _ => none

/-- A type name, known or not. -/
def domainOf? : Toml.Value → Option String
  | .string name => some name
  | _ => none

/-- A truth value. -/
def hexOf? : Toml.Value → Option Bool
  | .boolean value => some value
  | _ => none

/-- Takes one entry of the table into the settings. There are no other keys
than the three. -/
def takeEntry? (settings : Settings) (entry : String × Toml.Value) : Option Settings :=
  let (key, value) := entry
  if key = "policy" then do return { settings with policy := some (← policyOf? value) }
  else if key = "domain" then do return { settings with domain := some (← domainOf? value) }
  else if key = "hex" then do return { settings with hex := some (← hexOf? value) }
  else none

/-- The settings in the value of the table's key. An array gives all three by
position; what follows them is ignored. -/
def ofValue? : Toml.Value → Option Settings
  | .table _ entries => entries.foldlM takeEntry? {}
  | .array _ (policy :: domain :: hex :: _) => do
    return ⟨some (← policyOf? policy), some (← domainOf? domain), some (← hexOf? hex)⟩
  | _ => none

/-- The name of the table that holds the settings. -/
def tableName : String := "flagsynth"

/-- The settings in the entries of a document. Without the table all defaults
are absent; other entries are ignored. -/
def ofEntries? (entries : Toml.Entries) : Option Settings :=
  match entries.lookup tableName with
  | none => some {}
  | some value => ofValue? value

/-- The settings in the text of a configuration file, if it is valid. -/
def ofText? (text : String) : Option Settings := do
  ofEntries? (← Toml.read? text.toList)

/-! ## Searching -/

/-- The name of configuration files. -/
def fileName : String := ".flagsynth.toml"

/-- The directory where the search for a path starts: the path itself, or its
parent if it names a file. -/
def searchStart (disk : Disk) (path : Path) : Path :=
  if disk.isFile path then path.parent?.getD path else path

/-- The files that the search for a path tries, in order. -/
def candidates (disk : Disk) (path : Path) : List Path :=
  (searchStart disk path).selfAndParents.map (·.join fileName)

/-- The settings in the file at a path, if there is a valid one. -/
def load? (disk : Disk) (file : Path) : Option Settings :=
  match disk.readText file with
  | .ok text => ofText? text
  | .error _ => none

/-- Settings and the file that they come from; the defaults come from none. -/
structure Located where
  settings : Settings := {}
  file : Option Path := none

/-- The settings of the first candidate that is valid. Others are passed over. -/
def search (disk : Disk) (path : Path) : Located :=
  let located := (candidates disk path).findSome? fun file =>
    (load? disk file).map fun settings => (⟨settings, some file⟩ : Located)
  located.getD {}

/-- The path from which the search starts when none is given. -/
def here : Path := ⟨['.']⟩

end Settings

end FlagEnum
