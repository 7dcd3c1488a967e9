import FlagEnum.Proofs.Alike
import FlagEnum.Proofs.Switches

/-!
# Switches and settings

What settings say can be said by switches instead, and switches come first. Both
are statements about two runs: one with settings and one without them, or two
runs with the same switches in trees whose settings differ.
-/

namespace FlagEnum

namespace Report

/-! ## Documents -/

variable {format other : Format}

/-- How integers are printed makes no difference to a document. -/
theorem next_document (values : List Int) (domain : Domain) (policy : Policy)
    (isDocument : format.json = true) (otherIsDocument : other.json = true) :
    next values domain policy format = next values domain policy other := by
  simp only [next, isDocument, otherIsDocument, if_true]

private theorem list_document (values : List Int) (domain : Domain)
    (isDocument : format.json = true) (otherIsDocument : other.json = true) :
    list values domain format = list values domain other := by
  simp only [list, isDocument, otherIsDocument, if_true]

private theorem declined_document (declaration : Declaration)
    (isDocument : format.json = true) (otherIsDocument : other.json = true) :
    declined declaration format = declined declaration other := by
  simp only [declined, isDocument, otherIsDocument, if_true]

private theorem member_document (declaration : Declaration) (policy : Policy)
    (isDocument : format.json = true) (otherIsDocument : other.json = true) :
    member declaration policy format = member declaration policy other := by
  simp only [member, isDocument, otherIsDocument, if_true,
    declined_document declaration isDocument otherIsDocument]

private theorem assign_document (declaration : Declaration) (policy : Policy)
    (isDocument : format.json = true) (otherIsDocument : other.json = true) :
    assign declaration policy format = assign declaration policy other := by
  simp only [assign, isDocument, otherIsDocument, if_true,
    declined_document declaration isDocument otherIsDocument]

end Report

namespace CommandLine

/-- What switches have to say in place of settings, as far as a command knows
them. -/
def Verb.supply (verb : Verb) (policy : Policy) (domain : Domain) (hex : Bool) : Supply where
  policy := if .policy ∈ (Level.command verb).switches then some policy else none
  domain := if .domain ∈ (Level.command verb).switches then some domain else none
  hex := hex

/-- Whether a request leaves nothing to settings, apart from how integers are
printed, and asks for a document. -/
structure Request.Explicit (request : Request) : Prop where
  json : request.options.json = true
  policy : .policy ∈ (Level.command request.verb).switches → request.options.policy ≠ none
  domain : .domain ∈ (Level.command request.verb).switches → request.options.domain ≠ none

/-- A request whose file, if it has one, is no configuration file. -/
def Request.SparesSettings (request : Request) : Prop :=
  ∀ file, request.file? = some file →
    (Tree.parts (Path.ofString file)).getLast? ≠ some Settings.fileName

end CommandLine

namespace Program

open CommandLine

/-- The settings in force for a request: those around its file, or around the
current directory. -/
def settingsFor (disk : Disk) (request : Request) : Settings :=
  let start := request.file?.elim Settings.here Path.ofString
  (Settings.search disk start).settings

/-! ## Outcomes that match -/

/-- Two outcomes are the same, or both command lines are wrong, or a file is
missing in both runs for another reason, since its path passes a configuration
file as if it were a directory. Outcomes have no log lines, so this does not
speak for the error channel; what follows for two runs is that the code and the
printed text agree (`Matches.exit`). -/
inductive Outcome.Matches : Outcome → Outcome → Prop where
  | same (outcome : Outcome) : Matches outcome outcome
  | refused (left right : UsageError) : Matches (.refused left) (.refused right)
  | failed (file : String) (left right : DiskError)
      (passes : Settings.fileName ∈ Tree.parts (Path.ofString file))
      (isMissing : left ∈ [.missing, .throughFile])
      (otherIsMissing : right ∈ [.missing, .throughFile]) :
      Matches (.failed file (.disk left)) (.failed file (.disk right))

/-- Matching outcomes end with the same code and print the same. -/
theorem Outcome.Matches.exit {left right : Outcome} (both : left.Matches right) :
    left.exit.code = right.exit.code ∧ left.exit.out = right.exit.out := by
  cases both <;> exact ⟨rfl, rfl⟩

variable {left right : Children} {current : List String} {color : Bool}

private theorem readText_of_isMissing {disk : Disk} {path : Path}
    (missing : (disk path).isMissing = true) :
    ∃ error ∈ [DiskError.missing, .throughFile], disk.readText path = .error error := by
  unfold Disk.readText
  cases named : disk path with
  | nothing => exact ⟨.missing, by decide, rfl⟩
  | throughFile => exact ⟨.throughFile, by decide, rfl⟩
  | tooLong | unnamable | directory | file =>
    rw [named] at missing
    cases missing

/-- A command on a declaration ends alike in both trees, if it does the same with
the settings of either. -/
theorem onDeclaration_alike (alike : Tree.Alike left right) {file : String}
    {command other : Declaration → Settings → Option Report}
    (isOther : (Tree.parts (Path.ofString file)).getLast? ≠ some Settings.fileName)
    (same : ∀ declaration,
      command declaration (Settings.search (Tree.disk left current) (Path.ofString file)).settings =
        other declaration
          (Settings.search (Tree.disk right current) (Path.ofString file)).settings) :
    (onDeclaration (Tree.disk left current) file command).Matches
      (onDeclaration (Tree.disk right current) file other) := by
  simp only [onDeclaration, loadDeclaration]
  rcases Tree.disk_alike alike isOther with sameNamed | ⟨passes, missing, otherMissing⟩
  · have sameText : (Tree.disk left current).readText (Path.ofString file) =
        (Tree.disk right current).readText (Path.ofString file) := by
      unfold Disk.readText
      rw [sameNamed]
    rw [sameText]
    split
    · exact .same _
    · rw [same]
      exact .same _
  · obtain ⟨error, isMissing, fails⟩ := readText_of_isMissing missing
    obtain ⟨otherError, otherIsMissing, otherFails⟩ := readText_of_isMissing otherMissing
    rw [fails, otherFails]
    exact .failed file error otherError passes isMissing otherIsMissing

/-! ## Switches in place of settings -/

section Supplied

variable {verb : Verb} {options : Options} (policy : Policy) (typeName : String) (domain : Domain)
  (hex : Bool) (plain : options = Supply.apply {} options)

include plain

private theorem policyOf_supplied (known : .policy ∈ (Level.command verb).switches) :
    policyOf options ⟨policy, typeName, hex⟩ =
      policyOf ((verb.supply policy domain hex).apply options) {} := by
  rw [plain]
  simp only [policyOf, Supply.apply, Verb.supply, known, if_true]
  rfl

private theorem formatOf_supplied (verb : Verb) :
    formatOf options ⟨policy, typeName, hex⟩ color =
      formatOf ((verb.supply policy domain hex).apply options) {} color := by
  rw [plain]
  simp only [formatOf, Supply.apply, Verb.supply, Option.getD_some, Option.getD_none, Bool.false_or,
    Bool.or_false]

private theorem inDomain_supplied (known : .domain ∈ (Level.command verb).switches)
    (supported : Domain.ofName? typeName = some domain) (command : Domain → Report) :
    inDomain options ⟨policy, typeName, hex⟩ command =
      inDomain ((verb.supply policy domain hex).apply options) {} command := by
  rw [plain]
  simp only [inDomain, Supply.apply, Verb.supply, known, if_true, Settings.domainOrDefault,
    Domain.ofName, supported]

end Supplied

section Answers

variable {root bare : Children} (alike : Tree.Alike root bare) (isBare : Tree.Bare bare)
  {policy : Policy} {typeName : String} {domain : Domain} {hex : Bool}

include alike isBare

/-- A command on a declaration ends alike with its settings and with switches
that say the same. -/
theorem onDeclaration_supplied {file : String} {options : Options} {verb : Verb}
    (command : Declaration → Policy → Format → Option Report)
    (known : .policy ∈ (Level.command verb).switches) (plain : options = Supply.apply {} options)
    (inForce : (Settings.search (Tree.disk root current) (Path.ofString file)).settings =
      ⟨policy, typeName, hex⟩)
    (isOther : (Tree.parts (Path.ofString file)).getLast? ≠ some Settings.fileName) :
    let supplied := (verb.supply policy domain hex).apply options
    (onDeclaration (Tree.disk root current) file fun declaration settings =>
      command declaration (policyOf options settings) (formatOf options settings color)).Matches
      (onDeclaration (Tree.disk bare current) file fun declaration settings =>
        command declaration (policyOf supplied settings) (formatOf supplied settings color)) := by
  intro supplied
  refine onDeclaration_alike alike isOther fun declaration => ?_
  rw [inForce, isBare.search, policyOf_supplied policy typeName domain hex plain known,
    formatOf_supplied policy typeName domain hex plain verb]

/-- A request carried out with settings ends like one that says the same by
switches, in the tree without them. -/
theorem answer_supplied {request : Request} (supported : Domain.ofName? typeName = some domain)
    (plain : request.options = Supply.apply {} request.options)
    (inForce : settingsFor (Tree.disk root current) request = ⟨policy, typeName, hex⟩)
    (spares : request.SparesSettings) :
    (answer (Tree.disk root current) color request).Matches
      (answer (Tree.disk bare current) color
        (request.supplied (request.verb.supply policy domain hex))) := by
  cases request with
  | next values options =>
    replace plain : options = Supply.apply {} options := plain
    replace inForce :
      (Settings.search (Tree.disk root current) Settings.here).settings = _ := inForce
    have samePolicy := policyOf_supplied policy typeName domain hex plain
      (show .policy ∈ (Level.command .next).switches by decide)
    have sameFormat := @formatOf_supplied color _ policy typeName domain hex plain .next
    have sameDomain := inDomain_supplied policy typeName domain hex plain
      (show .domain ∈ (Level.command .next).switches by decide) supported
    simp only [answer, Request.supplied, Request.verb, inForce, isBare.search, samePolicy,
      sameFormat]
    rw [sameDomain]
    exact .same _
  | list values options =>
    replace plain : options = Supply.apply {} options := plain
    replace inForce :
      (Settings.search (Tree.disk root current) Settings.here).settings = _ := inForce
    have sameFormat := @formatOf_supplied color _ policy typeName domain hex plain .list
    have sameDomain := inDomain_supplied policy typeName domain hex plain
      (show .domain ∈ (Level.command .list).switches by decide) supported
    simp only [answer, Request.supplied, Request.verb, inForce, isBare.search, sameFormat]
    rw [sameDomain]
    exact .same _
  | member file options =>
    exact onDeclaration_supplied alike isBare Report.member
      (show .policy ∈ (Level.command .member).switches by decide) plain inForce (spares file rfl)
  | assign file options =>
    exact onDeclaration_supplied alike isBare Report.assign
      (show .policy ∈ (Level.command .assign).switches by decide) plain inForce (spares file rfl)

end Answers

/-! ## Switches before settings -/

/-- A policy given by a switch is followed whatever the settings. -/
theorem policyOf_given {options : Options} (given : options.policy ≠ none)
    (settings other : Settings) : policyOf options settings = policyOf options other := by
  obtain ⟨policy, isGiven⟩ := Option.ne_none_iff_exists'.mp given
  simp only [policyOf, isGiven, Option.getD_some]

/-- A domain given by a switch is used whatever the settings. -/
theorem inDomain_given {options : Options} (given : options.domain ≠ none)
    {settings others : Settings} {command other : Domain → Report}
    (same : ∀ domain, command domain = other domain) :
    inDomain options settings command = inDomain options others other := by
  obtain ⟨domain, isGiven⟩ := Option.ne_none_iff_exists'.mp given
  simp only [inDomain, isGiven, same]

/-- An explicit request is carried out alike whatever the settings. -/
theorem answer_explicit (alike : Tree.Alike left right) {request : Request}
    (explicit : request.Explicit) (spares : request.SparesSettings) :
    (answer (Tree.disk left current) color request).Matches
      (answer (Tree.disk right current) color request) := by
  obtain ⟨json, policy, domain⟩ := explicit
  cases request with
  | next values options =>
    have policyGiven : options.policy ≠ none := policy (by simp [Request.verb, Level.switches])
    have domainGiven : options.domain ≠ none := domain (by simp [Request.verb, Level.switches])
    rw [answer, answer, inDomain_given domainGiven]
    · exact .same _
    · intro domain
      rw [policyOf_given policyGiven]
      exact Report.next_document values domain _ json json
  | list values options =>
    have domainGiven : options.domain ≠ none := domain (by simp [Request.verb, Level.switches])
    rw [answer, answer, inDomain_given domainGiven]
    · exact .same _
    · exact fun domain => Report.list_document values domain json json
  | member file options =>
    have policyGiven : options.policy ≠ none := policy (by simp [Request.verb, Level.switches])
    simp only [answer]
    refine onDeclaration_alike alike (spares file rfl) fun declaration => ?_
    rw [policyOf_given policyGiven]
    exact Report.member_document declaration _ json json
  | assign file options =>
    have policyGiven : options.policy ≠ none := policy (by simp [Request.verb, Level.switches])
    simp only [answer]
    refine onDeclaration_alike alike (spares file rfl) fun declaration => ?_
    rw [policyOf_given policyGiven]
    exact Report.assign_document declaration _ json json

/-! ## Whole runs -/

/-- Settings in force can be replaced by switches that say the same, anywhere
after the command, in the tree without them. With explicit switches it makes no
difference what settings there are. Either way the runs end with the same code
and print the same; the error channel is left out. -/
theorem run_precedence (current : List String) (color : Bool) :
    (∀ (root bare : Children) (before plain flagged : List String) (verb : Verb) (policy : Policy)
        (typeName : String) (domain : Domain) (hex : Bool),
      Tree.Alike root bare → Tree.Bare bare →
      (∀ argument ∈ before, Verb.ofName? argument = none ∧ argument ≠ helpName) →
      isFree plain = true → Domain.ofName? typeName = some domain →
      Draft.Inserts verb {} (verb.supply policy domain hex) plain flagged →
      (∀ request, read (before ++ verb.name :: plain) = .ok request → request.SparesSettings ∧
        settingsFor (Tree.disk root current) request = ⟨policy, typeName, hex⟩) →
      let configured := run (Tree.disk root current) color (before ++ verb.name :: plain)
      let given := run (Tree.disk bare current) color (before ++ verb.name :: flagged)
      configured.Matches given ∧ configured.exit.code = given.exit.code ∧
        configured.exit.out = given.exit.out) ∧
    ∀ (left right : Children) (arguments : List String), Tree.Alike left right →
      (∀ request, read arguments = .ok request → request.SparesSettings ∧ request.Explicit) →
      let first := run (Tree.disk left current) color arguments
      let second := run (Tree.disk right current) color arguments
      first.Matches second ∧ first.exit.code = second.exit.code ∧
        first.exit.out = second.exit.out := by
  constructor
  · intro root bare before plain flagged verb policy typeName domain hex alike isBare front free
      supported inserts inForce configured given
    suffices both : configured.Matches given from ⟨both, both.exit⟩
    have parallel := (read_inserts front free inserts).named
    unfold configured given run
    -- Only how the second line is read compared with the first matters from here on.
    generalize read (before ++ verb.name :: flagged) = other at parallel
    cases isRead : read (before ++ verb.name :: plain) with
    | error stop =>
      rw [isRead] at parallel
      cases parallel with
      | stopped stop => cases stop <;> exact .same _
      | wrong left right => exact .refused left right
    | ok request =>
      obtain ⟨supplied, rfl, ⟨rfl, isPlain⟩, _⟩ := (isRead ▸ parallel).of_ok
      obtain ⟨spares, isInForce⟩ := inForce request isRead
      have isVerb := verb_of_read front isRead
      rw [← isVerb]
      exact answer_supplied alike isBare supported isPlain isInForce spares
  · intro left right arguments alike explicit first second
    suffices both : first.Matches second from ⟨both, both.exit⟩
    unfold first second run
    cases isRead : read arguments with
    | error stop => cases stop <;> exact .same _
    | ok request =>
      obtain ⟨spares, isExplicit⟩ := explicit request isRead
      exact answer_explicit alike isExplicit spares

/-- A declaration in a directory of its own, and no settings. Its one constant is
a flag above the lowest, so that the policies differ on it. -/
def plainTree : Children :=
  [("sub", .directory [("E.json", .file
    ("\x7b\"name\":\"E\",\"is_flags\":true,\"members\":" ++
      "[\x7b\"name\":\"A\",\"value\":4\x7d]\x7d").toUTF8)])]

/-- The same with settings at the top. -/
def configuredTree (settings : String) : Children :=
  (Settings.fileName, .file settings.toUTF8) :: plainTree

/-- No directory of the plain tree has settings. -/
theorem plainTree_bare : Tree.Bare plainTree := by
  refine Tree.Bare.nil.cons (fun inner isInner => ?_) (fun content isFile => by cases isFile)
  cases isInner
  exact Tree.Bare.nil.cons (fun inner isInner => by cases isInner) fun content _ => by decide

/-- Settings found above a declaration, and switches on both sides of its file:
both print the double of its constant, where the lowest flag is printed without
either. Then a policy and an unknown type in the settings of one tree only: the
switches are followed in both. -/
theorem run_precedence_nested :
    (let root := configuredTree
        "[flagsynth]\npolicy = \"start-from-highest-explicit-value\"\ndomain = \"byte\"\nhex = true\n"
      let configured := run (Tree.disk root []) false ["-v", "member", "sub/E.json"]
      let given := run (Tree.disk plainTree []) false
        ["-v", "member", "--hex", "sub/E.json", "--policy", "highest"]
      let unset := run (Tree.disk plainTree []) false ["-v", "member", "sub/E.json"]
      configured.Matches given ∧ configured.exit.code = given.exit.code ∧
        configured.exit.out = given.exit.out ∧
        given.exit.out = "EnumMember = 0x00000008\n" ∧ unset.exit.out = "EnumMember = 1\n") ∧
    (let root := configuredTree
        "[flagsynth]\npolicy = \"use-all-available-values\"\ndomain = \"float\"\n"
      let arguments := ["next", "4", "--json", "--policy=highest", "-t", "byte"]
      let first := run (Tree.disk root []) true arguments
      let second := run (Tree.disk plainTree []) true arguments
      first.Matches second ∧ first.exit.code = second.exit.code ∧
        first.exit.out = second.exit.out ∧
        second = .reported (.document true (.object
          [ ("success", .boolean true),
            ("domain", .string "byte"),
            ("policy", .string "start-from-highest-explicit-value"),
            ("value", .integer 8),
            ("hex", .string "0x08"),
            ("shift", .string "1 << 3") ]))) := by
  constructor
  · intro root configured given unset
    obtain ⟨both, sameCode, sameOut⟩ : configured.Matches given ∧
        configured.exit.code = given.exit.code ∧ configured.exit.out = given.exit.out := by
      refine (run_precedence [] false).1 root plainTree ["-v"] ["sub/E.json"] _ .member
        .aboveHighest "byte" .byte true (Tree.alike_cons _ rfl) plainTree_bare (by decide) rfl rfl
        ?_ ?_
      · exact .hex rfl (.keep _ (by decide) (.policy (by decide) rfl rfl (.done _ _)))
      · intro request isRead
        have same : read (["-v"] ++ Verb.member.name :: ["sub/E.json"]) =
            .ok (.member "sub/E.json" {}) := rfl
        rw [same] at isRead
        cases isRead
        refine ⟨?_, rfl⟩
        rintro file isFile
        cases isFile
        decide
    exact ⟨both, sameCode, sameOut, rfl, rfl⟩
  · intro root arguments first second
    obtain ⟨both, sameCode, sameOut⟩ : first.Matches second ∧
        first.exit.code = second.exit.code ∧ first.exit.out = second.exit.out := by
      refine (run_precedence [] true).2 root plainTree arguments (Tree.alike_cons _ rfl) ?_
      intro request isRead
      have same : read arguments =
          .ok (.next [4] { json := true, policy := some .aboveHighest, domain := some .byte }) := rfl
      rw [same] at isRead
      cases isRead
      refine ⟨?_, rfl, fun _ => ?_, fun _ => ?_⟩
      · rintro file isFile
        cases isFile
      · rintro isNone
        cases isNone
      · rintro isNone
        cases isNone
    exact ⟨both, sameCode, sameOut, rfl⟩

end Program

end FlagEnum
