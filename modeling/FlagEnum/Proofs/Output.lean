import FlagEnum.Proofs.Drafts
import FlagEnum.Proofs.RoundTrip
import FlagEnum.Proofs.Unambiguous

/-!
# Output as documents

Where JSON is asked for, a command prints one document and a line end. The
document says whether something was produced, and so does the exit code. Only a
type in the settings that is no domain is reported in another way: the error
channel names it, and nothing is printed.
-/

namespace FlagEnum

namespace Report

/-- An output is the text of this value and of no other, with a line end after it. -/
def Prints (out : String) (content : Json) : Prop :=
  ∃ text, out = String.ofList (text ++ ['\n']) ∧ Json.Spells content text ∧
    ∀ other, Json.Spells other text → other = content

/-- A document is printed as the text of its value and of no other. -/
theorem document_prints (produced : Bool) (content : Json) :
    Prints (document produced content).out content := by
  have spells := Json.spells_indentedChars 0 content
  refine ⟨content.indentedChars 0, ?_, spells, fun other otherSpells => otherSpells.unique spells⟩
  rw [document, Json.indented, ← String.toList_inj]
  simp

/-- A report is a document that says, in its only field of that name, whether
something was produced. -/
def SaysSuccess (report : Report) : Prop :=
  ∃ fields, report = document report.produced (.object fields) ∧
    fields.filter (fun field => field.1 == "success") = [("success", .boolean report.produced)]

/-- A report is a document that lists what was produced. -/
def ListsProducts (report : Report) : Prop :=
  ∃ items, report = document report.produced (.array items) ∧ (items ≠ [] ↔ report.produced = true)

variable {declaration : Declaration} {policy : Policy} {format : Format}

private theorem next_saysSuccess (values : List Int) (domain : Domain) (policy : Policy)
    (json : format.json = true) : SaysSuccess (next values domain policy format) := by
  unfold next
  simp only [json, if_true]
  split <;> exact ⟨_, rfl, rfl⟩

private theorem list_listsProducts (values : List Int) (domain : Domain)
    (json : format.json = true) :
    ListsProducts (list values domain format) := by
  simp only [list, json, if_true]
  refine ⟨_, rfl, ?_⟩
  simp [document]

private theorem declined_saysSuccess (declaration : Declaration) (json : format.json = true) :
    SaysSuccess (declined declaration format) := by
  simp only [declined, json, if_true]
  exact ⟨_, rfl, rfl⟩

/-- A declaration that a document can hold has a report on a new member. -/
theorem member_saysSuccess (held : holds declaration = true) (policy : Policy)
    (json : format.json = true) :
    ∃ report, member declaration policy format = some report ∧ SaysSuccess report := by
  unfold member
  cases suggested : declaration.suggest Member.value policy with
  | none => exact ⟨_, rfl, declined_saysSuccess declaration json⟩
  | some offer =>
    simp only [json, if_true, holds_accept suggested, held]
    exact ⟨_, rfl, _, rfl, rfl⟩

/-- A declaration that a document can hold has a report on values. -/
theorem assign_saysSuccess (held : holds declaration = true) (policy : Policy)
    (json : format.json = true) :
    ∃ report, assign declaration policy format = some report ∧ SaysSuccess report := by
  unfold assign
  cases assigned : declaration.assign Member.value policy with
  | none => exact ⟨_, rfl, declined_saysSuccess declaration json⟩
  | some offers =>
    obtain ⟨domain, offered, _⟩ := Declaration.assign_eq_some_iff.mp assigned
    have stillHeld : holds (declaration.record offers) = true := by
      rw [Declaration.holds_record assigned]
      intro member isMember value isValue
      exact Or.inl (holds_iff.mp held member isMember value isValue)
    simp only [offered, json, if_true, stillHeld]
    exact ⟨_, rfl, _, rfl, rfl⟩

end Report

namespace Program

open CommandLine

/-- A document agrees with an exit code about whether something was produced: a
list by having items, and any other by its only success field. -/
def Agrees (request : Request) (content : Json) (code : Nat) : Prop :=
  match request with
  | .list _ _ => ∃ items, content = .array items ∧ (items ≠ [] ↔ code = 0)
  | _ => ∃ fields success, content = .object fields ∧
      fields.filter (fun field => field.1 == "success") = [("success", .boolean success)] ∧
      (success = true ↔ code = 0)

/-- The type of a request is left to the settings, and they name one that is no
domain. -/
def TypeUnknown (disk : Disk) (request : Request) : Prop :=
  request.file? = none ∧ request.options.domain = none ∧
    ∃ typeName, (Settings.search disk Settings.here).settings.domain = some typeName ∧
      Domain.ofName? typeName = none

/-- The declaration of a request, if it takes one, loads and has constants of 64
bits only, signed or unsigned. -/
def LoadsWithin (disk : Disk) (request : Request) : Prop :=
  ∀ file, request.file? = some file →
    ∃ declaration, loadDeclaration disk (.ofString file) = .ok declaration ∧
      ∀ member ∈ declaration.members, ∀ value, member.value = some value →
        -2 ^ 63 ≤ value ∧ value ≤ 2 ^ 64 - 1

/-- A report ends with code zero exactly if something was produced. -/
theorem exit_reported_code (report : Report) :
    (Outcome.reported report).exit.code = 0 ↔ report.produced = true := by
  cases produced : report.produced <;> simp [Outcome.exit, produced]

variable {disk : Disk} {request : Request} {report : Report}

private theorem agrees_of_saysSuccess (success : report.SaysSuccess)
    (notList : ∀ values options, request ≠ .list values options) :
    ∃ content, Report.Prints (Outcome.reported report).exit.out content ∧
      Agrees request content (Outcome.reported report).exit.code := by
  obtain ⟨fields, isDocument, only⟩ := success
  refine ⟨.object fields, ?_, ?_⟩
  · change Report.Prints report.out _
    rw [isDocument]
    exact Report.document_prints _ _
  · have agrees : ∃ fields' success, Json.object fields = .object fields' ∧
        fields'.filter (fun field => field.1 == "success") = [("success", .boolean success)] ∧
        (success = true ↔ (Outcome.reported report).exit.code = 0) :=
      ⟨fields, report.produced, rfl, only, (exit_reported_code report).symm⟩
    cases request with
    | list values options => exact absurd rfl (notList values options)
    | _ => exact agrees

private theorem agrees_of_listsProducts {values : List Int} {options : Options}
    (lists : report.ListsProducts) :
    ∃ content, Report.Prints (Outcome.reported report).exit.out content ∧
      Agrees (.list values options) content (Outcome.reported report).exit.code := by
  obtain ⟨items, isDocument, listed⟩ := lists
  refine ⟨.array items, ?_, items, rfl, listed.trans (exit_reported_code report).symm⟩
  change Report.Prints report.out _
  rw [isDocument]
  exact Report.document_prints _ _

/-- A request whose type is not known has its say on the error channel alone. -/
theorem inDomain_of_unknown {options : Options} {settings : Settings} {typeName : String}
    (command : Domain → Report) (unset : options.domain = none)
    (configured : settings.domain = some typeName) (unknown : Domain.ofName? typeName = none) :
    inDomain options settings command =
      .reported
        { produced := false
          err := "Error: " ++ (ChoiceError.unsupportedType typeName).message ++
            " (from config)\n" } := by
  simp only [inDomain, unset, Settings.domainOrDefault, configured, Domain.ofName, unknown]

private theorem inDomain_of_known {options : Options} {settings : Settings}
    (command : Domain → Report) (known : ¬ (options.domain = none ∧
      ∃ typeName, settings.domain = some typeName ∧ Domain.ofName? typeName = none)) :
    ∃ domain, inDomain options settings command = .reported (command domain) := by
  unfold inDomain
  cases given : options.domain with
  | some domain => exact ⟨domain, rfl⟩
  | none =>
    cases configured : settings.domain with
    | none => exact ⟨default, by simp only [Settings.domainOrDefault, configured]⟩
    | some typeName =>
      cases named : Domain.ofName? typeName with
      | none => exact absurd ⟨given, typeName, configured, named⟩ known
      | some domain =>
        exact ⟨domain, by simp only [Settings.domainOrDefault, configured, Domain.ofName, named]⟩

private theorem onDeclaration_of_loadsWithin {file : String}
    (command : Declaration → Settings → Option Report)
    (loads : ∃ declaration, loadDeclaration disk (.ofString file) = .ok declaration ∧
      ∀ member ∈ declaration.members, ∀ value, member.value = some value →
        -2 ^ 63 ≤ value ∧ value ≤ 2 ^ 64 - 1)
    (reports : ∀ declaration settings, Report.holds declaration = true →
      ∃ report, command declaration settings = some report ∧ report.SaysSuccess) :
    ∃ report, onDeclaration disk file command = .reported report ∧ report.SaysSuccess := by
  obtain ⟨declaration, loaded, within⟩ := loads
  have held : Report.holds declaration = true := by
    rw [Report.holds_iff]
    intro member isMember value isValue
    have inRange := within member isMember value isValue
    exact Report.isStorable_iff.mpr ⟨inRange.1, by omega⟩
  obtain ⟨report, isReport, success⟩ :=
    reports declaration (Settings.search disk (.ofString file)).settings held
  exact ⟨report, by simp only [onDeclaration, loaded, isReport, ofReport], success⟩

/-- With the JSON switch every command that is read, and whose declaration loads
and fits, prints one document that agrees with the exit code, whatever the
settings are. The exception is a type that is left to the settings and that they
do not know: then the code is 1, nothing is printed, and the error channel names
the type. -/
theorem run_json (disk : Disk) (color : Bool) {arguments : List String} {request : Request}
    (isRead : CommandLine.read arguments = .ok request) (json : request.options.json = true)
    (loads : LoadsWithin disk request) :
    (¬ TypeUnknown disk request →
      ∃ content, Report.Prints (run disk color arguments).exit.out content ∧
        Agrees request content (run disk color arguments).exit.code) ∧
    (TypeUnknown disk request →
      ∃ typeName, (Settings.search disk Settings.here).settings.domain = some typeName ∧
        (run disk color arguments).exit =
          { code := 1
            err := "Error: " ++ (ChoiceError.unsupportedType typeName).message ++
              " (from config)\n" }) := by
  have runs : run disk color arguments = answer disk color request := by rw [run, isRead]
  rw [runs]
  constructor
  · intro known
    cases request with
    | next values options =>
      obtain ⟨domain, isReported⟩ := @inDomain_of_known options
        (Settings.search disk Settings.here).settings _ fun unknown => known ⟨rfl, unknown⟩
      rw [answer, isReported]
      exact agrees_of_saysSuccess (Report.next_saysSuccess values domain _ json) (by simp)
    | list values options =>
      obtain ⟨domain, isReported⟩ := @inDomain_of_known options
        (Settings.search disk Settings.here).settings _ fun unknown => known ⟨rfl, unknown⟩
      rw [answer, isReported]
      exact agrees_of_listsProducts (Report.list_listsProducts values domain json)
    | member file options =>
      obtain ⟨report, isReported, success⟩ := onDeclaration_of_loadsWithin
        (fun declaration settings => Report.member declaration (policyOf options settings)
          (formatOf options settings color))
        (loads file rfl) fun _ _ held => Report.member_saysSuccess held _ json
      rw [answer, isReported]
      exact agrees_of_saysSuccess success (by simp)
    | assign file options =>
      obtain ⟨report, isReported, success⟩ := onDeclaration_of_loadsWithin
        (fun declaration settings => Report.assign declaration (policyOf options settings)
          (formatOf options settings color))
        (loads file rfl) fun _ _ held => Report.assign_saysSuccess held _ json
      rw [answer, isReported]
      exact agrees_of_saysSuccess success (by simp)
  · rintro ⟨noFile, unset, typeName, configured, unknown⟩
    refine ⟨typeName, configured, ?_⟩
    cases request with
    | next values options =>
      rw [answer, @inDomain_of_unknown options _ _ _ unset configured unknown]
      rfl
    | list values options =>
      rw [answer, @inDomain_of_unknown options _ _ _ unset configured unknown]
      rfl
    | member file options => cases noFile
    | assign file options => cases noFile

/-- A declaration with constants at both ends of 64 bits. -/
def wideDeclaration : Declaration :=
  { name := "E", isFlags := true
    members := [⟨"A", some (-2 ^ 63)⟩, ⟨"B", some (2 ^ 64 - 1)⟩, ⟨"C", none⟩] }

/-- A directory with that declaration and with settings that name an unknown
type. -/
def floatTree : Children :=
  [ ("E.json", .file wideDeclaration.toJson.compact.toUTF8),
    (Settings.fileName, .file "[flagsynth]\ndomain = \"float\"\nhex = true\n".toUTF8) ]

/-- The declaration has a document in spite of the settings, since its type is
its own. -/
theorem run_json_extremes :
    let disk := Tree.disk floatTree []
    let arguments := ["assign", "--json", "E.json"]
    ∃ content, Report.Prints (run disk true arguments).exit.out content ∧
      Agrees (.assign "E.json" { json := true }) content (run disk true arguments).exit.code := by
  intro disk arguments
  have within : ∀ member ∈ wideDeclaration.members, ∀ value, member.value = some value →
      -2 ^ 63 ≤ value ∧ value ≤ 2 ^ 64 - 1 := by
    intro member inside value isValue
    simp only [wideDeclaration, List.mem_cons, List.not_mem_nil, or_false] at inside
    rcases inside with rfl | rfl | rfl <;> cases isValue <;> decide
  have inRange : wideDeclaration.InRange := Declaration.inRange_of_holds (by decide)
  refine (run_json disk true rfl rfl ?_).1 ?_
  · intro file isFile
    cases isFile
    exact ⟨wideDeclaration, Declaration.loads_compact inRange disk _ rfl, within⟩
  · rintro ⟨noFile, _⟩
    cases noFile

/-- Where the settings name an unknown type, a request for the next value in JSON
is read and fails without a document. -/
theorem run_json_silent :
    let disk := Tree.disk floatTree []
    CommandLine.read ["next", "--json"] = .ok (.next [] { json := true }) ∧
      (run disk false ["next", "--json"]).exit =
        { code := 1, err := "Error: unsupported underlying type: float (from config)\n" } ∧
      ¬ ∃ content, Report.Prints (run disk false ["next", "--json"]).exit.out content := by
  intro disk
  have silent : (run disk false ["next", "--json"]).exit =
      { code := 1, err := "Error: unsupported underlying type: float (from config)\n" } := by
    rfl
  refine ⟨rfl, silent, ?_⟩
  rintro ⟨content, text, isOut, _⟩
  rw [silent, ← String.toList_inj] at isOut
  simp at isOut

end Program

end FlagEnum
