import FlagEnum.Disk
import FlagEnum.Proofs.Path

/-!
# Walks through a tree

Following the text of a path is a walk along its steps from directory to
directory. What a text names is said here in terms of such walks: a directory
where one ends, or a file in the directory before its last step.
-/

namespace FlagEnum.Tree

/-- A directory, and those above it up to the root. -/
structure Lineage where
  here : Children
  above : List Children

namespace Lineage

/-- The directory itself first, and the root last. -/
def directories (lineage : Lineage) : List Children :=
  lineage.here :: lineage.above

/-- The directory that contains this one. The root is above itself. -/
def up (lineage : Lineage) : Lineage :=
  match lineage.above with
  | [] => lineage
  | parent :: further => ⟨parent, further⟩

/-- The lineage one step on, if that is a directory. -/
def enter? (lineage : Lineage) (step : String) : Option Lineage :=
  if step = ".." then some lineage.up
  else if maxName < Text.byteCount step.toList then none
  else
    match lineage.here.lookup step with
    | some (.directory inner) => some ⟨inner, lineage.directories⟩
    | _ => none

/-- The lineage at the end of a walk, if all its steps lead to directories. -/
def walk? (lineage : Lineage) : List String → Option Lineage
  | [] => some lineage
  | step :: rest => (lineage.enter? step).bind fun next => next.walk? rest

/-- The lineage of the directory at a path of names. The way ends early where
there is no such directory. -/
def down (lineage : Lineage) : List String → Lineage
  | [] => lineage
  | name :: rest =>
    match lineage.here.lookup name with
    | some (.directory inner) => down ⟨inner, lineage.directories⟩ rest
    | _ => lineage

/-- A walk can be made in two goes. -/
theorem walk?_append (lineage : Lineage) (first second : List String) :
    lineage.walk? (first ++ second) = (lineage.walk? first).bind fun next => next.walk? second := by
  induction first generalizing lineage with
  | nil => rfl
  | cons step rest inductionHypothesis =>
    simp only [List.cons_append, walk?, Option.bind_assoc, inductionHypothesis]

private theorem descend_eq (lineage : Lineage) (names : List String) :
    descend lineage.here lineage.above names = (lineage.down names).directories := by
  induction names generalizing lineage with
  | nil => rfl
  | cons name rest inductionHypothesis =>
    cases found : lineage.here.lookup name with
    | none => simp [descend, down, found, directories]
    | some node =>
      cases node with
      | file content => simp [descend, down, found, directories]
      | directory inner =>
        have deeper := inductionHypothesis ⟨inner, lineage.directories⟩
        simpa [descend, down, found, directories] using deeper

end Lineage

/-! ## Following parts -/

/-- Whether a part of a path leads on. -/
def leads (part : String) : Bool :=
  part != "" && part != "."

private theorem leads_ofList (part : List Char) :
    leads (String.ofList part) = Path.isStep part := by
  have noText : String.ofList part = String.ofList [] ↔ part = [] := String.ofList_inj
  have dot : String.ofList part = String.ofList ['.'] ↔ part = ['.'] := String.ofList_inj
  rw [Bool.eq_iff_iff]
  simpa [leads, Path.isStep] using and_congr noText.not dot.not

/-- The steps of a path are those parts of it that lead on. -/
theorem steps_eq (path : Path) : path.steps = (parts path).filter leads := by
  rw [Path.steps, Path.stepsOf, parts, List.filter_map]
  congr 1
  apply List.filter_congr
  intro part _
  exact (leads_ofList part).symm

/-- Whether a part can be the name of something in a directory. -/
def isName (part : String) : Bool :=
  leads part && part != ".." && Text.byteCount part.toList ≤ maxName

private theorem leads_of_isName {part : String} (named : isName part = true) :
    leads part = true := by
  simp only [isName, Bool.and_eq_true] at named
  exact named.1.1

/-- The file of this name in a directory, if there is one. -/
def fileIn? (directory : Children) (name : String) : Option ByteArray :=
  match directory.lookup name with
  | some (.file content) => some content
  | _ => none

/-- One part of a path: an idle one changes nothing, and a step leads to a
directory, ends in a file, or leads nowhere. -/
theorem follow_cons (lineage : Lineage) (part : String) (rest : List String) :
    follow lineage.here lineage.above (part :: rest) =
      if leads part = false then follow lineage.here lineage.above rest
      else if part = ".." then follow lineage.up.here lineage.up.above rest
      else if maxName < Text.byteCount part.toList then .tooLong
      else
        match lineage.here.lookup part with
        | none => .nothing
        | some (.directory inner) => follow inner lineage.directories rest
        | some (.file content) => if rest.isEmpty then .file content else .throughFile := by
  have idle : (decide (part = "") || decide (part = ".")) = true ↔ leads part = false := by
    simp [leads, Classical.or_iff_not_imp_left]
  rw [follow.eq_def]
  simp only [idle, Lineage.directories]
  split
  · rfl
  · split
    · unfold Lineage.up
      split <;> simp_all
    · rfl

/-- Following a part goes on from where its step leads. -/
theorem follow_enter {lineage next : Lineage} {part : String} (isStep : leads part = true)
    (entered : lineage.enter? part = some next) (rest : List String) :
    follow lineage.here lineage.above (part :: rest) = follow next.here next.above rest := by
  rw [follow_cons, if_neg (by simp [isStep])]
  unfold Lineage.enter? at entered
  split at entered
  · next isUp =>
    cases entered
    rw [if_pos isUp]
  · next notUp =>
    split at entered
    · cases entered
    · next short =>
      rw [if_neg notUp, if_neg short]
      split at entered
      · next inner found =>
        cases entered
        simp only [found]
      · cases entered

/-- A walk through directories comes first, and the rest is followed from its end. -/
theorem follow_append {lineage next : Lineage} {front : List String}
    (walked : lineage.walk? (front.filter leads) = some next) (rest : List String) :
    follow lineage.here lineage.above (front ++ rest) = follow next.here next.above rest := by
  induction front generalizing lineage with
  | nil =>
    cases walked
    rfl
  | cons part front inductionHypothesis =>
    by_cases isStep : leads part = true
    · rw [List.filter_cons_of_pos isStep, Lineage.walk?] at walked
      obtain ⟨middle, entered, further⟩ := Option.bind_eq_some_iff.mp walked
      rw [List.cons_append, follow_enter isStep entered, inductionHypothesis further]
    · rw [List.filter_cons_of_neg isStep] at walked
      rw [List.cons_append, follow_cons, if_pos (by simpa using isStep),
        inductionHypothesis walked]

/-- A step that leads to no directory ends in a file, if nothing comes after it. -/
theorem follow_stuck {lineage : Lineage} {part : String} (isStep : leads part = true)
    (stuck : lineage.enter? part = none) (rest : List String) :
    follow lineage.here lineage.above (part :: rest) ≠ .directory ∧
      ∀ content, follow lineage.here lineage.above (part :: rest) = .file content ↔
        rest = [] ∧ isName part = true ∧ fileIn? lineage.here part = some content := by
  rw [follow_cons, if_neg (by simp [isStep])]
  unfold Lineage.enter? at stuck
  split at stuck
  · cases stuck
  · next notUp =>
    rw [if_neg notUp]
    split at stuck
    · next long =>
      have notName : ¬ Text.byteCount part.toList ≤ maxName := Nat.not_le.mpr long
      simp [isName, long, notName]
    · next short =>
      have isName : isName part = true := by
        simp [isName, isStep, notUp, Nat.not_lt.mp short]
      rw [if_neg short]
      unfold fileIn?
      split at stuck
      · cases stuck
      · next notDirectory =>
        cases found : lineage.here.lookup part with
        | none => simp
        | some node =>
          cases node with
          | directory inner => exact absurd found (notDirectory inner)
          | file content => cases rest <;> simp [isName]

private theorem enter?_of_fileIn? {lineage : Lineage} {name : String} {content : ByteArray}
    (named : isName name = true) (isFile : fileIn? lineage.here name = some content) :
    lineage.enter? name = none := by
  have notUp : name ≠ ".." := by
    rintro rfl
    exact absurd named (by decide)
  unfold fileIn? at isFile
  split at isFile
  · next found => simp [Lineage.enter?, notUp, found]
  · cases isFile

/-- A path names a directory exactly when its steps walk to one. -/
theorem follow_eq_directory_iff {lineage : Lineage} {parts : List String} :
    follow lineage.here lineage.above parts = .directory ↔
      ∃ next, lineage.walk? (parts.filter leads) = some next := by
  constructor
  · intro named
    induction parts generalizing lineage with
    | nil => exact ⟨lineage, rfl⟩
    | cons part rest inductionHypothesis =>
      by_cases isStep : leads part = true
      · rw [List.filter_cons_of_pos isStep, Lineage.walk?]
        cases entered : lineage.enter? part with
        | none => exact absurd named (follow_stuck isStep entered rest).1
        | some next =>
          rw [follow_enter isStep entered] at named
          exact inductionHypothesis named
      · rw [follow_cons, if_pos (by simpa using isStep)] at named
        rw [List.filter_cons_of_neg isStep]
        exact inductionHypothesis named
  · rintro ⟨next, walked⟩
    simpa [follow] using follow_append walked []

/-- A path names a file exactly when its last part is the name of one in the
directory that the steps before it walk to. -/
theorem follow_eq_file_iff {lineage : Lineage} {parts : List String} {content : ByteArray} :
    follow lineage.here lineage.above parts = .file content ↔
      ∃ front name next, parts = front ++ [name] ∧ isName name = true ∧
        lineage.walk? (front.filter leads) = some next ∧ fileIn? next.here name = some content := by
  constructor
  · intro named
    induction parts generalizing lineage with
    | nil => simp [follow] at named
    | cons part rest inductionHypothesis =>
      by_cases isStep : leads part = true
      · cases entered : lineage.enter? part with
        | none =>
          obtain ⟨rfl, isName, isFile⟩ := ((follow_stuck isStep entered rest).2 content).mp named
          exact ⟨[], part, lineage, rfl, isName, rfl, isFile⟩
        | some middle =>
          rw [follow_enter isStep entered] at named
          obtain ⟨front, name, next, rfl, isName, walked, isFile⟩ := inductionHypothesis named
          refine ⟨part :: front, name, next, rfl, isName, ?_, isFile⟩
          rw [List.filter_cons_of_pos isStep, Lineage.walk?, entered, Option.bind_some, walked]
      · rw [follow_cons, if_pos (by simpa using isStep)] at named
        obtain ⟨front, name, next, rfl, isName, walked, isFile⟩ := inductionHypothesis named
        refine ⟨part :: front, name, next, rfl, isName, ?_, isFile⟩
        rw [List.filter_cons_of_neg isStep, walked]
  · rintro ⟨front, name, next, rfl, named, walked, isFile⟩
    have stuck := enter?_of_fileIn? named isFile
    rw [follow_append walked]
    exact ((follow_stuck (leads_of_isName named) stuck []).2 content).mpr ⟨rfl, named, isFile⟩

/-! ## The disk of a tree -/

variable {root : Children} {current : List String} {path : Path}

/-- Where the walk along a path starts: at the root, or in the current directory. -/
def startOf (root : Children) (current : List String) (path : Path) : Lineage :=
  if path.isAbsolute then ⟨root, []⟩ else Lineage.down ⟨root, []⟩ current

/-- Whether a path text can name anything: it is not empty, has no null
character and is not too long. -/
structure Namable (path : Path) : Prop where
  text : path.chars ≠ []
  noNull : '\x00' ∉ path.chars
  fits : Text.byteCount path.chars ≤ maxPath

private theorem byteCount_append (left right : List Char) :
    Text.byteCount (left ++ right) = Text.byteCount left + Text.byteCount right := by
  have general (text : List Char) (start : Nat) :
      text.foldl (fun count char => count + char.utf8Size) start = start + Text.byteCount text := by
    induction text generalizing start with
    | nil => rfl
    | cons char rest inductionHypothesis =>
      rw [Text.byteCount, List.foldl_cons, List.foldl_cons, inductionHypothesis,
        inductionHypothesis (0 + char.utf8Size)]
      omega
  rw [Text.byteCount, List.foldl_append, general]
  rfl

/-- A start of a text that can name something can do so, if it is not empty. -/
theorem Namable.front {whole : Path} (namable : Namable whole)
    (isFront : path.chars <+: whole.chars) (text : path.chars ≠ []) : Namable path := by
  refine ⟨text, fun null => namable.noNull (isFront.subset null), ?_⟩
  obtain ⟨rest, isWhole⟩ := isFront
  have bytes := byteCount_append path.chars rest
  rw [isWhole] at bytes
  have fits := namable.fits
  omega

/-- A path that can name something names what its parts lead to. -/
theorem disk_of_namable (namable : Namable path) :
    disk root current path =
      follow (startOf root current path).here (startOf root current path).above (parts path) := by
  obtain ⟨text, noNull, fits⟩ := namable
  unfold disk startOf Path.isAbsolute
  rw [if_neg (by simpa using noNull), if_neg (Nat.not_lt.mpr fits)]
  split
  · next empty => exact absurd empty text
  · next isText => simp [isText]
  · next notAbsolute =>
    have relative : path.chars.head? ≠ some '/' := by
      intro slash
      obtain ⟨rest, isText⟩ := List.head?_eq_some_iff.mp slash
      exact notAbsolute rest isText
    have descended := Lineage.descend_eq ⟨root, []⟩ current
    simp only [descended, Lineage.directories, beq_iff_eq, relative, if_false]

/-- What names a directory or a file has a text that can. -/
theorem namable_of_named
    (named : disk root current path = .directory ∨
      ∃ content, disk root current path = .file content) :
    Namable path := by
  unfold disk at named
  split at named
  · simp at named
  · next noNull =>
    split at named
    · simp at named
    · next fits =>
      refine ⟨?_, by simpa using noNull, Nat.not_lt.mp fits⟩
      intro empty
      simp [empty] at named

/-- A path names a directory if its steps can all be walked. -/
theorem disk_eq_directory_iff :
    disk root current path = .directory ↔
      Namable path ∧ ∃ lineage, (startOf root current path).walk? path.steps = some lineage := by
  rw [steps_eq]
  constructor
  · intro named
    have namable := namable_of_named (Or.inl named)
    rw [disk_of_namable namable] at named
    exact ⟨namable, follow_eq_directory_iff.mp named⟩
  · rintro ⟨namable, walks⟩
    rw [disk_of_namable namable]
    exact follow_eq_directory_iff.mpr walks

/-- The directory of a file is where the steps before its name lead. -/
theorem walk?_of_disk_eq_file {content : ByteArray}
    (named : disk root current path = .file content) :
    path.steps ≠ [] ∧
      ∃ lineage, (startOf root current path).walk? path.steps.dropLast = some lineage := by
  rw [disk_of_namable (namable_of_named (Or.inr ⟨content, named⟩))] at named
  obtain ⟨front, name, lineage, isParts, isName, walked, _⟩ := follow_eq_file_iff.mp named
  have isLast : path.steps = front.filter leads ++ [name] := by
    simp [steps_eq, isParts, leads_of_isName isName]
  rw [isLast, List.dropLast_concat]
  exact ⟨by simp, lineage, walked⟩

private theorem parts_join_last {name : String} (slashless : '/' ∉ name.toList) :
    ∃ front, parts (path.join name) = front ++ [name] := by
  have alone : parts ⟨name.toList⟩ = [name] := by
    simp [parts, List.splitOn_eq_singleton slashless]
  rcases Path.join_cases path name with ⟨_, joined⟩ | ⟨front, _, joined⟩
  · exact ⟨[], by rw [joined, alone, List.nil_append]⟩
  · refine ⟨parts ⟨front⟩, ?_⟩
    rw [joined, ← alone]
    simp only [parts, List.splitOn_append_cons_self, List.map_append]

/-- The parts of a name inside a directory are the steps to the directory, with
idle parts between them, and the name. -/
theorem parts_join {name : String} (slashless : '/' ∉ name.toList) (named : isName name = true) :
    ∃ front, parts (path.join name) = front ++ [name] ∧ front.filter leads = path.steps := by
  have isStep : leads name = true := leads_of_isName named
  obtain ⟨front, isParts⟩ := @parts_join_last path name slashless
  refine ⟨front, isParts, ?_⟩
  have joinedSteps : (path.join name).steps = path.steps ++ [name] :=
    Path.steps_join slashless (by rw [← leads_ofList, String.ofList_toList, isStep])
  rw [steps_eq, isParts, List.filter_append, List.filter_singleton, isStep, cond_true]
    at joinedSteps
  exact List.append_cancel_right joinedSteps

/-- The last part of a path to a file is a name. -/
theorem isName_of_disk_join {name : String} {content : ByteArray} (slashless : '/' ∉ name.toList)
    (named : disk root current (path.join name) = .file content) : isName name = true := by
  obtain ⟨front, isParts⟩ := @parts_join_last path name slashless
  rw [disk_of_namable (namable_of_named (Or.inr ⟨content, named⟩)), isParts] at named
  obtain ⟨others, last, _, same, isName, _⟩ := follow_eq_file_iff.mp named
  obtain ⟨rfl, rfl⟩ : front = others ∧ name = last := by simpa using same
  exact isName

/-- The path of a name inside a directory names the file of that name there. -/
theorem disk_join_eq_file_iff {name : String} {content : ByteArray}
    (slashless : '/' ∉ name.toList) (named : isName name = true) :
    disk root current (path.join name) = .file content ↔
      Namable (path.join name) ∧
        ∃ lineage, (startOf root current path).walk? path.steps = some lineage ∧
          fileIn? lineage.here name = some content := by
  obtain ⟨front, isParts, isSteps⟩ := @parts_join path name slashless named
  have sameStart : startOf root current (path.join name) = startOf root current path := by
    rw [startOf, startOf, Path.isAbsolute_join slashless]
  rw [← isSteps, ← sameStart]
  constructor
  · intro isFile
    have namable := namable_of_named (Or.inr ⟨content, isFile⟩)
    rw [disk_of_namable namable, isParts] at isFile
    obtain ⟨others, last, lineage, same, _, walked, found⟩ := follow_eq_file_iff.mp isFile
    obtain ⟨rfl, rfl⟩ : front = others ∧ name = last := by simpa using same
    exact ⟨namable, lineage, walked, found⟩
  · rintro ⟨namable, lineage, walked, found⟩
    rw [disk_of_namable namable, isParts]
    exact follow_eq_file_iff.mpr ⟨front, name, lineage, rfl, named, walked, found⟩

end FlagEnum.Tree
