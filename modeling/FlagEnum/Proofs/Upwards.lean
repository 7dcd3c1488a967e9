import FlagEnum.Proofs.Search

/-!
# The search and the directories above

The search goes up along the text of a path, not through the tree. So it visits
the directories that the text passes, back to where it starts: those above the
current directory are not among them, and after a step up some are that do not
contain the file.
-/

namespace FlagEnum

/-! ## The directories that a path passes -/

namespace Tree.Lineage

/-- The directories that a walk passes, the last first. It ends early where a
step leads to no directory. -/
def passed (lineage : Lineage) : List String → List Children
  | [] => [lineage.here]
  | step :: rest =>
    match lineage.enter? step with
    | some next => next.passed rest ++ [lineage.here]
    | none => [lineage.here]

@[simp] theorem passed_nil (lineage : Lineage) : lineage.passed [] = [lineage.here] := rfl

private theorem passed_cons {lineage next : Lineage} {step : String}
    (entered : lineage.enter? step = some next) (rest : List String) :
    lineage.passed (step :: rest) = next.passed rest ++ [lineage.here] := by
  simp only [passed, entered]

/-- What a walk passes from some step on comes first, and then what it passed
before that step. -/
theorem passed_append_cons {lineage next : Lineage} {front : List String} {step : String}
    (walked : lineage.walk? (front ++ [step]) = some next) (rest : List String) :
    lineage.passed (front ++ step :: rest) = next.passed rest ++ lineage.passed front := by
  induction front generalizing lineage with
  | nil =>
    obtain ⟨middle, entered, isNext⟩ := Option.bind_eq_some_iff.mp walked
    cases isNext
    exact passed_cons entered rest
  | cons first front inductionHypothesis =>
    obtain ⟨middle, entered, further⟩ := Option.bind_eq_some_iff.mp walked
    rw [List.cons_append, passed_cons entered, passed_cons entered, inductionHypothesis further,
      List.append_assoc]

private theorem passed_concat {lineage last : Lineage} {front : List String} {step : String}
    (walked : lineage.walk? (front ++ [step]) = some last) :
    lineage.passed (front ++ [step]) = last.here :: lineage.passed front := by
  rw [passed_append_cons walked, passed_nil, List.singleton_append]

private theorem walk?_dropLast {lineage last : Lineage} {steps : List String}
    (walked : lineage.walk? steps = some last) :
    ∃ before, lineage.walk? steps.dropLast = some before := by
  rcases List.eq_nil_or_concat' steps with rfl | ⟨front, step, rfl⟩
  · exact ⟨last, walked⟩
  · rw [walk?_append] at walked
    obtain ⟨before, walkedFront, _⟩ := Option.bind_eq_some_iff.mp walked
    rw [List.dropLast_concat]
    exact ⟨before, walkedFront⟩

private theorem passed_dropLast {lineage last : Lineage} {steps : List String}
    (walked : lineage.walk? steps = some last) :
    (lineage.passed steps.dropLast).Sublist (lineage.passed steps) := by
  rcases List.eq_nil_or_concat' steps with rfl | ⟨front, step, rfl⟩
  · exact List.Sublist.refl _
  · rw [passed_concat walked, List.dropLast_concat]
    exact List.sublist_cons_self _ _

private theorem above_of_enter? {lineage next : Lineage} {step : String} (down : step ≠ "..")
    (entered : lineage.enter? step = some next) : next.above = lineage.directories := by
  unfold enter? at entered
  rw [if_neg down] at entered
  split at entered
  · cases entered
  · split at entered
    · cases entered
      rfl
    · cases entered

/-- A walk without a step up passes only directories that contain its end, and
those above its start are the others that do. -/
theorem directories_of_walk? {lineage last : Lineage} {steps : List String}
    (walked : lineage.walk? steps = some last) (down : ".." ∉ steps) :
    last.directories = lineage.passed steps ++ lineage.above := by
  induction steps generalizing lineage with
  | nil =>
    cases walked
    rfl
  | cons step rest inductionHypothesis =>
    obtain ⟨next, entered, further⟩ := Option.bind_eq_some_iff.mp walked
    have notUp : step ≠ ".." := fun same => down (same ▸ List.mem_cons_self)
    rw [inductionHypothesis further (fun inside => down (List.mem_cons_of_mem _ inside)),
      passed_cons entered, above_of_enter? notUp entered, directories, List.append_assoc,
      List.singleton_append]

/-! ## The last step up -/

/-- A walk goes up for the last time after `before`. That leads to `turn`, and
`down` from there on. -/
structure Turns (lineage : Lineage) (steps before down : List String) (turn : Lineage) : Prop where
  isSteps : steps = before ++ ".." :: down
  onlyDown : ".." ∉ down
  walked : lineage.walk? (before ++ [".."]) = some turn

section Turns

variable {lineage turn last : Lineage} {steps before down : List String}

/-- Every walk with a step up has a last one. -/
theorem exists_turns (walked : lineage.walk? steps = some last) (up : ".." ∈ steps) :
    ∃ before down turn, lineage.Turns steps before down turn := by
  -- The last step up is the first one of the reversed steps.
  obtain ⟨after, front, isReverse, notAfter⟩ :=
    List.eq_append_cons_of_mem (List.mem_reverse.mpr up)
  have isSteps : steps = front.reverse ++ ".." :: after.reverse := by
    rw [← List.reverse_reverse steps, isReverse]
    simp
  have isFront : steps = front.reverse ++ [".."] ++ after.reverse := by simp [isSteps]
  rw [isFront, walk?_append] at walked
  obtain ⟨turn, walkedFront, _⟩ := Option.bind_eq_some_iff.mp walked
  exact ⟨_, _, turn, isSteps, fun inside => notAfter (List.mem_reverse.mp inside), walkedFront⟩

/-- A walk passes what it does after its last step up, and before that what led
there. -/
theorem Turns.passed (turns : lineage.Turns steps before down turn) :
    lineage.passed steps = turn.passed down ++ lineage.passed before := by
  rw [turns.isSteps, passed_append_cons turns.walked]

/-- Of the directories that contain the end of a walk, those since its last step
up were passed, and the others are above the place that it leads to. -/
theorem Turns.directories (turns : lineage.Turns steps before down turn)
    (walked : lineage.walk? steps = some last) :
    last.directories = turn.passed down ++ turn.above := by
  have isSteps : steps = before ++ [".."] ++ down := by simp [turns.isSteps]
  rw [isSteps, walk?_append, turns.walked] at walked
  exact directories_of_walk? walked turns.onlyDown

end Turns

end Tree.Lineage

namespace Settings

open FlagEnum.Tree

variable {root : Children} {current : List String} {path : Path} {lineage : Lineage}

/-! ## Settings in directories -/

/-- The settings in the configuration file of a directory, if it has a valid one. -/
def inDirectory? (directory : Children) : Option Settings := do
  let content ← fileIn? directory fileName
  ofText? (← String.fromUTF8? content)

/-- The settings in the first of several directories that has valid ones, or the
defaults. -/
def nearest (directories : List Children) : Settings :=
  (directories.findSome? inDirectory?).getD {}

/-- The configuration file in a directory gives the settings of the directory. -/
theorem load?_join (namable : Namable (path.join fileName))
    (walked : (startOf root current path).walk? path.steps = some lineage) :
    load? (disk root current) (path.join fileName) = inDirectory? lineage.here := by
  ext settings
  rw [load?_eq_some_iff, Holds, inDirectory?]
  constructor
  · rintro ⟨content, text, named, decoded, given⟩
    obtain ⟨_, other, isOther, found⟩ :=
      (disk_join_eq_file_iff (by decide) (by decide)).mp named
    cases walked.symm.trans isOther
    simp [found, decoded, given]
  · intro given
    obtain ⟨content, found, decodes⟩ := Option.bind_eq_some_iff.mp given
    obtain ⟨text, decoded, isText⟩ := Option.bind_eq_some_iff.mp decodes
    refine ⟨content, text, ?_, decoded, isText⟩
    exact (disk_join_eq_file_iff (by decide) (by decide)).mpr ⟨namable, lineage, walked, found⟩

private theorem namable_join (noNull : '\x00' ∉ path.chars)
    (fits : Text.byteCount (path.join fileName).chars ≤ maxPath) :
    Namable (path.join fileName) := by
  rcases Path.join_cases path fileName with ⟨_, joined⟩ | ⟨front, isText, joined⟩
  · rw [joined] at fits ⊢
    exact ⟨by decide, by decide, fits⟩
  · have noNullFront : '\x00' ∉ front := by
      rcases isText with isText | ⟨isText, _⟩ <;> simp_all
    rw [joined] at fits ⊢
    refine ⟨by simp, ?_, fits⟩
    simpa using ⟨noNullFront, by decide⟩

private theorem load?_of_not_namable {file : Path} (unnamable : ¬ Namable file) :
    load? (disk root current) file = none := by
  refine load?_eq_none_iff.mpr fun ⟨_, content, _, named, _⟩ => ?_
  exact unnamable (namable_of_named (Or.inr ⟨content, named⟩))

/-- The settings found are those of the first file that gives some. -/
theorem searchIn_settings (disk : Disk) (files : List Path) :
    (searchIn disk files).settings = (files.findSome? (load? disk)).getD {} := by
  unfold searchIn
  induction files with
  | nil => rfl
  | cons file rest inductionHypothesis =>
    rw [List.findSome?_cons, List.findSome?_cons, locate?]
    cases load? disk file with
    | none => exact inductionHypothesis
    | some settings => rfl

/-! ## The directories that the search visits -/

/-- No file has a text that is too long to be tried. -/
def AllFit (files : List Path) : Prop :=
  ∀ file ∈ files, Text.byteCount file.chars ≤ maxPath

instance (files : List Path) : Decidable (AllFit files) :=
  inferInstanceAs (Decidable (∀ file ∈ files, _))

/-- `visited` are directories that a walk passes: all of them, unless the text
of a file to try is too long. -/
structure Visits (start : Lineage) (steps : List String) (files : List Path)
    (visited : List Children) : Prop where
  onlyPassed : visited.Sublist (start.passed steps)
  allPassed : AllFit files → visited = start.passed steps

/-- Directories that were visited before give nothing new. -/
theorem findSome?_visited_again {visited directories : List Children}
    (again : visited.Sublist directories) :
    (directories.findSome? inDirectory?).or (visited.findSome? inDirectory?) =
      directories.findSome? inDirectory? := by
  cases found : directories.findSome? inDirectory? with
  | some settings => rfl
  | none =>
    rw [Option.none_or, List.findSome?_eq_none_iff]
    intro directory inside
    exact List.findSome?_eq_none_iff.mp found directory (again.subset inside)

/-- The file in a directory on the way is that of the directory, unless its text
is too long. -/
theorem load?_join_cases (noNull : '\x00' ∉ path.chars)
    (walked : (startOf root current path).walk? path.steps = some lineage) :
    load? (disk root current) (path.join fileName) = inDirectory? lineage.here ∨
      maxPath < Text.byteCount (path.join fileName).chars ∧
        load? (disk root current) (path.join fileName) = none := by
  by_cases fits : Text.byteCount (path.join fileName).chars ≤ maxPath
  · have named := namable_join noNull fits
    exact Or.inl (load?_join named walked)
  · refine Or.inr ⟨Nat.not_le.mp fits, load?_of_not_namable fun namable => ?_⟩
    exact fits namable.fits

private theorem visits_top (noNull : '\x00' ∉ path.chars) (none : path.steps = []) :
    ∃ visited, Visits (startOf root current path) path.steps [path.join fileName] visited ∧
      [path.join fileName].findSome? (load? (disk root current)) =
        visited.findSome? inDirectory? := by
  have walked : (startOf root current path).walk? path.steps =
      some (startOf root current path) := by
    rw [none]
    rfl
  rw [none]
  rcases load?_join_cases noNull walked with given | ⟨long, missed⟩
  · refine ⟨[(startOf root current path).here], ⟨List.Sublist.refl _, fun _ => rfl⟩, ?_⟩
    rw [List.findSome?_singleton, List.findSome?_singleton, given]
  · refine ⟨[], ⟨List.nil_sublist _, fun fits => ?_⟩, ?_⟩
    · exact absurd (fits _ List.mem_cons_self) (Nat.not_le.mpr long)
    · rw [List.findSome?_singleton, missed, List.findSome?_nil]

/-- One directory further down, its file is tried first. -/
theorem visits_step {parent : Path} {files : List Path} {visited : List Children}
    (noNull : '\x00' ∉ path.chars)
    (walked : (startOf root current path).walk? path.steps = some lineage)
    (isParent : path.parent? = some parent)
    (visits : Visits (startOf root current path) parent.steps files visited) :
    ∃ further,
      Visits (startOf root current path) path.steps (path.join fileName :: files) further ∧
      (load? (disk root current) (path.join fileName)).or (visited.findSome? inDirectory?) =
        further.findSome? inDirectory? := by
  have shorter := (Path.parent?_steps isParent).2
  rw [shorter] at visits
  rcases load?_join_cases noNull walked with given | ⟨long, missed⟩
  · rcases List.eq_nil_or_concat' path.steps with none | ⟨front, last, isSteps⟩
    · -- A path without steps leads where its parent does.
      rw [none, List.dropLast_nil] at visits
      rw [none] at walked ⊢
      cases walked
      refine ⟨_, ⟨List.Sublist.refl _, fun _ => rfl⟩, ?_⟩
      rw [given, ← findSome?_visited_again visits.onlyPassed, Lineage.passed_nil,
        List.findSome?_singleton]
    · rw [isSteps, List.dropLast_concat] at visits
      rw [isSteps] at walked ⊢
      refine ⟨lineage.here :: visited, ⟨?_, fun fits => ?_⟩, ?_⟩
      · rw [Lineage.passed_concat walked]
        exact visits.onlyPassed.cons_cons _
      · rw [Lineage.passed_concat walked,
          visits.allPassed fun file inside => fits file (List.mem_cons_of_mem _ inside)]
      · rw [given, ← List.singleton_append, List.findSome?_append, List.findSome?_singleton]
  · refine ⟨visited, ⟨visits.onlyPassed.trans (Lineage.passed_dropLast walked), fun fits => ?_⟩, ?_⟩
    · exact absurd (fits _ List.mem_cons_self) (Nat.not_le.mpr long)
    · rw [missed, Option.none_or]

/-- The files on the way up along a text are those of the directories that the
text passes. -/
theorem visits_of_ascends {paths : List Path} (ascends : Path.Ascends path paths)
    (noNull : '\x00' ∉ path.chars)
    (walked : (startOf root current path).walk? path.steps = some lineage) :
    ∃ visited,
      Visits (startOf root current path) path.steps (paths.map (·.join fileName)) visited ∧
      (paths.map (·.join fileName)).findSome? (load? (disk root current)) =
        visited.findSome? inDirectory? := by
  induction ascends generalizing lineage with
  | top noParent => exact visits_top noNull (Path.steps_of_parent?_eq_none noParent)
  | @up path parent above isParent _ inductionHypothesis =>
    obtain ⟨sameKind, shorter⟩ := Path.parent?_steps isParent
    have sameStart : startOf root current parent = startOf root current path := by
      rw [startOf, startOf, sameKind]
    obtain ⟨before, walkedParent⟩ := Lineage.walk?_dropLast walked
    rw [← shorter, ← sameStart] at walkedParent
    have isFront := (Path.parent?_shortens isParent).1
    obtain ⟨visited, visits, found⟩ :=
      inductionHypothesis (fun null => noNull (isFront.subset null)) walkedParent
    rw [sameStart] at visits
    obtain ⟨further, visitsFurther, foundFirst⟩ := visits_step noNull walked isParent visits
    refine ⟨further, visitsFurther, ?_⟩
    rw [List.map_cons, ← List.singleton_append, List.findSome?_append, List.findSome?_singleton,
      found, foundFirst]

/-! ## The directories above -/

/-- The steps to the directory that a path names, or to the one that contains
the file it names. -/
def directorySteps (disk : Disk) (path : Path) : List String :=
  if disk.isFile path then path.steps.dropLast else path.steps

/-- The search starts at the directory of the path. -/
theorem searchStart_steps (disk : Disk) (path : Path) :
    (searchStart disk path).isAbsolute = path.isAbsolute ∧
      (searchStart disk path).steps = directorySteps disk path := by
  unfold searchStart directorySteps
  split
  · cases isParent : path.parent? with
    | none => simp [Path.steps_of_parent?_eq_none isParent]
    | some parent => exact Path.parent?_steps isParent
  · exact ⟨rfl, rfl⟩

private theorem searchStart_front (disk : Disk) (path : Path) :
    (searchStart disk path).chars <+: path.chars := by
  unfold searchStart
  split
  · cases isParent : path.parent? with
    | none => exact List.prefix_rfl
    | some parent => exact (Path.parent?_shortens isParent).1
  · exact List.prefix_rfl

/-- The directory of a path that names something can be walked to. -/
theorem walk?_directorySteps
    (named : disk root current path = .directory ∨
      ∃ content, disk root current path = .file content) :
    ∃ lineage, (startOf root current path).walk? (directorySteps (disk root current) path) =
      some lineage := by
  unfold directorySteps
  rcases named with isDirectory | ⟨content, isFile⟩
  · rw [if_neg fun isFile => Disk.ne_directory_of_isFile isFile isDirectory]
    exact (disk_eq_directory_iff.mp isDirectory).2
  · rw [if_pos (Disk.isFile_iff.mpr ⟨content, isFile⟩)]
    exact (walk?_of_disk_eq_file isFile).2

/-- The search gives the settings of the nearest directory that the path passes. -/
theorem search_visits
    (named : disk root current path = .directory ∨
      ∃ content, disk root current path = .file content) :
    ∃ visited,
      Visits (startOf root current path) (directorySteps (disk root current) path)
        (candidates (disk root current) path) visited ∧
      (search (disk root current) path).settings = nearest visited := by
  obtain ⟨lineage, walked⟩ := walk?_directorySteps named
  obtain ⟨sameKind, isSteps⟩ := searchStart_steps (disk root current) path
  have sameStart : startOf root current (searchStart (disk root current) path) =
      startOf root current path := by
    rw [startOf, startOf, sameKind]
  have noNull : '\x00' ∉ (searchStart (disk root current) path).chars := fun null =>
    (namable_of_named named).noNull ((searchStart_front _ _).subset null)
  rw [← isSteps, ← sameStart] at walked ⊢
  obtain ⟨visited, visits, found⟩ := visits_of_ascends (Path.ascends_iff.mpr rfl) noNull walked
  refine ⟨visited, visits, ?_⟩
  rw [search_eq, searchIn_settings, nearest, ← found]
  rfl

/-- What comes after some directories makes a difference only if none of these has
settings. -/
theorem nearest_append_eq_iff (front left right : List Children) :
    nearest (front ++ left) = nearest (front ++ right) ↔
      (∃ directory ∈ front, (inDirectory? directory).isSome) ∨ nearest left = nearest right := by
  unfold nearest
  rw [List.findSome?_append, List.findSome?_append]
  cases found : front.findSome? inDirectory? with
  | some settings =>
    obtain ⟨directory, inside, given⟩ := List.exists_of_findSome?_eq_some found
    simpa using Or.inl ⟨directory, inside, by simp [given]⟩
  | none =>
    have missing : ¬ ∃ directory ∈ front, (inDirectory? directory).isSome := by
      rintro ⟨directory, inside, given⟩
      rw [List.findSome?_eq_none_iff.mp found directory inside] at given
      cases given
    rw [Option.none_or, Option.none_or, or_iff_right missing]

/-- More directories at the end make no difference if one before them has
settings, or if they have none themselves. -/
theorem nearest_append_iff (front rest : List Children) :
    nearest front = nearest (front ++ rest) ↔
      (∃ directory ∈ front, (inDirectory? directory).isSome) ∨ nearest rest = {} := by
  have law := nearest_append_eq_iff front [] rest
  rw [List.append_nil] at law
  rw [law, eq_comm (a := nearest []) (b := nearest rest)]
  rfl

/-- How an answer of the search compares with the directories of the tree. The
search for a path visits `visited` on its way up along `steps`, and the path
leads to the directory of `lineage`. -/
structure Ascent (start : Lineage) (steps : List String) (files : List Path) (given : Settings)
    (lineage : Lineage) (visited : List Children) : Prop where
  /-- The steps can be walked. -/
  walked : start.walk? steps = some lineage
  /-- The directories visited are those that the steps pass. -/
  visits : Visits start steps files visited
  /-- The answer is that of the nearest of them. -/
  answer : given = nearest visited
  /-- Without a step up, all directories passed contain the path, and so do those
  above the start, which are not visited. -/
  contained : ".." ∉ steps → lineage.directories = start.passed steps ++ start.above
  /-- So the answer is that of all directories that contain the path exactly when
  one visited has settings, or none above the start has any but the defaults. -/
  agrees_iff : ".." ∉ steps → AllFit files →
    (given = nearest lineage.directories ↔
      (∃ directory ∈ visited, (inDirectory? directory).isSome) ∨ nearest start.above = {})
  /-- From the root of a tree the search agrees with it. -/
  fromTop : ".." ∉ steps → AllFit files → start.above = [] → given = nearest lineage.directories
  /-- Any other path has a last step up. -/
  turns : ".." ∈ steps → ∃ before down turn, start.Turns steps before down turn
  /-- Of the directories that contain such a path, only those since that step are
  visited. -/
  contained_turn : ∀ before down turn, start.Turns steps before down turn →
    lineage.directories = turn.passed down ++ turn.above
  /-- So the answer is that of all directories that contain the path exactly when
  one of these has settings, or what was passed before the turn has the same as
  what is above it. -/
  agrees_turn_iff : ∀ before down turn, start.Turns steps before down turn → AllFit files →
    (given = nearest lineage.directories ↔
      (∃ directory ∈ turn.passed down, (inDirectory? directory).isSome) ∨
        nearest (start.passed before) = nearest turn.above)

/-- The search for a path that names something gives the settings of the nearest
directory among those that the text of the path passes on its way, from the
root or from the current directory. `Ascent` says for every path when that is
the nearest of the directories that really contain it. For an absolute path
without a step up it always is. -/
theorem search_upwards (root : Children) (current : List String) (path : Path)
    (named : disk root current path = .directory ∨
      ∃ content, disk root current path = .file content) :
    let start := startOf root current path
    let steps := directorySteps (disk root current) path
    let files := candidates (disk root current) path
    let given := (search (disk root current) path).settings
    ∃ lineage visited, Ascent start steps files given lineage visited ∧
      (path.isAbsolute = true → start.above = []) := by
  intro start steps files given
  obtain ⟨lineage, walked⟩ := walk?_directorySteps named
  obtain ⟨visited, visits, answer⟩ := search_visits named
  have contained (down : ".." ∉ steps) :
      lineage.directories = start.passed steps ++ start.above :=
    Lineage.directories_of_walk? walked down
  have agrees (down : ".." ∉ steps) (fits : AllFit files) : given = nearest lineage.directories ↔
      (∃ directory ∈ visited, (inDirectory? directory).isSome) ∨ nearest start.above = {} := by
    rw [show given = nearest visited from answer, contained down, ← visits.allPassed fits]
    exact nearest_append_iff visited start.above
  refine ⟨lineage, visited, ⟨walked, visits, answer, contained, agrees, ?_,
    Lineage.exists_turns walked, fun _ _ _ turns => turns.directories walked, ?_⟩, ?_⟩
  · intro down fits top
    refine (agrees down fits).mpr (Or.inr ?_)
    rw [top]
    rfl
  · intro before down turn turns fits
    rw [show given = nearest visited from answer, visits.allPassed fits, turns.passed,
      turns.directories walked]
    exact nearest_append_eq_iff _ _ _
  · intro absolute
    simp only [start, startOf, absolute, if_true]

/-- A tree with settings at the top and a directory that holds no more than a
file. -/
def toppedTree : Children :=
  [(fileName, .file "[flagsynth]\nhex = true\n".toUTF8),
    ("a", .directory [("E.json", .file "".toUTF8)])]

/-- A directory with settings and an empty one beside it. -/
def besideTree : Children :=
  [("a", .directory toppedTree), ("b", .directory [])]

/-- For a file in the current directory the settings at the top are missed,
though the file is below them. For a directory beside the current one, the
settings of the current one are given, though it is not in there. -/
theorem search_upwards_missed :
    (∃ lineage, (startOf toppedTree ["a"] ⟨"E.json".toList⟩).walk? [] = some lineage ∧
      (search (disk toppedTree ["a"]) ⟨"E.json".toList⟩).settings ≠
        nearest lineage.directories) ∧
    ∃ lineage, (startOf besideTree ["a"] ⟨"../b".toList⟩).walk? ["..", "b"] = some lineage ∧
      (search (disk besideTree ["a"]) ⟨"../b".toList⟩).settings ≠ nearest lineage.directories := by
  constructor
  · obtain ⟨lineage, visited, ascent, _⟩ :=
      search_upwards toppedTree ["a"] ⟨"E.json".toList⟩ (Or.inr ⟨"".toUTF8, rfl⟩)
    have fits : AllFit (candidates (disk toppedTree ["a"]) ⟨"E.json".toList⟩) := by decide
    refine ⟨lineage, ascent.walked, fun same => ?_⟩
    have agreement := (ascent.agrees_iff (by decide) fits).mp same
    rw [ascent.visits.allPassed fits] at agreement
    rcases agreement with ⟨directory, inside, given⟩ | defaults
    · rw [List.mem_singleton.mp inside] at given
      exact absurd given (by decide)
    · exact absurd defaults (by decide)
  · obtain ⟨lineage, visited, ascent, _⟩ :=
      search_upwards besideTree ["a"] ⟨"../b".toList⟩ (Or.inl rfl)
    have fits : AllFit (candidates (disk besideTree ["a"]) ⟨"../b".toList⟩) := by decide
    have turns : (startOf besideTree ["a"] ⟨"../b".toList⟩).Turns ["..", "b"] [] ["b"]
        ⟨besideTree, []⟩ := ⟨rfl, by decide, rfl⟩
    refine ⟨lineage, ascent.walked, fun same => ?_⟩
    rcases (ascent.agrees_turn_iff [] ["b"] ⟨besideTree, []⟩ turns fits).mp same with
      ⟨directory, inside, given⟩ | alike
    · have either : directory = [] ∨ directory = besideTree := by
        simpa using (show directory ∈ [[], besideTree] from inside)
      rcases either with rfl | rfl <;> exact absurd given (by decide)
    · exact absurd alike (by decide)

/-- The same directory may have other settings when it is named from the current
directory than from the root, and a directory beside it may lend it some: the
search neither leaves the current directory upwards nor keeps to what is above. -/
theorem search_not_upwards :
    (search (disk toppedTree ["a"]) here).settings = {} ∧
      nearest (startOf toppedTree ["a"] here).directories = { hex := some true } ∧
      (search (disk toppedTree ["a"]) ⟨"/a".toList⟩).settings = { hex := some true } ∧
      (search (disk besideTree ["a"]) ⟨"../b".toList⟩).settings = { hex := some true } ∧
      (search (disk besideTree ["a"]) ⟨"/b".toList⟩).settings = {} := by
  refine ⟨rfl, rfl, rfl, rfl, rfl⟩

end Settings

end FlagEnum
