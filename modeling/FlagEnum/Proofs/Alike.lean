import FlagEnum.Proofs.Search

/-!
# Trees that differ in configuration files

Two trees may hold the same apart from configuration files. A path to anything
else then names the same in both of them, and in a tree without such files the
search for settings finds none. Where a path passes a configuration file as if
it were a directory, it names nothing in either tree, for different reasons.
-/

namespace FlagEnum

/-- Whether a path names nothing because one of its parts is not there, or is a
file where a directory should be. -/
def Named.isMissing : Named → Bool
  | nothing | throughFile => true
  | tooLong | unnamable | directory | file _ => false

namespace Tree

/-- What stands at a path of names inside a directory. -/
def named (directory : Children) : List String → Named
  | [] => .directory
  | name :: rest =>
    match directory.lookup name with
    | none => .nothing
    | some (.directory inner) => named inner rest
    | some (.file content) => if rest.isEmpty then .file content else .nothing

/-- Two directories hold the same at every depth, apart from configuration files.
These may be in one of them only, or have different contents. -/
def Alike (left right : Children) : Prop :=
  ∀ names, named left names = named right names ∨
    names.getLast? = some Settings.fileName ∧
      named left names ≠ .directory ∧ named right names ≠ .directory

/-- A directory without configuration files at any depth. -/
def Bare (directory : Children) : Prop :=
  ∀ names content, names.getLast? = some Settings.fileName → named directory names ≠ .file content

variable {left right : Children} {name : String}

/-- Likeness of trees does not depend on the side. -/
theorem Alike.symm (alike : Alike left right) : Alike right left := by
  intro names
  rcases alike names with same | ⟨isLast, notLeft, notRight⟩
  · exact .inl same.symm
  · exact .inr ⟨isLast, notRight, notLeft⟩

private theorem Alike.enter {inner : Children} (alike : Alike left right)
    (found : left.lookup name = some (.directory inner)) :
    ∃ other, right.lookup name = some (.directory other) ∧ Alike inner other := by
  have isDirectory : named left [name] = .directory := by simp only [named, found]
  have otherIsDirectory : named right [name] = .directory := by
    rcases alike [name] with same | ⟨_, notDirectory, _⟩
    · exact same.symm.trans isDirectory
    · exact absurd isDirectory notDirectory
  unfold named at otherIsDirectory
  split at otherIsDirectory
  · cases otherIsDirectory
  · next other otherFound =>
    refine ⟨other, otherFound, ?_⟩
    rintro (_ | ⟨first, rest⟩)
    · exact .inl rfl
    · simpa only [named, found, otherFound, List.getLast?_cons_cons] using
        alike (name :: first :: rest)
  · simp at otherIsDirectory

private theorem Alike.not_enter (alike : Alike left right)
    (stuck : ∀ inner, left.lookup name ≠ some (.directory inner)) :
    ∀ inner, right.lookup name ≠ some (.directory inner) := by
  intro inner found
  obtain ⟨other, otherFound, _⟩ := alike.symm.enter found
  exact stuck other otherFound

/-- Where there is nothing to enter, both directories hold the same file or
none, unless it is a configuration file. -/
theorem Alike.lookup (alike : Alike left right) (isOther : name ≠ Settings.fileName)
    (stuck : ∀ inner, left.lookup name ≠ some (.directory inner)) :
    left.lookup name = right.lookup name := by
  have otherStuck := alike.not_enter stuck
  have same : named left [name] = named right [name] :=
    (alike [name]).resolve_right fun differs => isOther (by simpa using differs.1)
  simp only [named, List.isEmpty_nil, if_true] at same
  rcases leftFound : left.lookup name with _ | ⟨content⟩ | ⟨inner⟩
  · rcases rightFound : right.lookup name with _ | ⟨content⟩ | ⟨inner⟩
    · rfl
    · simp [leftFound, rightFound] at same
    · exact absurd rightFound (otherStuck inner)
  · rcases rightFound : right.lookup name with _ | ⟨other⟩ | ⟨inner⟩
    · simp [leftFound, rightFound] at same
    · simpa [leftFound, rightFound] using same
    · exact absurd rightFound (otherStuck inner)
  · exact absurd leftFound (stuck inner)

/-! ## Walks in both trees -/

namespace Lineage

variable {first second : Lineage}

/-- The directories of two lineages are alike one by one. -/
structure Alike (first second : Lineage) : Prop where
  here : Tree.Alike first.here second.here
  above : List.Forall₂ Tree.Alike first.above second.above

private theorem Alike.up (alike : first.Alike second) : first.up.Alike second.up := by
  obtain ⟨here, above⟩ := first
  obtain ⟨otherHere, otherAbove⟩ := second
  cases alike.above with
  | nil => exact alike
  | cons parent further => exact ⟨parent, further⟩

private theorem Alike.enter {inner other : Children} (alike : first.Alike second)
    (inside : Tree.Alike inner other) :
    Lineage.Alike ⟨inner, first.directories⟩ ⟨other, second.directories⟩ :=
  ⟨inside, .cons alike.here alike.above⟩

/-- Lineages stay alike on the way down to the current directory. -/
theorem Alike.down (alike : first.Alike second) (names : List String) :
    (first.down names).Alike (second.down names) := by
  induction names generalizing first second with
  | nil => exact alike
  | cons name rest inductionHypothesis =>
    unfold Lineage.down
    split
    · next inner found =>
      obtain ⟨other, otherFound, inside⟩ := alike.here.enter found
      rw [otherFound]
      exact inductionHypothesis (alike.enter inside)
    · next stuck =>
      split
      · next inner found => exact absurd found (alike.here.not_enter stuck inner)
      · exact alike

end Lineage

/-- Where there is nothing to enter, nothing is reached beyond. -/
theorem follow_beyond {lineage : Lineage} {part : String} {rest : List String}
    (isName : leads part = true ∧ part ≠ ".." ∧ ¬ maxName < Text.byteCount part.toList)
    (stuck : ∀ inner, lineage.here.lookup part ≠ some (.directory inner)) (further : rest ≠ []) :
    (follow lineage.here lineage.above (part :: rest)).isMissing = true := by
  obtain ⟨isStep, notUp, short⟩ := isName
  rw [follow_cons, if_neg (by simp [isStep]), if_neg notUp, if_neg short]
  split
  · rfl
  · next inner found => exact absurd found (stuck inner)
  · rw [if_neg (by simpa using further)]
    rfl

/-- A path that does not end in the name of configuration files names the same
in both trees, or is missing in both because it passes that name. -/
theorem follow_alike {first second : Lineage} (alike : first.Alike second) {parts : List String}
    (isOther : parts.getLast? ≠ some Settings.fileName) :
    follow first.here first.above parts = follow second.here second.above parts ∨
      Settings.fileName ∈ parts ∧ (follow first.here first.above parts).isMissing = true ∧
        (follow second.here second.above parts).isMissing = true := by
  induction parts generalizing first second with
  | nil => exact .inl rfl
  | cons part rest inductionHypothesis =>
    have restOther : rest.getLast? ≠ some Settings.fileName := by
      cases rest with
      | nil => simp
      | cons next further => simpa only [List.getLast?_cons_cons] using isOther
    have onward : ∀ {next other : Lineage}, next.Alike other →
        follow next.here next.above rest = follow other.here other.above rest ∨
          Settings.fileName ∈ part :: rest ∧ (follow next.here next.above rest).isMissing = true ∧
            (follow other.here other.above rest).isMissing = true := fun alike =>
      (inductionHypothesis alike restOther).imp_right (And.imp_left (List.mem_cons_of_mem part))
    -- Where the name of configuration files leads into no directory the trees may differ, but as
    -- it is not the last part, the path ends there in both.
    by_cases passes : part = Settings.fileName ∧
        ∀ inner, first.here.lookup part ≠ some (.directory inner)
    · obtain ⟨rfl, stuck⟩ := passes
      have further : rest ≠ [] := by
        rintro rfl
        exact isOther rfl
      have isName : leads Settings.fileName = true ∧ Settings.fileName ≠ ".." ∧
          ¬ maxName < Text.byteCount Settings.fileName.toList := by decide
      exact .inr ⟨List.mem_cons_self, follow_beyond isName stuck further,
        follow_beyond isName (alike.here.not_enter stuck) further⟩
    · rw [follow_cons, follow_cons]
      split
      · exact onward alike
      · split
        · exact onward alike.up
        · split
          · exact .inl rfl
          · by_cases entered : ∃ inner, first.here.lookup part = some (.directory inner)
            · obtain ⟨inner, found⟩ := entered
              obtain ⟨other, otherFound, inside⟩ := alike.here.enter found
              rw [found, otherFound]
              exact onward (alike.enter inside)
            · have stuck := not_exists.mp entered
              have same := alike.here.lookup (fun isFile => passes ⟨isFile, stuck⟩) stuck
              refine .inl ?_
              rw [← same]
              split
              · rfl
              · next inner found => exact absurd found (stuck inner)
              · rfl

variable {current : List String} {path : Path}

/-- What a path names in two trees that differ in configuration files. -/
theorem disk_alike (alike : Alike left right)
    (isOther : (parts path).getLast? ≠ some Settings.fileName) :
    disk left current path = disk right current path ∨
      Settings.fileName ∈ parts path ∧ (disk left current path).isMissing = true ∧
        (disk right current path).isMissing = true := by
  by_cases namable : Namable path
  · have fromRoot : Lineage.Alike ⟨left, []⟩ ⟨right, []⟩ := ⟨alike, .nil⟩
    have fromStart : (startOf left current path).Alike (startOf right current path) := by
      unfold startOf
      split
      · exact fromRoot
      · exact fromRoot.down current
    rw [disk_of_namable namable, disk_of_namable namable]
    exact follow_alike fromStart isOther
  · refine .inl ?_
    unfold disk
    split
    · rfl
    · next noNull =>
      split
      · rfl
      · next fits =>
        have empty : path.chars = [] := by
          by_contra text
          exact namable ⟨text, by simpa using noNull, Nat.not_lt.mp fits⟩
        rw [empty]

/-! ## A tree without settings -/

private theorem Bare.enter {inner : Children} (bare : Bare left)
    (found : left.lookup name = some (.directory inner)) : Bare inner := by
  rintro (_ | ⟨first, rest⟩) content isLast
  · cases isLast
  · have outside := bare (name :: first :: rest) content (by rwa [List.getLast?_cons_cons])
    simpa only [named, found] using outside

private theorem Bare.fileIn? (bare : Bare left) : fileIn? left Settings.fileName = none := by
  have noFile := bare [Settings.fileName]
  unfold Tree.fileIn?
  split
  · next content found => exact absurd (by simp [named, found]) (noFile content rfl)
  · rfl

private theorem Bare.enter? {lineage next : Lineage} {step : String}
    (bare : ∀ directory ∈ lineage.directories, Bare directory)
    (entered : lineage.enter? step = some next) :
    ∀ directory ∈ next.directories, Bare directory := by
  unfold Lineage.enter? at entered
  split at entered
  · cases entered
    obtain ⟨here, above⟩ := lineage
    cases above with
    | nil => exact bare
    | cons parent further =>
      exact fun directory inside => bare directory (List.mem_cons_of_mem _ inside)
  · split at entered
    · cases entered
    · split at entered
      · next inner found =>
        cases entered
        rintro directory (_ | ⟨_, inside⟩)
        · exact (bare lineage.here List.mem_cons_self).enter found
        · exact bare directory inside
      · cases entered

/-- A walk among bare directories passes no others. -/
theorem Bare.walk? {lineage next : Lineage} {steps : List String}
    (bare : ∀ directory ∈ lineage.directories, Bare directory)
    (walked : lineage.walk? steps = some next) :
    ∀ directory ∈ next.directories, Bare directory := by
  induction steps generalizing lineage with
  | nil =>
    cases walked
    exact bare
  | cons step rest inductionHypothesis =>
    obtain ⟨middle, entered, further⟩ := Option.bind_eq_some_iff.mp walked
    exact inductionHypothesis (Bare.enter? bare entered) further

private theorem Bare.down {lineage : Lineage}
    (bare : ∀ directory ∈ lineage.directories, Bare directory) (names : List String) :
    ∀ directory ∈ (lineage.down names).directories, Bare directory := by
  induction names generalizing lineage with
  | nil => exact bare
  | cons name rest inductionHypothesis =>
    unfold Lineage.down
    split
    · next inner found =>
      apply inductionHypothesis
      rintro directory (_ | ⟨_, inside⟩)
      · exact (bare lineage.here List.mem_cons_self).enter found
      · exact bare directory inside
    · exact bare

/-- In a bare tree there is no configuration file to load. -/
theorem Bare.load? (bare : Bare left) :
    Settings.load? (disk left current) (path.join Settings.fileName) = none := by
  have fromRoot : ∀ directory ∈ Lineage.directories ⟨left, []⟩, Bare directory := by
    simpa [Lineage.directories] using bare
  have fromStart : ∀ directory ∈ (startOf left current path).directories, Bare directory := by
    unfold startOf
    split
    · exact fromRoot
    · exact Bare.down fromRoot current
  refine Settings.load?_eq_none_iff.mpr fun valid => ?_
  obtain ⟨content, isFile⟩ := Disk.isFile_iff.mp valid.isFile
  obtain ⟨_, lineage, walked, found⟩ :=
    (disk_join_eq_file_iff (by decide) (by decide)).mp isFile
  have noFile := (Bare.walk? fromStart walked lineage.here List.mem_cons_self).fileIn?
  rw [found] at noFile
  cases noFile

/-- The search finds no settings in a tree that has none. -/
theorem Bare.search (bare : Bare left) : Settings.search (disk left current) path = {} := by
  have invalid : ∀ file ∈ Settings.candidates (disk left current) path,
      Settings.load? (disk left current) file = none := by
    intro file tried
    obtain ⟨directory, _, rfl⟩ := List.mem_map.mp tried
    exact bare.load?
  have none : (Settings.candidates (disk left current) path).findSome? (fun file =>
      (Settings.load? (disk left current) file).map fun settings =>
        (⟨settings, some file⟩ : Settings.Located)) = none := by
    refine List.findSome?_eq_none_iff.mpr fun file tried => ?_
    rw [invalid file tried]
    rfl
  unfold Settings.search
  rw [none]
  rfl

/-! ## Trees put together -/

/-- An empty directory is bare. -/
theorem Bare.nil : Bare [] := by
  rintro (_ | ⟨first, rest⟩) content isLast isFile
  · cases isLast
  · cases isFile

/-- One more entry leaves a directory bare if it is no configuration file and what
it holds is bare. -/
theorem Bare.cons {node : Tree} (bare : Bare left)
    (inside : ∀ inner, node = .directory inner → Bare inner)
    (isOther : ∀ content, node = .file content → name ≠ Settings.fileName) :
    Bare ((name, node) :: left) := by
  rintro (_ | ⟨first, rest⟩) content isLast isFile
  · cases isLast
  by_cases isFirst : first = name
  · subst isFirst
    simp only [named, List.lookup_cons_self] at isFile
    cases node with
    | directory inner =>
      cases rest with
      | nil => cases isFile
      | cons second further =>
        rw [List.getLast?_cons_cons] at isLast
        exact inside inner rfl (second :: further) content isLast isFile
    | file content =>
      cases rest with
      | nil => exact isOther content rfl (by simpa using isLast)
      | cons second further => cases isFile
  · have skipped : named ((name, node) :: left) (first :: rest) = named left (first :: rest) := by
      simp only [named, List.lookup_cons, beq_false_of_ne isFirst]
    exact bare (first :: rest) content isLast (skipped ▸ isFile)

/-- A configuration file is added to a directory that has none. -/
theorem alike_cons (content : ByteArray) (none : left.lookup Settings.fileName = none) :
    Alike ((Settings.fileName, .file content) :: left) left := by
  rintro (_ | ⟨first, rest⟩)
  · exact .inl rfl
  by_cases isFirst : first = Settings.fileName
  · subst isFirst
    cases rest with
    | nil => exact .inr ⟨rfl, by simp [named], by simp [named, none]⟩
    | cons second further => exact .inl (by simp [named, none])
  · refine .inl ?_
    simp only [named, List.lookup_cons, beq_false_of_ne isFirst]

end Tree

end FlagEnum
