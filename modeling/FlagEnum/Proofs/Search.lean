import FlagEnum.Settings
import FlagEnum.Proofs.Walk

/-!
# The nearest configuration file

The search tries one file in each directory on the way up from a path, and its
answer is the first of them that holds settings. A file that holds none is
passed over as if it were missing, and the files after the first that holds
some make no difference.
-/

namespace FlagEnum

/-! ## Coherent disks -/

/-- Only directories have something in them. -/
def Disk.Coherent (disk : Disk) : Prop :=
  ∀ (path : Path) (name : String), path.chars ≠ [] → '/' ∉ name.toList →
    disk.isFile (path.join name) = true → disk path = .directory

/-- A file has a content. -/
theorem Disk.isFile_iff {disk : Disk} {path : Path} :
    disk.isFile path = true ↔ ∃ content, disk path = .file content := by
  unfold Disk.isFile
  cases disk path <;> simp

/-- A file is no directory. -/
theorem Disk.ne_directory_of_isFile {disk : Disk} {path : Path} (isFile : disk.isFile path = true) :
    disk path ≠ .directory := by
  obtain ⟨content, named⟩ := Disk.isFile_iff.mp isFile
  simp [named]

/-- The disk of every tree is coherent. -/
theorem Tree.disk_coherent (root : Children) (current : List String) :
    (Tree.disk root current).Coherent := by
  intro path name text slashless isFile
  obtain ⟨content, named⟩ := Disk.isFile_iff.mp isFile
  obtain ⟨namable, lineage, walked, _⟩ :=
    (disk_join_eq_file_iff slashless (isName_of_disk_join slashless named)).mp named
  exact disk_eq_directory_iff.mpr ⟨namable.front (Path.chars_join path name) text, lineage, walked⟩

namespace Settings

variable {disk changed : Disk} {path parent file : Path} {files : List Path} {settings : Settings}

/-! ## Files that hold settings -/

/-- The file at a path has a text that gives these settings. -/
def Holds (disk : Disk) (file : Path) (settings : Settings) : Prop :=
  ∃ content text, disk file = .file content ∧ String.fromUTF8? content = some text ∧
    ofText? text = some settings

/-- The file at a path gives some settings. -/
def IsValid (disk : Disk) (file : Path) : Prop :=
  ∃ settings, Holds disk file settings

/-- The settings loaded are those that the file holds. -/
theorem load?_eq_some_iff : load? disk file = some settings ↔ Holds disk file settings := by
  unfold load? Holds Disk.readText
  cases named : disk file with
  | file content => cases decoded : String.fromUTF8? content <;> simp [decodeText, decoded]
  | _ => simp

/-- Nothing is loaded from a file that is not valid. -/
theorem load?_eq_none_iff : load? disk file = none ↔ ¬ IsValid disk file := by
  simp only [Option.eq_none_iff_forall_ne_some, ne_eq, load?_eq_some_iff, IsValid, not_exists]

private theorem load?_congr (same : changed file = disk file) :
    load? changed file = load? disk file := by
  simp only [load?, Disk.readText, same]

/-- A valid configuration file is a file. -/
theorem IsValid.isFile (valid : IsValid disk file) : disk.isFile file = true := by
  obtain ⟨_, content, _, named, _⟩ := valid
  exact Disk.isFile_iff.mpr ⟨content, named⟩

/-- There is nothing valid inside what is no directory. -/
theorem not_isValid_join (coherent : disk.Coherent) (text : path.chars ≠ [])
    (notDirectory : disk path ≠ .directory) : ¬ IsValid disk (path.join fileName) := by
  intro valid
  exact notDirectory (coherent path fileName text (by decide) valid.isFile)

/-! ## The first of several files -/

/-- What a file gives, if it is valid. -/
def locate? (disk : Disk) (file : Path) : Option Located :=
  (load? disk file).map fun settings => ⟨settings, some file⟩

/-- What the first valid one of several files gives. -/
def searchIn (disk : Disk) (files : List Path) : Located :=
  (files.findSome? (locate? disk)).getD {}

/-- The search goes through its candidates. -/
theorem search_eq (disk : Disk) (path : Path) :
    search disk path = searchIn disk (candidates disk path) := rfl

/-- What is to be located among the files: the settings of the first valid one,
together with it, or the defaults if none is valid. -/
inductive Nearest (disk : Disk) (files : List Path) : Located → Prop where
  | found (before : List Path) (file : Path) (after : List Path) (settings : Settings)
      (order : files = before ++ file :: after) (passed : ∀ other ∈ before, ¬ IsValid disk other)
      (holds : Holds disk file settings) : Nearest disk files ⟨settings, some file⟩
  | absent (passed : ∀ other ∈ files, ¬ IsValid disk other) : Nearest disk files {}

private theorem locate?_eq_none_iff : locate? disk file = none ↔ ¬ IsValid disk file := by
  rw [locate?, Option.map_eq_none_iff, load?_eq_none_iff]

private theorem locate?_eq_some_iff {located : Located} :
    locate? disk file = some located ↔
      ∃ settings, Holds disk file settings ∧ located = ⟨settings, some file⟩ := by
  simp only [locate?, Option.map_eq_some_iff, load?_eq_some_iff, @eq_comm _ located]

/-- The search ends at the first candidate that is valid. -/
theorem searchIn_nearest (disk : Disk) (files : List Path) :
    Nearest disk files (searchIn disk files) := by
  unfold searchIn
  cases first : files.findSome? (locate? disk) with
  | none =>
    refine .absent fun other inside => ?_
    exact locate?_eq_none_iff.mp (List.findSome?_eq_none_iff.mp first other inside)
  | some located =>
    obtain ⟨before, file, after, order, isFirst, passed⟩ := List.findSome?_eq_some_iff.mp first
    obtain ⟨settings, holds, rfl⟩ := locate?_eq_some_iff.mp isFirst
    exact .found before file after settings order
      (fun other inside => locate?_eq_none_iff.mp (passed other inside)) holds

private theorem isValid_of_located (chosen : (searchIn disk files).file = some file) :
    IsValid disk file := by
  have nearest := searchIn_nearest disk files
  generalize searchIn disk files = located at nearest chosen
  cases nearest with
  | found before first after settings order passed holds =>
    cases chosen
    exact ⟨settings, holds⟩
  | absent passed => cases chosen

private theorem searchIn_cons (invalid : ¬ IsValid disk file) :
    searchIn disk (file :: files) = searchIn disk files := by
  rw [searchIn, List.findSome?_cons, locate?_eq_none_iff.mpr invalid]
  rfl

private theorem searchIn_append {front rest : List Path} (inside : file ∈ front)
    (valid : IsValid disk file) : searchIn disk (front ++ rest) = searchIn disk front := by
  rw [searchIn, searchIn, List.findSome?_append]
  cases first : front.findSome? (locate? disk) with
  | none =>
    have missed := List.findSome?_eq_none_iff.mp first file inside
    exact absurd valid (locate?_eq_none_iff.mp missed)
  | some located => rfl

/-- Candidates that load the same give the same answer. -/
theorem searchIn_congr (same : ∀ file ∈ files, load? changed file = load? disk file) :
    searchIn changed files = searchIn disk files := by
  have sameFirst : files.findSome? (locate? changed) = files.findSome? (locate? disk) := by
    induction files with
    | nil => rfl
    | cons file rest inductionHypothesis =>
      rw [List.findSome?_cons, List.findSome?_cons,
        inductionHypothesis fun other inside => same other (List.mem_cons_of_mem _ inside),
        locate?, locate?, same file List.mem_cons_self]
  rw [searchIn, searchIn, sameFirst]

/-! ## The files on the way up -/

/-- The files that are tried on the way up from a directory. -/
def filesAbove (start : Path) : List Path :=
  start.selfAndParents.map (·.join fileName)

private theorem filesAbove_of_parent? (isParent : path.parent? = some parent) :
    filesAbove path = path.join fileName :: filesAbove parent := by
  rw [filesAbove, Path.selfAndParents_of_parent? isParent, List.map_cons, filesAbove]

/-- The way up starts at the path, or at the parent of a file. -/
theorem candidates_cases (disk : Disk) (path : Path) :
    candidates disk path = filesAbove path ∨
      ∃ parent, path.parent? = some parent ∧ disk.isFile path = true ∧
        candidates disk path = filesAbove parent := by
  unfold candidates searchStart
  split
  · next isFile =>
    cases isParent : path.parent? with
    | none => exact Or.inl rfl
    | some parent => exact Or.inr ⟨parent, rfl, isFile, rfl⟩
  · exact Or.inl rfl

private theorem chars_ne_nil_of_parent? (isParent : path.parent? = some parent) :
    path.chars ≠ [] := by
  intro empty
  have shorter := (Path.parent?_shortens isParent).2
  simp [empty] at shorter

/-- Inside a file there is nothing to be found, so it makes no difference
whether the way up starts at the file or at its parent. -/
theorem searchIn_candidates (coherent : changed.Coherent)
    (notDirectory : ∀ parent, path.parent? = some parent → disk.isFile path = true →
      changed path ≠ .directory) :
    searchIn changed (candidates disk path) = searchIn changed (filesAbove path) := by
  rcases candidates_cases disk path with whole | ⟨parent, isParent, isFile, above⟩
  · rw [whole]
  · rw [above, filesAbove_of_parent? isParent]
    exact (searchIn_cons (not_isValid_join coherent (chars_ne_nil_of_parent? isParent)
      (notDirectory parent isParent isFile))).symm

/-- The search of a disk may try the files that another disk leads to, if the
path is not turned from a file into a directory. -/
theorem search_eq_searchIn (coherent : changed.Coherent)
    (notDirectory : ∀ parent, path.parent? = some parent → disk.isFile path = true →
      changed path ≠ .directory) :
    search changed path = searchIn changed (candidates disk path) := by
  rw [search_eq, searchIn_candidates coherent notDirectory]
  refine searchIn_candidates coherent fun _ _ isFile => ?_
  exact Disk.ne_directory_of_isFile isFile

/-- A configuration file is the first that is tried for it, never a later one. -/
theorem not_mem_tail_filesAbove (isParent : path.parent? = some parent) :
    path ∉ (filesAbove parent).tail := by
  intro later
  cases isNext : parent.parent? with
  | none => simp [filesAbove, Path.selfAndParents_of_top isNext] at later
  | some next =>
    rw [filesAbove_of_parent? isNext, List.tail_cons] at later
    obtain ⟨directory, above, rfl⟩ := List.mem_map.mp later
    have sameSteps : parent.steps = directory.steps := by
      rw [(Path.parent?_steps isParent).2, Path.steps_join (by decide) (by decide),
        List.dropLast_concat]
    rcases Path.steps_of_mem_parents (Path.ascends_iff.mpr rfl) isNext above with fewer | ⟨empty, _⟩
    · rw [sameSteps] at fewer
      exact absurd fewer (Nat.lt_irrefl _)
    · -- The parent of the bare name is the empty path, which has none.
      have bare : (Path.join ⟨[]⟩ fileName).parent? = some ⟨[]⟩ := by decide
      rw [empty, bare] at isParent
      cases isParent
      cases isNext

/-! ## What makes no difference -/

/-- Deleting candidates that are not valid makes no difference to the search. -/
theorem search_of_deletion (coherent : changed.Coherent)
    (deleted : ∀ file ∈ candidates disk path, changed file = disk file ∨
      changed file = .nothing ∧ ¬ IsValid disk file)
    (kept : changed path = disk path ∨ changed path = .nothing) :
    search changed path = search disk path := by
  have same : ∀ file ∈ candidates disk path, load? changed file = load? disk file := by
    intro file inside
    rcases deleted file inside with unchanged | ⟨missing, invalid⟩
    · exact load?_congr unchanged
    · rw [load?_eq_none_iff.mpr invalid]
      simp [load?, Disk.readText, missing]
  rw [search_eq disk, ← searchIn_congr same]
  refine search_eq_searchIn coherent fun _ _ isFile => ?_
  rcases kept with unchanged | missing
  · rw [unchanged]
    exact Disk.ne_directory_of_isFile isFile
  · simp [missing]

/-- What comes after the chosen candidate makes no difference to the search. -/
theorem search_of_later {before after : List Path} (coherent : changed.Coherent)
    (order : candidates disk path = before ++ file :: after)
    (chosen : (search disk path).file = some file)
    (same : ∀ other ∈ before ++ [file], changed other = disk other)
    (kept : changed path = disk path ∨ path ∈ after) :
    search changed path = search disk path := by
  have sameLoad : ∀ other ∈ before ++ [file], load? changed other = load? disk other :=
    fun other inside => load?_congr (same other inside)
  have inside : file ∈ before ++ [file] := by simp
  have valid : IsValid disk file := isValid_of_located chosen
  have stillValid : IsValid changed file := by
    by_contra invalid
    have lost := load?_eq_none_iff.mpr invalid
    rw [sameLoad file inside] at lost
    exact load?_eq_none_iff.mp lost valid
  have sameSearch : searchIn changed (candidates disk path) = search disk path := by
    rw [search_eq, order, List.append_cons, searchIn_append inside valid,
      searchIn_append inside stillValid, searchIn_congr sameLoad]
  rw [← sameSearch]
  refine search_eq_searchIn coherent fun parent isParent isFile => ?_
  rcases kept with unchanged | later
  · rw [unchanged]
    exact Disk.ne_directory_of_isFile isFile
  · have above : candidates disk path = filesAbove parent := by
      simp only [candidates, searchStart, isFile, if_true, isParent, Option.getD_some, filesAbove]
    refine absurd ?_ (not_mem_tail_filesAbove isParent)
    rw [← above, order]
    cases before with
    | nil => exact later
    | cons first rest => simp [later]

/-- The search tries one file in each directory on the way up, from the path or
from the parent of a file, and gives the settings of the first valid one or the
defaults. Deleting files that are not valid changes nothing, and neither does
any change to the files after the one that counts. -/
theorem search_nearest (disk : Disk) (path : Path) :
    (∃ directories, Path.Ascends (searchStart disk path) directories ∧
      candidates disk path = directories.map (·.join fileName)) ∧
    Nearest disk (candidates disk path) (search disk path) ∧
    (∀ changed : Disk, changed.Coherent →
      (∀ file ∈ candidates disk path, changed file = disk file ∨
        changed file = .nothing ∧ ¬ IsValid disk file) →
      (changed path = disk path ∨ changed path = .nothing) →
      search changed path = search disk path) ∧
    (∀ (changed : Disk) (before : List Path) (file : Path) (after : List Path),
      changed.Coherent → candidates disk path = before ++ file :: after →
      (search disk path).file = some file →
      (∀ other ∈ before ++ [file], changed other = disk other) →
      (changed path = disk path ∨ path ∈ after) →
      search changed path = search disk path) := by
  refine ⟨⟨(searchStart disk path).selfAndParents, Path.ascends_iff.mpr rfl, rfl⟩,
    searchIn_nearest disk (candidates disk path), ?_, ?_⟩
  · intro changed coherent deleted kept
    exact search_of_deletion coherent deleted kept
  · intro changed before file after coherent order chosen same kept
    exact search_of_later coherent order chosen same kept

/-- A tree with a declaration two directories down and settings one directory
down; more may stand at the top and beside the declaration. -/
def nestedTree (top beside : Children) : Children :=
  ("a", .directory [(fileName, .file "[flagsynth]\nhex = true\n".toUTF8),
    ("b", .directory (("E.json", .file "".toUTF8) :: beside))]) :: top

/-- The path of the declaration. -/
def nestedFile : Path := ⟨"a/b/E.json".toList⟩

private theorem candidates_nested (top beside : Children) :
    candidates (Tree.disk (nestedTree top beside) []) nestedFile =
      [⟨"a/b/.flagsynth.toml".toList⟩, ⟨"a/.flagsynth.toml".toList⟩, ⟨".flagsynth.toml".toList⟩] :=
  rfl

/-- A directory with the name of a configuration file may be removed, and so may
the settings at the top: those in between count. -/
theorem search_nearest_nested :
    let top : Children := [(fileName, .file "[flagsynth]\nhex = false\n".toUTF8)]
    let beside : Children := [(fileName, .directory [])]
    search (Tree.disk (nestedTree top []) []) nestedFile =
        search (Tree.disk (nestedTree top beside) []) nestedFile ∧
      search (Tree.disk (nestedTree [] beside) []) nestedFile =
        search (Tree.disk (nestedTree top beside) []) nestedFile ∧
      search (Tree.disk (nestedTree top beside) []) nestedFile =
        ⟨{ hex := some true }, some ⟨"a/.flagsynth.toml".toList⟩⟩ := by
  intro top beside
  obtain ⟨_, _, deletion, later⟩ :=
    search_nearest (Tree.disk (nestedTree top beside) []) nestedFile
  refine ⟨?_, ?_, rfl⟩
  · apply deletion _ (Tree.disk_coherent _ _)
    · intro file inside
      simp only [candidates_nested, List.mem_cons, List.not_mem_nil, or_false] at inside
      rcases inside with rfl | rfl | rfl
      · refine Or.inr ⟨rfl, fun valid => ?_⟩
        exact absurd valid.isFile Bool.false_ne_true
      · exact Or.inl rfl
      · exact Or.inl rfl
    · exact Or.inl rfl
  · apply later _ [⟨"a/b/.flagsynth.toml".toList⟩] ⟨"a/.flagsynth.toml".toList⟩
      [⟨".flagsynth.toml".toList⟩] (Tree.disk_coherent _ _) (candidates_nested _ _) rfl
    · intro other inside
      simp only [List.cons_append, List.nil_append, List.mem_cons, List.not_mem_nil, or_false]
        at inside
      rcases inside with rfl | rfl <;> rfl
    · exact Or.inl rfl

end Settings

end FlagEnum
