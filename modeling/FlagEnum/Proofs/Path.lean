import FlagEnum.Path
import Mathlib.Tactic

/-!
# Steps of a path text

A path text is a row of parts between slashes, of which those that are neither
empty nor a single dot lead somewhere: its steps. The parent of a path is a
shorter start of its text with the last step gone, so the way up through the
parents ends, and it is the same way for all spellings of the same steps.
-/

namespace FlagEnum.Path

/-- Whether a path starts at the root. -/
def isAbsolute (path : Path) : Bool :=
  path.chars.head? == some '/'

/-- Whether a part of a path leads on. -/
def isStep (part : List Char) : Bool :=
  part != [] && part != ['.']

/-- The parts of a text that lead on. -/
def stepsOf (text : List Char) : List (List Char) :=
  (text.splitOn '/').filter isStep

/-- The steps of a path, from its start. -/
def steps (path : Path) : List String :=
  (stepsOf path.chars).map String.ofList

/-! ## Steps of texts -/

@[simp] theorem stepsOf_nil : stepsOf [] = [] := by
  decide

@[simp] theorem stepsOf_dot : stepsOf ['.'] = [] := by
  decide

/-- A slash separates the steps before it from those after it. -/
theorem stepsOf_append_slash (left right : List Char) :
    stepsOf (left ++ '/' :: right) = stepsOf left ++ stepsOf right := by
  rw [stepsOf, List.splitOn_append_cons_self, List.filter_append]
  rfl

@[simp] theorem stepsOf_slash (text : List Char) : stepsOf ('/' :: text) = stepsOf text := by
  simpa using stepsOf_append_slash [] text

/-- The last part of a text, which is read from its end, is a text of its own. -/
theorem stepsOf_reverse (text : List Char) :
    stepsOf text.reverse =
      stepsOf (text.dropWhile (· != '/')).reverse ++
        [(text.takeWhile (· != '/')).reverse].filter isStep := by
  have slashless : '/' ∉ (text.takeWhile (· != '/')).reverse := by
    intro inside
    have different := List.all_takeWhile (p := (· != '/')) (l := text)
    simp only [List.all_eq_true] at different
    exact absurd (different '/' (List.mem_reverse.mp inside)) (by decide)
  have last : stepsOf (text.takeWhile (· != '/')).reverse =
      [(text.takeWhile (· != '/')).reverse].filter isStep := by
    rw [stepsOf, List.splitOn_eq_singleton slashless]
  rw [← last]
  have parts := List.takeWhile_append_dropWhile (p := (· != '/')) (l := text)
  have next := List.head?_dropWhile_not (· != '/') text
  cases others : text.dropWhile (· != '/') with
  | nil =>
    rw [others, List.append_nil] at parts
    rw [parts, List.reverse_nil, stepsOf_nil, List.nil_append]
  | cons slash rest =>
    rw [others] at parts next
    have isSlash : slash = '/' := by simpa using next
    subst isSlash
    conv_lhs => rw [← parts]
    rw [List.reverse_append, List.reverse_cons, List.append_assoc, List.singleton_append,
      stepsOf_append_slash, stepsOf_append_slash, stepsOf_nil, List.append_nil]

/-! ## The end of a text -/

private theorem dropIdleEnd_suffix (text : List Char) : dropIdleEnd text <:+ text := by
  fun_induction dropIdleEnd text with
  | case1 rest inductionHypothesis => exact inductionHypothesis.trans (List.suffix_cons _ _)
  | case2 rest inductionHypothesis =>
    exact inductionHypothesis.trans ((List.suffix_cons _ _).trans (List.suffix_cons _ _))
  | case3 => exact List.nil_suffix
  | case4 text => exact List.suffix_rfl

/-- What is dropped at the end of a text holds no step. -/
theorem stepsOf_dropIdleEnd (text : List Char) :
    stepsOf (dropIdleEnd text).reverse = stepsOf text.reverse := by
  fun_induction dropIdleEnd text with
  | case1 rest inductionHypothesis =>
    rw [inductionHypothesis, List.reverse_cons, stepsOf_append_slash, stepsOf_nil,
      List.append_nil]
  | case2 rest inductionHypothesis =>
    rw [inductionHypothesis, List.reverse_cons, List.reverse_cons, List.append_assoc,
      List.singleton_append, stepsOf_append_slash, stepsOf_dot, List.append_nil]
  | case3 => decide
  | case4 text => rfl

/-- What is left ends in a step: its last part is neither empty nor a dot. -/
theorem isStep_of_dropIdleEnd {text : List Char} (left : dropIdleEnd text ≠ []) :
    isStep ((dropIdleEnd text).takeWhile (· != '/')).reverse = true := by
  fun_induction dropIdleEnd text with
  | case1 rest inductionHypothesis => exact inductionHypothesis left
  | case2 rest inductionHypothesis => exact inductionHypothesis left
  | case3 => exact absurd rfl left
  | case4 text noSlash noDotSlash noDot =>
    match text with
    | [] => exact absurd rfl left
    | [first] =>
      have notSlash : first ≠ '/' := fun same => noSlash [] (by rw [same])
      have notDot : first ≠ '.' := fun same => noDot (by rw [same])
      simp [isStep, notSlash, notDot]
    | first :: second :: rest =>
      have notSlash : first ≠ '/' := fun same => noSlash (second :: rest) (by rw [same])
      by_cases alone : second = '/'
      · have notDot : first ≠ '.' := fun same => noDotSlash rest (by rw [same, alone])
        simp [isStep, notSlash, notDot, alone]
      · have longer : (rest.takeWhile (· != '/')).reverse ++ [second, first] ≠ ['.'] := by
          intro same
          have lengths := congrArg List.length same
          simp at lengths
        simp [isStep, notSlash, alone, longer]

/-! ## The start of a text -/

private theorem splitStart_append (text : List Char) :
    (splitStart text).1 ++ (splitStart text).2 = text := by
  fun_cases splitStart text <;> rfl

/-- The start that is split off is no step, whatever of the text comes after it. -/
theorem stepsOf_splitStart {text front : List Char} (isFront : front <+: (splitStart text).2) :
    stepsOf ((splitStart text).1 ++ front) = stepsOf front := by
  fun_cases splitStart text with
  | case1 rest => exact stepsOf_slash front
  | case2 =>
    have empty : front = [] := List.prefix_nil.mp isFront
    subst empty
    exact stepsOf_dot
  | case3 rest =>
    match front with
    | [] => exact stepsOf_dot
    | first :: others =>
      obtain ⟨rfl, _⟩ := List.cons_prefix_cons.mp isFront
      simpa using stepsOf_append_slash ['.'] others
  | case4 text => rfl

private theorem stepsOf_body (text : List Char) : stepsOf (splitStart text).2 = stepsOf text := by
  rw [← stepsOf_splitStart List.prefix_rfl, splitStart_append]

private theorem head?_splitStart {text front : List Char}
    (isFront : front <+: (splitStart text).2) :
    ((splitStart text).1 ++ front).head? = some '/' ↔ text.head? = some '/' := by
  revert isFront
  fun_cases splitStart text with
  | case1 rest => simp
  | case2 => simp
  | case3 rest => simp
  | case4 text noSlash =>
    intro isFront
    have notSlash : text.head? ≠ some '/' := by
      intro slash
      obtain ⟨rest, isText⟩ := List.head?_eq_some_iff.mp slash
      exact noSlash rest isText
    match front with
    | [] => simp [notSlash]
    | first :: others =>
      obtain ⟨rest, rfl⟩ := isFront
      simp

/-! ## Parents -/

private theorem stepsOf_eq_nil {body : List Char} (idle : dropIdleEnd body.reverse = []) :
    stepsOf body = [] := by
  have steps := stepsOf_dropIdleEnd body.reverse
  rw [idle, List.reverse_nil, stepsOf_nil, List.reverse_reverse] at steps
  exact steps.symm

/-- A text without its last step. -/
def withoutLast (body : List Char) : List Char :=
  (dropIdleEnd ((dropIdleEnd body.reverse).dropWhile (· != '/'))).reverse

private theorem withoutLast_front (body : List Char) : withoutLast body <+: body := by
  have suffix : dropIdleEnd ((dropIdleEnd body.reverse).dropWhile (· != '/')) <:+ body.reverse :=
    (dropIdleEnd_suffix _).trans ((List.dropWhile_suffix _).trans (dropIdleEnd_suffix _))
  simpa [withoutLast] using List.reverse_prefix.mpr suffix

/-- The steps of a text are those without its last one, and the last one. -/
theorem stepsOf_eq_withoutLast {body : List Char} (left : dropIdleEnd body.reverse ≠ []) :
    ∃ last, stepsOf body = stepsOf (withoutLast body) ++ [last] := by
  have last := isStep_of_dropIdleEnd left
  have whole : stepsOf (dropIdleEnd body.reverse).reverse = stepsOf body := by
    rw [stepsOf_dropIdleEnd, List.reverse_reverse]
  refine ⟨((dropIdleEnd body.reverse).takeWhile (· != '/')).reverse, ?_⟩
  rw [withoutLast, stepsOf_dropIdleEnd, ← whole, stepsOf_reverse, List.filter_singleton, last,
    cond_true]

/-- The parent of a path is the text without its last step, behind the same
start. A path of a dot alone has the empty path as its parent. -/
theorem parent?_eq (path : Path) :
    path.parent? =
      if dropIdleEnd (splitStart path.chars).2.reverse = [] then
        if (splitStart path.chars).1 = ['.'] then some ⟨[]⟩ else none
      else some ⟨(splitStart path.chars).1 ++ withoutLast (splitStart path.chars).2⟩ := by
  simp only [parent?]
  split
  · next empty => rw [if_pos empty]
  · next nonempty => rw [if_neg (fun empty => nonempty empty), withoutLast]

/-- The parent of a path is a shorter start of its text. -/
theorem parent?_shortens {path parent : Path} (isParent : path.parent? = some parent) :
    parent.chars <+: path.chars ∧ parent.chars.length < path.chars.length := by
  have whole := splitStart_append path.chars
  rw [parent?_eq] at isParent
  split at isParent
  · split at isParent
    · next dot =>
      cases isParent
      have lengths := congrArg List.length whole
      simp only [dot, List.length_append, List.length_singleton] at lengths
      exact ⟨List.nil_prefix, by simp only [List.length_nil]; omega⟩
    · cases isParent
  · next left =>
    cases isParent
    have isFront := withoutLast_front (splitStart path.chars).2
    obtain ⟨last, steps⟩ := stepsOf_eq_withoutLast left
    have shorter : withoutLast (splitStart path.chars).2 ≠ (splitStart path.chars).2 := by
      intro same
      rw [same] at steps
      have lengths := congrArg List.length steps
      simp at lengths
    refine ⟨?_, ?_⟩
    · conv_rhs => rw [← whole]
      exact (List.prefix_append_right_inj _).mpr isFront
    · conv_rhs => rw [← whole]
      rw [List.length_append, List.length_append]
      have less := Nat.lt_of_le_of_ne isFront.length_le fun same =>
        shorter (isFront.eq_of_length same)
      omega

/-- The parent of a path starts where the path does and lacks its last step. -/
theorem parent?_steps {path parent : Path} (isParent : path.parent? = some parent) :
    parent.isAbsolute = path.isAbsolute ∧ parent.steps = path.steps.dropLast := by
  rw [parent?_eq] at isParent
  split at isParent
  · next idle =>
    split at isParent
    · next dot =>
      cases isParent
      have relative := @head?_splitStart path.chars [] List.nil_prefix
      rw [dot] at relative
      have none : stepsOf path.chars = [] := by rw [← stepsOf_body, stepsOf_eq_nil idle]
      have notSlash : path.chars.head? ≠ some '/' := relative.not.mp (by decide)
      simp [isAbsolute, steps, none, notSlash]
    · cases isParent
  · next left =>
    cases isParent
    have isFront := withoutLast_front (splitStart path.chars).2
    obtain ⟨last, isLast⟩ := stepsOf_eq_withoutLast left
    rw [stepsOf_body] at isLast
    refine ⟨?_, ?_⟩
    · rw [Bool.eq_iff_iff, isAbsolute, isAbsolute, beq_iff_eq, beq_iff_eq]
      exact head?_splitStart isFront
    · simp [steps, stepsOf_splitStart isFront, isLast]

/-- A path without a parent has no steps. -/
theorem steps_of_parent?_eq_none {path : Path} (top : path.parent? = none) : path.steps = [] := by
  rw [parent?_eq] at top
  split at top
  · next idle => rw [steps, ← stepsOf_body, stepsOf_eq_nil idle, List.map_nil]
  · cases top

/-- A path without steps that has a parent is a dot, and the parent is empty. -/
theorem parent?_of_steps_eq_nil {path parent : Path} (none : path.steps = [])
    (isParent : path.parent? = some parent) : parent = ⟨[]⟩ := by
  rw [parent?_eq] at isParent
  split at isParent
  · split at isParent
    · exact (Option.some.inj isParent).symm
    · cases isParent
  · next left =>
    obtain ⟨last, isLast⟩ := stepsOf_eq_withoutLast left
    rw [steps, ← stepsOf_body, isLast] at none
    simp at none

/-! ## The way up -/

/-- `paths` are a path and its parents, one after the other, up to the first
path that has no parent. -/
inductive Ascends : Path → List Path → Prop where
  | top {path : Path} (noParent : path.parent? = none) : Ascends path [path]
  | up {path parent : Path} {above : List Path} (isParent : path.parent? = some parent)
      (rest : Ascends parent above) : Ascends path (path :: above)

/-- A parent is shorter, so as many steps as the text is long are enough. -/
theorem climb_ascends {fuel : Nat} {path : Path} (enough : path.chars.length ≤ fuel) :
    Ascends path (climb fuel path) := by
  induction fuel generalizing path with
  | zero =>
    rw [climb]
    cases isParent : path.parent? with
    | none => exact .top isParent
    | some parent =>
      have shorter := (parent?_shortens isParent).2
      omega
  | succ fuel inductionHypothesis =>
    rw [climb]
    cases isParent : path.parent? with
    | none => exact .top isParent
    | some parent =>
      have shorter := (parent?_shortens isParent).2
      exact .up isParent (inductionHypothesis (by omega))

/-- There is one way up. -/
theorem Ascends.unique {path : Path} {left right : List Path} (first : Ascends path left)
    (second : Ascends path right) : left = right := by
  induction first generalizing right with
  | top noParent =>
    cases second with
    | top _ => rfl
    | up isParent _ => cases noParent.symm.trans isParent
  | up isParent _ inductionHypothesis =>
    cases second with
    | top noParent => cases noParent.symm.trans isParent
    | up isOther rest =>
      cases isParent.symm.trans isOther
      rw [inductionHypothesis rest]

/-- The way up is through the path and its parents. -/
theorem ascends_iff {path : Path} {paths : List Path} :
    Ascends path paths ↔ paths = path.selfAndParents := by
  have found : Ascends path path.selfAndParents := climb_ascends (Nat.le_refl _)
  constructor
  · intro ascends
    exact ascends.unique found
  · rintro rfl
    exact found

/-- A path without a parent is alone on its way up. -/
theorem selfAndParents_of_top {path : Path} (noParent : path.parent? = none) :
    path.selfAndParents = [path] :=
  (ascends_iff.mp (.top noParent)).symm

/-- The way up goes on from the parent. -/
theorem selfAndParents_of_parent? {path parent : Path} (isParent : path.parent? = some parent) :
    path.selfAndParents = path :: parent.selfAndParents :=
  (ascends_iff.mp (.up isParent (ascends_iff.mpr rfl))).symm

/-- A parent has fewer steps, but for the empty parent of a dot. -/
theorem parent?_fewer {path parent : Path} (isParent : path.parent? = some parent) :
    parent.steps.length < path.steps.length ∨ parent = ⟨[]⟩ ∧ path.steps = [] := by
  by_cases none : path.steps = []
  · exact Or.inr ⟨parent?_of_steps_eq_nil none isParent, none⟩
  · have positive := List.length_pos_iff.mpr none
    rw [(parent?_steps isParent).2, List.length_dropLast]
    exact Or.inl (by omega)

/-- A path above has fewer steps, but for the empty one above a path without
steps. -/
theorem steps_of_mem_parents {path parent : Path} {parents : List Path}
    (ascends : Ascends parent parents) (isParent : path.parent? = some parent) {other : Path}
    (inside : other ∈ parents) :
    other.steps.length < path.steps.length ∨ other = ⟨[]⟩ ∧ path.steps = [] := by
  have first := parent?_fewer isParent
  induction ascends generalizing path with
  | top noParent =>
    rw [List.mem_singleton.mp inside]
    exact first
  | up isNext _ inductionHypothesis =>
    rcases List.mem_cons.mp inside with rfl | further
    · exact first
    · -- The empty path has no parent, so the first step up was one step shorter.
      have fewer := first.resolve_right fun ⟨empty, _⟩ => by
        rw [empty] at isNext
        cases isNext
      rcases inductionHypothesis isNext further (parent?_fewer isNext) with less | ⟨rfl, none⟩
      · exact Or.inl (less.trans fewer)
      · rw [none] at fewer
        exact Or.inl (by simpa [steps] using fewer)

/-! ## Paths inside a directory -/

section Join

variable {path : Path} {name : String}

/-- Behind a path that is not empty the name follows one slash, which the path
may have brought along. -/
theorem join_cases (path : Path) (name : String) :
    path.chars = [] ∧ path.join name = ⟨name.toList⟩ ∨
      ∃ front, (path.chars = front ++ ['/'] ∨ path.chars = front ∧ front ≠ []) ∧
        path.join name = ⟨front ++ '/' :: name.toList⟩ := by
  unfold join
  split
  · next empty => exact Or.inl ⟨List.getLast?_eq_none_iff.mp empty, rfl⟩
  · next ends =>
    obtain ⟨front, isText⟩ := List.getLast?_eq_some_iff.mp ends
    exact Or.inr ⟨front, Or.inl isText, by simp [isText]⟩
  · next ends =>
    have text : path.chars ≠ [] := by
      intro empty
      simp [empty] at ends
    exact Or.inr ⟨path.chars, Or.inr ⟨rfl, text⟩, rfl⟩

/-- A joined path starts with the path. -/
theorem chars_join (path : Path) (name : String) : path.chars <+: (path.join name).chars := by
  rcases join_cases path name with ⟨empty, _⟩ | ⟨front, isText | ⟨isText, _⟩, joined⟩
  · rw [empty]
    exact List.nil_prefix
  · rw [isText, joined]
    exact ⟨name.toList, by simp⟩
  · rw [isText, joined]
    exact List.prefix_append _ _

/-- Joining a name adds it as the last step. -/
theorem steps_join (slashless : '/' ∉ name.toList) (leads : isStep name.toList = true) :
    (path.join name).steps = path.steps ++ [name] := by
  have last : stepsOf name.toList = [name.toList] := by
    rw [stepsOf, List.splitOn_eq_singleton slashless, List.filter_singleton, leads, cond_true]
  rcases join_cases path name with ⟨empty, joined⟩ | ⟨front, isText | ⟨isText, _⟩, joined⟩
  · simp [steps, joined, empty, last]
  · simp [steps, joined, isText, stepsOf_append_slash, last]
  · simp [steps, joined, isText, stepsOf_append_slash, last]

/-- Joining a name keeps a path absolute or relative. -/
theorem isAbsolute_join (slashless : '/' ∉ name.toList) :
    (path.join name).isAbsolute = path.isAbsolute := by
  have notSlash : name.toList.head? ≠ some '/' := fun slash =>
    slashless (List.mem_of_mem_head? slash)
  rcases join_cases path name with ⟨empty, joined⟩ | ⟨front, isText | ⟨isText, text⟩, joined⟩
  · simpa [isAbsolute, joined, empty] using notSlash
  · simp [isAbsolute, joined, isText, List.head?_append]
  · simp [isAbsolute, joined, isText, List.head?_append_of_ne_nil _ text]

end Join

end FlagEnum.Path
