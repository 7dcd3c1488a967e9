import FlagEnum.CommandLine
import Mathlib.Tactic

/-!
# Drafts of a request

What one argument does to the draft of a command. Values are checked late, so
what a draft amounts to is said by settling it: an argument that is a value adds
to that, and a switch begins after it.
-/

namespace FlagEnum.CommandLine

/-- The switches of a request. -/
def Request.options : Request → Options
  | next _ options | list _ options | member _ options | assign _ options => options

/-- The file of a request, if its command takes one. -/
def Request.file? : Request → Option String
  | next _ _ | list _ _ => none
  | member file _ | assign file _ => some file

/-- The command of a request. -/
def Request.verb : Request → Verb
  | next _ _ => .next
  | list _ _ => .list
  | member _ _ => .member
  | assign _ _ => .assign

namespace Draft

variable {draft next settled : Draft} {switch : Switch} {text : String}

/-! ## What settling leaves alone -/

/-- Two drafts are of the same command and at the same place in its arguments. -/
structure Keeps (draft next : Draft) : Prop where
  verb : next.verb = draft.verb
  onlyValues : next.onlyValues = draft.onlyValues
  hasFile : next.hasFile = draft.hasFile

private theorem Keeps.refl (draft : Draft) : Keeps draft draft :=
  ⟨rfl, rfl, rfl⟩

/-- Two changes that keep the place keep it together. -/
theorem Keeps.trans {last : Draft} (first : Keeps draft next) (second : Keeps next last) :
    Keeps draft last :=
  ⟨second.verb.trans first.verb, second.onlyValues.trans first.onlyValues,
    second.hasFile.trans first.hasFile⟩

/-- A switch can be given once. -/
theorem give_eq_ok_iff :
    draft.give switch = .ok next ↔
      draft.given.contains switch = false ∧
        next = { draft with given := switch :: draft.given } := by
  unfold give
  split
  · next repeated => simp only [repeated, Bool.true_eq_false, false_and, reduceCtorEq]
  · next fresh =>
    simp only [Bool.not_eq_true] at fresh
    simp only [fresh, Except.ok.injEq, true_and]
    exact eq_comm

private theorem setValue_keeps (set : draft.setValue switch text = .ok next) :
    Keeps draft next ∧ next.pending = draft.pending := by
  simp only [setValue, bind, Except.bind] at set
  split at set
  · cases set
  · next middle given =>
    obtain ⟨_, rfl⟩ := give_eq_ok_iff.mp given
    split at set
    · split at set
      · cases set
        exact ⟨⟨rfl, rfl, rfl⟩, rfl⟩
      · cases set
    · split at set
      · cases set
        exact ⟨⟨rfl, rfl, rfl⟩, rfl⟩
      · cases set
    · cases set

private theorem takeOperand_keeps (taken : draft.takeOperand text = .ok next) :
    Keeps draft next ∧ next.pending = draft.pending := by
  unfold takeOperand at taken
  split at taken
  · split at taken
    · cases taken
      exact ⟨⟨rfl, rfl, rfl⟩, rfl⟩
    · cases taken
  · split at taken
    · cases taken
    · cases taken
      exact ⟨⟨rfl, rfl, rfl⟩, rfl⟩

private theorem foldlM_takeOperand_keeps {texts : List String}
    (taken : texts.foldlM takeOperand draft = .ok next) :
    Keeps draft next ∧ next.pending = draft.pending := by
  induction texts generalizing draft with
  | nil =>
    cases taken
    exact ⟨.refl _, rfl⟩
  | cons text others inductionHypothesis =>
    rw [List.foldlM_cons] at taken
    cases one : draft.takeOperand text with
    | error stop =>
      rw [one] at taken
      cases taken
    | ok middle =>
      rw [one] at taken
      obtain ⟨keeps, pending⟩ := inductionHypothesis taken
      obtain ⟨keepsOne, pendingOne⟩ := takeOperand_keeps one
      exact ⟨keepsOne.trans keeps, pending.trans pendingOne⟩

/-- Settling checks what is pending and does nothing else. -/
theorem settle_keeps (isSettled : draft.settle = .ok settled) :
    Keeps draft settled ∧ settled.pending = .nothing := by
  unfold settle at isSettled
  split at isSettled
  · next none =>
    cases isSettled
    exact ⟨.refl _, none⟩
  · cases isSettled
  · obtain ⟨keeps, pending⟩ := setValue_keeps isSettled
    exact ⟨⟨keeps.verb, keeps.onlyValues, keeps.hasFile⟩, pending⟩
  · obtain ⟨keeps, pending⟩ := foldlM_takeOperand_keeps isSettled
    exact ⟨⟨keeps.verb, keeps.onlyValues, keeps.hasFile⟩, pending⟩

/-! ## Switches -/

/-- A switch and its value are pending together once what stood before them is
settled. -/
theorem foldlM_add_valued {name : String} (isOpen : draft.onlyValues = false)
    (isSettled : draft.settle = .ok settled) (named : shapeOf name = .long switch.long none)
    (known : draft.level.ofLong? switch.long = some switch) (valued : switch.takesValue = true)
    (plain : shapeOf text = .plain) :
    [name, text].foldlM add draft =
      .ok { settled with pending := .ofSwitch switch (some text) } := by
  obtain ⟨keeps, _⟩ := settle_keeps isSettled
  have stillOpen : settled.onlyValues = false := keeps.onlyValues.trans isOpen
  have begun : draft.add name = .ok { settled with pending := .ofSwitch switch none } := by
    simp only [add, isOpen, Bool.false_eq_true, if_false, named, addLong, known, valued, if_true,
      await, isSettled]
    rfl
  have taken : add { settled with pending := .ofSwitch switch none } text =
      .ok { settled with pending := .ofSwitch switch (some text) } := by
    simp only [add, stillOpen, Bool.false_eq_true, if_false, plain, addValue]
  simp only [List.foldlM_cons, List.foldlM_nil, begun, bind, Except.bind, taken]
  rfl

/-! ## What is pending -/

/-- A draft with nothing pending is settled already. -/
theorem settle_of_settled (settled : draft.pending = .nothing) : draft.settle = .ok draft := by
  unfold settle
  rw [settled]

/-- A draft whose last argument does not wait for a value. -/
def Filled (draft : Draft) : Prop :=
  ∀ switch, draft.pending ≠ .ofSwitch switch none

/-- A draft with nothing pending waits for no value. -/
theorem filled_of_settled (settled : draft.pending = .nothing) : draft.Filled := by
  intro switch waits
  rw [settled] at waits
  cases waits

/-- Where no switch waits for it, a plain argument is an operand. -/
theorem addValue_of_filled (filled : draft.Filled) (text : String) :
    draft.addValue text = draft.addOperand text := by
  unfold addValue
  split
  · next switch waits => exact absurd waits (filled switch)
  · rfl

/-- A value that is collected is taken after all that is pending. -/
theorem addOperand_settle (takes : draft.verb.takesValues = true)
    (ready : (∃ settled, draft.settle = .ok settled) ∨ ∃ texts, draft.pending = .operands texts)
    (text : String) :
    ∃ next texts, draft.addOperand text = .ok next ∧ Keeps draft next ∧
      next.pending = .operands texts ∧ next.settle = draft.settle >>= (takeOperand · text) := by
  by_cases collects : ∃ texts, draft.pending = .operands texts
  · obtain ⟨texts, pending⟩ := collects
    refine ⟨{ draft with pending := .operands (texts ++ [text]) }, texts ++ [text], ?_,
      ⟨rfl, rfl, rfl⟩, rfl, ?_⟩
    · simp only [addOperand, takes, if_true, pending]
    · simp only [settle, pending, List.foldlM_append, List.foldlM_cons, List.foldlM_nil, bind_pure]
  · obtain ⟨settled, isSettled⟩ := ready.resolve_right collects
    obtain ⟨keeps, isEmpty⟩ := settle_keeps isSettled
    refine ⟨{ settled with pending := .operands [text] }, [text], ?_,
      ⟨keeps.verb, keeps.onlyValues, keeps.hasFile⟩, rfl, ?_⟩
    · unfold addOperand
      rw [if_pos takes, isSettled]
      split
      · next texts pending => exact absurd ⟨texts, pending⟩ collects
      · rfl
    · have same : { settled with pending := .nothing } = settled := by rw [← isEmpty]
      simp only [settle, List.foldlM_cons, List.foldlM_nil, bind_pure, same]
      rw [← settle, isSettled]
      rfl

/-- A letter without a value settles what was pending and is set; the others
follow. -/
theorem addLetters_bare {letter : Char} {rest : List Char}
    (known : draft.level.ofLetter? letter = some switch) (bare : switch.takesValue = false) :
    draft.addLetters (letter :: rest) =
      draft.settle >>= fun settled => settled.set switch false >>= (·.addLetters rest) := by
  simp only [addLetters, known, bare, Bool.false_eq_true, if_false, bind, Except.bind]
  cases draft.settle with
  | error stop => rfl
  | ok settled =>
    dsimp only
    cases settled.set switch false <;> rfl

/-! ## The divider -/

/-- A draft after the divider. -/
def close (draft : Draft) : Draft :=
  { draft with onlyValues := true }

private theorem takeOperand_close (draft : Draft) (text : String) :
    draft.close.takeOperand text = (draft.takeOperand text).map close := by
  unfold takeOperand
  change (if draft.verb.takesValues then _ else _) = _
  split
  · split <;> rfl
  · split <;> rfl

private theorem foldlM_takeOperand_close (draft : Draft) (texts : List String) :
    texts.foldlM takeOperand draft.close = (texts.foldlM takeOperand draft).map close := by
  induction texts generalizing draft with
  | nil => rfl
  | cons text others inductionHypothesis =>
    rw [List.foldlM_cons, List.foldlM_cons, takeOperand_close]
    cases draft.takeOperand text with
    | error stop => rfl
    | ok next => exact inductionHypothesis next

private theorem give_close (draft : Draft) (switch : Switch) :
    draft.close.give switch = (draft.give switch).map close := by
  unfold give
  change (if draft.given.contains switch then _ else _) = _
  split <;> rfl

private theorem setValue_close (draft : Draft) (switch : Switch) (text : String) :
    draft.close.setValue switch text = (draft.setValue switch text).map close := by
  unfold setValue
  rw [give_close]
  cases draft.give switch with
  | error stop => rfl
  | ok given =>
    cases switch with
    | domain =>
      simp only [Except.map, bind, Except.bind]
      split <;> rfl
    | policy =>
      simp only [Except.map, bind, Except.bind]
      split <;> rfl
    | json | hex | verbose | help | version => rfl

/-- The divider does not change what is pending. -/
theorem settle_close (draft : Draft) : draft.close.settle = draft.settle.map close := by
  have samePending : draft.close.pending = draft.pending := rfl
  unfold settle
  rw [samePending]
  split
  · rfl
  · rfl
  · exact setValue_close { draft with pending := .nothing } _ _
  · exact foldlM_takeOperand_close { draft with pending := .nothing } _

/-! ## Where a draft stands -/

/-- The command of a draft, and whether the divider has come. -/
def site (draft : Draft) : Verb × Bool :=
  (draft.verb, draft.onlyValues)

private theorem Keeps.site {next : Draft} (keeps : Keeps draft next) : next.site = draft.site := by
  rw [Draft.site, Draft.site, keeps.verb, keeps.onlyValues]

private theorem set_site {next : Draft} {full : Bool} (isSet : draft.set switch full = .ok next) :
    next.site = draft.site := by
  have given : ∀ {given : Draft}, draft.give switch = .ok given → given.site = draft.site := by
    intro given isGiven
    rw [(give_eq_ok_iff.mp isGiven).2]
    rfl
  cases switch with
  | help | version => cases isSet
  | domain | policy | verbose => exact given isSet
  | json | hex =>
    simp only [set, bind, Except.bind] at isSet
    split at isSet
    · cases isSet
    · next middle isGiven =>
      cases isSet
      have same : middle.site = draft.site := given isGiven
      exact same

/-- What is done once the pending values are checked starts from the same site. -/
theorem settled_site {α : Type} {next : Draft → Except Stop α} {result : α}
    (done : (draft.settle >>= next) = .ok result) :
    ∃ settled, settled.site = draft.site ∧ next settled = .ok result := by
  cases isSettled : draft.settle with
  | error stop =>
    rw [isSettled] at done
    cases done
  | ok settled =>
    rw [isSettled] at done
    exact ⟨settled, (settle_keeps isSettled).1.site, done⟩

private theorem addOperand_site {next : Draft} (added : draft.addOperand text = .ok next) :
    next.site = draft.site := by
  unfold addOperand at added
  split at added
  · split at added
    · cases added
      rfl
    · obtain ⟨settled, same, isNext⟩ := settled_site added
      cases isNext
      exact same
  · split at added
    · cases added
    · obtain ⟨settled, same, isNext⟩ := settled_site added
      cases isNext
      exact same

private theorem await_site {next : Draft} (awaits : draft.await switch = .ok next) :
    next.site = draft.site := by
  obtain ⟨settled, same, isNext⟩ := settled_site awaits
  cases isNext
  exact same

private theorem addLong_site {next : Draft} {name : String} {value : Option String}
    (added : draft.addLong name value = .ok next) : next.site = draft.site := by
  unfold addLong at added
  split at added
  · cases added
  · split at added
    · obtain ⟨settled, same, isSet⟩ := settled_site added
      exact (setValue_keeps isSet).1.site.trans same
    · cases added
  · split at added
    · exact await_site added
    · obtain ⟨settled, same, isSet⟩ := settled_site added
      exact (set_site isSet).trans same

private theorem addLetters_site {next : Draft} {letters : List Char}
    (added : draft.addLetters letters = .ok next) : next.site = draft.site := by
  induction letters generalizing draft with
  | nil =>
    cases added
    rfl
  | cons letter rest inductionHypothesis =>
    unfold addLetters at added
    split at added
    · cases added
    · split at added
      · split at added
        · exact await_site added
        · obtain ⟨settled, same, isSet⟩ := settled_site added
          exact (setValue_keeps isSet).1.site.trans same
      · split at added
        · cases added
        · next settled isSettled =>
          split at added
          · cases added
          · next middle isSet =>
            calc next.site = middle.site := inductionHypothesis added
              _ = settled.site := set_site isSet
              _ = draft.site := (settle_keeps isSettled).1.site

/-- Only the divider changes where a draft stands. -/
theorem add_site {next : Draft} {argument : String} (added : draft.add argument = .ok next)
    (stays : draft.onlyValues = true ∨ shapeOf argument ≠ .divider) : next.site = draft.site := by
  have ofValue : draft.addValue argument = .ok next → next.site = draft.site := by
    intro added
    unfold addValue at added
    split at added
    · cases added
      rfl
    · exact addOperand_site added
  unfold add at added
  split at added
  · exact addOperand_site added
  · next isOpen =>
    split at added
    · next isDivider => exact absurd isDivider (stays.resolve_left isOpen)
    · exact addLong_site added
    · split at added
      · exact ofValue added
      · exact addLetters_site added
    · exact ofValue added

/-- An argument does not change the command. -/
theorem add_verb {argument : String} (added : draft.add argument = .ok next) :
    next.verb = draft.verb := by
  by_cases divides : draft.onlyValues = false ∧ shapeOf argument = .divider
  · simp only [add, divides.1, Bool.false_eq_true, if_false, divides.2] at added
    cases added
    rfl
  · have stays : draft.onlyValues = true ∨ shapeOf argument ≠ .divider := by
      simpa [← Bool.not_eq_true, imp_iff_not_or] using divides
    exact congrArg Prod.fst (add_site added stays)

/-- No argument changes the command. -/
theorem foldlM_add_verb {arguments : List String} (added : arguments.foldlM add draft = .ok next) :
    next.verb = draft.verb := by
  induction arguments generalizing draft with
  | nil =>
    cases added
    rfl
  | cons argument rest inductionHypothesis =>
    rw [List.foldlM_cons] at added
    cases first : draft.add argument with
    | error stop =>
      rw [first] at added
      cases added
    | ok middle =>
      rw [first] at added
      exact (inductionHypothesis added).trans (add_verb first)

/-- A request is for the command of its draft. -/
theorem request_verb {request : Request} (isRequest : draft.request = .ok request) :
    request.verb = draft.verb := by
  unfold Draft.request at isRequest
  cases isSettled : draft.settle with
  | error stop =>
    rw [isSettled] at isRequest
    cases isRequest
  | ok settled =>
    rw [← (settle_keeps isSettled).1.verb]
    simp only [isSettled, bind, Except.bind] at isRequest
    split at isRequest <;> cases isRequest <;> simp_all [Request.verb]

/-! ## A draft that cannot be settled -/

private theorem setValue_error {stop : Stop} (fails : draft.setValue switch text = .error stop) :
    ∃ error, stop = .wrong error := by
  simp only [setValue, give, bind, Except.bind] at fails
  split at fails
  · next given =>
    split at given
    · cases given
      cases fails
      exact ⟨_, rfl⟩
    · cases given
  · split at fails
    · split at fails <;> cases fails
      exact ⟨_, rfl⟩
    · split at fails <;> cases fails
      exact ⟨_, rfl⟩
    · cases fails
      exact ⟨_, rfl⟩

private theorem foldlM_takeOperand_error {stop : Stop} {texts : List String}
    (fails : texts.foldlM takeOperand draft = .error stop) : ∃ error, stop = .wrong error := by
  induction texts generalizing draft with
  | nil => cases fails
  | cons text others inductionHypothesis =>
    rw [List.foldlM_cons] at fails
    cases taken : draft.takeOperand text with
    | ok next =>
      rw [taken] at fails
      exact inductionHypothesis fails
    | error other =>
      rw [taken] at fails
      cases fails
      unfold takeOperand at taken
      split at taken
      · split at taken <;> cases taken
        exact ⟨_, rfl⟩
      · split at taken <;> cases taken
        exact ⟨_, rfl⟩

/-- What is pending is wrong if it is refused; it never asks for help. -/
theorem settle_error {stop : Stop} (fails : draft.settle = .error stop) :
    ∃ error, stop = .wrong error := by
  unfold settle at fails
  split at fails
  · cases fails
  · cases fails
    exact ⟨_, rfl⟩
  · exact setValue_error fails
  · exact foldlM_takeOperand_error fails

/-- A draft with a pending value that will be refused. -/
def Doomed (draft : Draft) : Prop :=
  draft.Filled ∧ ∃ error, draft.settle = .error (.wrong error)

private theorem addOperand_doomed (doomed : draft.Doomed) (text : String) :
    (∃ error, draft.addOperand text = .error (.wrong error)) ∨
      ∃ next, draft.addOperand text = .ok next ∧ next.Doomed := by
  obtain ⟨_, error, fails⟩ := doomed
  by_cases takes : draft.verb.takesValues
  · by_cases collects : ∃ texts, draft.pending = .operands texts
    · obtain ⟨next, texts, added, _, pending, settles⟩ :=
        addOperand_settle takes (.inr collects) text
      refine .inr ⟨next, added, ?_, error, by rw [settles, fails]; rfl⟩
      intro switch waits
      rw [pending] at waits
      cases waits
    -- What waits for a check is a switch with its value, and this argument makes the check due.
    · refine .inl ⟨error, ?_⟩
      unfold addOperand
      rw [if_pos takes, fails]
      split
      · next texts pending => exact absurd ⟨texts, pending⟩ collects
      · rfl
  · unfold addOperand
    rw [if_neg takes, fails]
    split
    · exact .inl ⟨_, rfl⟩
    · exact .inl ⟨error, rfl⟩

private theorem addLong_doomed (doomed : draft.Doomed) (name : String) (value : Option String) :
    ∃ error, draft.addLong name value = .error (.wrong error) := by
  obtain ⟨_, error, fails⟩ := doomed
  unfold addLong await
  rw [fails]
  split
  · exact ⟨_, rfl⟩
  · split
    · exact ⟨error, rfl⟩
    · exact ⟨_, rfl⟩
  · split <;> exact ⟨error, rfl⟩

private theorem addLetters_doomed (doomed : draft.Doomed) (letter : Char) (rest : List Char) :
    ∃ error, draft.addLetters (letter :: rest) = .error (.wrong error) := by
  obtain ⟨_, error, fails⟩ := doomed
  unfold addLetters await
  rw [fails]
  split
  · exact ⟨_, rfl⟩
  · split
    · split <;> exact ⟨error, rfl⟩
    · exact ⟨error, rfl⟩

/-- After a value that will be refused, every argument ends in an error or leaves
it so. -/
theorem add_doomed (doomed : draft.Doomed) (argument : String) :
    (∃ error, draft.add argument = .error (.wrong error)) ∨
      ∃ next, draft.add argument = .ok next ∧ next.Doomed := by
  unfold add
  rw [addValue_of_filled doomed.1]
  split
  · exact addOperand_doomed doomed argument
  · cases shape : shapeOf argument with
    | divider =>
      obtain ⟨filled, error, fails⟩ := doomed
      refine .inr ⟨draft.close, rfl, filled, error, ?_⟩
      rw [settle_close, fails]
      rfl
    | plain => exact addOperand_doomed doomed argument
    | long name value => exact .inl (addLong_doomed doomed name value)
    | letters text =>
      dsimp only
      split
      · exact addOperand_doomed doomed argument
      · cases text with
        | nil => exact .inr ⟨draft, rfl, doomed⟩
        | cons letter rest => exact .inl (addLetters_doomed doomed letter rest)

/-- The command line is wrong, whatever follows. -/
theorem foldlM_add_doomed (doomed : draft.Doomed) (arguments : List String) :
    ∃ error, (arguments.foldlM add draft >>= request) = .error (.wrong error) := by
  induction arguments generalizing draft with
  | nil =>
    obtain ⟨_, error, fails⟩ := doomed
    refine ⟨error, ?_⟩
    simp only [List.foldlM_nil, pure_bind, request, fails]
    rfl
  | cons argument rest inductionHypothesis =>
    rw [List.foldlM_cons, bind_assoc]
    rcases add_doomed doomed argument with ⟨error, wrong⟩ | ⟨next, added, stillDoomed⟩
    · exact ⟨error, by rw [wrong]; rfl⟩
    · rw [added]
      exact inductionHypothesis stillDoomed

end Draft

/-- What is read after a command is a request for it. -/
theorem verb_of_readCommand {verb : Verb} {arguments : List String} {request : Request}
    (isRead : readCommand verb arguments = .ok request) : request.verb = verb := by
  unfold readCommand at isRead
  cases added : arguments.foldlM Draft.add { verb } with
  | error stop =>
    rw [added] at isRead
    cases isRead
  | ok draft =>
    rw [added] at isRead
    exact (Draft.request_verb isRead).trans (Draft.foldlM_add_verb added)

end FlagEnum.CommandLine
