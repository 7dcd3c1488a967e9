import FlagEnum.Proofs.Arguments

/-!
# Switches in place of settings

A command line may give by switches what settings could say: the policy, the
domain and hexadecimal numbers. Where these switches are put makes no difference
to the rest of the request, as long as they come after the command and before a
divider. The two readings, with and without them, are followed side by side.
-/

namespace FlagEnum.CommandLine

/-- The switches by which settings can be overridden. -/
def Switch.isOverride : Switch → Bool
  | domain | policy | hex => true
  | json | verbose | help | version => false

/-- Whether an argument names a switch by which settings can be overridden,
also as one of several letters. -/
def overrides (argument : String) : Bool :=
  let overriding := [Switch.domain, .policy, .hex]
  match shapeOf argument with
  | .long name _ => overriding.any fun switch => switch.long == name
  | .letters text =>
    text.any fun letter => overriding.any fun switch => switch.letter? == some letter
  | .divider | .plain => false

/-- Whether no argument of a command overrides settings. After a divider there
are no switches. -/
def isFree : List String → Bool
  | [] => true
  | argument :: rest => shapeOf argument == .divider || (!overrides argument && isFree rest)

/-- What switches say in place of settings. -/
structure Supply where
  policy : Option Policy := none
  domain : Option Domain := none
  hex : Bool := false

namespace Supply

/-- Options that say what the supply says. -/
def apply (supply : Supply) (options : Options) : Options :=
  { options with policy := supply.policy, domain := supply.domain, hex := supply.hex }

/-- Whether a supply is given by a switch. -/
def gives (supply : Supply) : Switch → Bool
  | .policy => supply.policy.isSome
  | .domain => supply.domain.isSome
  | .hex => supply.hex
  | _ => false

end Supply

/-- A request that says what the supply says. -/
def Request.supplied (supply : Supply) : Request → Request
  | next values options => next values (supply.apply options)
  | list values options => list values (supply.apply options)
  | member file options => member file (supply.apply options)
  | assign file options => assign file (supply.apply options)

/-! ## Two readings side by side -/

/-- Two readings end alike: both with something related, both with the same
stop, or both because the command line is wrong. -/
inductive Parallel {α β : Type} (related : α → β → Prop) :
    Except Stop α → Except Stop β → Prop where
  | went {left : α} {right : β} (goes : related left right) :
      Parallel related (.ok left) (.ok right)
  | stopped (stop : Stop) : Parallel related (.error stop) (.error stop)
  | wrong (left right : UsageError) :
      Parallel related (.error (.wrong left)) (.error (.wrong right))

/-- Readings that go on in parallel end alike. -/
theorem Parallel.bind {α β γ δ : Type} {related : α → β → Prop} {next : γ → δ → Prop}
    {left : Except Stop α} {right : Except Stop β} {leftRest : α → Except Stop γ}
    {rightRest : β → Except Stop δ} (first : Parallel related left right)
    (rest : ∀ a b, related a b → Parallel next (leftRest a) (rightRest b)) :
    Parallel next (left >>= leftRest) (right >>= rightRest) := by
  cases first with
  | went goes => exact rest _ _ goes
  | stopped stop => exact .stopped stop
  | wrong left right => exact .wrong left right

private theorem Parallel.mono {α β : Type} {related weaker : α → β → Prop} {left : Except Stop α}
    {right : Except Stop β} (both : Parallel related left right)
    (weaken : ∀ a b, related a b → weaker a b) : Parallel weaker left right := by
  cases both with
  | went goes => exact .went (weaken _ _ goes)
  | stopped stop => exact .stopped stop
  | wrong left right => exact .wrong left right

/-- Where parallel readings go on, the related results are those that were read.
-/
theorem Parallel.named {α β : Type} {related : α → β → Prop} {left : Except Stop α}
    {right : Except Stop β} (both : Parallel related left right) :
    Parallel (fun a b => related a b ∧ left = .ok a) left right := by
  cases both with
  | went goes => exact .went ⟨goes, rfl⟩
  | stopped stop => exact .stopped stop
  | wrong left right => exact .wrong left right

/-- A reading in parallel to one that goes on goes on. -/
theorem Parallel.of_ok {α β : Type} {related : α → β → Prop} {left : α} {right : Except Stop β}
    (both : Parallel related (.ok left) right) : ∃ went, right = .ok went ∧ related left went := by
  cases both with
  | went goes => exact ⟨_, rfl, goes⟩

private theorem Parallel.of_wrong {α β : Type} {related : α → β → Prop} {error : UsageError}
    {right : Except Stop β}
    (both : Parallel related (.error (.wrong error) : Except Stop α) right) :
    ∃ error, right = .error (.wrong error) := by
  cases both with
  | stopped stop => exact ⟨_, rfl⟩
  | wrong left right => exact ⟨_, rfl⟩

namespace Draft

variable {supply : Supply} {draft other : Draft} {switch : Switch} {text : String}

/-- A settled draft that overrides nothing, beside one that has the supply as
well. -/
structure Supplies (supply : Supply) (draft other : Draft) : Prop where
  same : other = { draft with given := other.given, options := supply.apply draft.options }
  plain : draft.options = Supply.apply {} draft.options
  given : ∀ switch,
    other.given.contains switch = (supply.gives switch || draft.given.contains switch)
  fresh : ∀ switch, switch.isOverride = true → draft.given.contains switch = false
  settled : draft.pending = .nothing

private theorem Supplies.keeps (supplies : Supplies supply draft other) : Keeps draft other := by
  rw [supplies.same]
  exact ⟨rfl, rfl, rfl⟩

private theorem gives_of_not_isOverride (supply : Supply) (free : switch.isOverride = false) :
    supply.gives switch = false := by
  cases switch <;> first | rfl | cases free

private theorem takesValue_of_not_isOverride (free : switch.isOverride = false) :
    switch.takesValue = false := by
  cases switch <;> first | rfl | cases free

/-- A switch that overrides nothing is given to both or refused by both. -/
theorem give_parallel (supplies : Supplies supply draft other) (free : switch.isOverride = false) :
    Parallel (Supplies supply) (draft.give switch) (other.give switch) := by
  have sameGiven := supplies.given switch
  rw [gives_of_not_isOverride supply free, Bool.false_or] at sameGiven
  unfold give
  rw [sameGiven]
  split
  · exact .stopped _
  · refine .went ⟨?_, supplies.plain, ?_, ?_, supplies.settled⟩
    · rw [supplies.same]
    · intro one
      simp only [List.contains_cons, supplies.given one, Bool.or_left_comm]
    · intro one overriding
      have differs : (one == switch) = false := by
        rw [beq_eq_false_iff_ne]
        rintro rfl
        rw [free] at overriding
        cases overriding
      rw [List.contains_cons, differs, supplies.fresh one overriding]
      rfl

private theorem set_parallel (supplies : Supplies supply draft other)
    (free : switch.isOverride = false) (full : Bool) :
    Parallel (Supplies supply) (draft.set switch full) (other.set switch full) := by
  cases switch with
  | domain | policy | hex => cases free
  | help =>
    unfold set
    rw [supplies.keeps.verb]
    exact .stopped _
  | version => exact .stopped _
  | verbose => exact give_parallel supplies rfl
  | json =>
    refine (give_parallel supplies rfl).bind fun left right given => .went ?_
    refine ⟨?_, ?_, given.given, given.fresh, given.settled⟩
    · rw [given.same]
      rfl
    · rw [given.plain]
      rfl

private theorem takeOperand_parallel (supplies : Supplies supply draft other) (text : String) :
    Parallel (Supplies supply) (draft.takeOperand text) (other.takeOperand text) := by
  unfold takeOperand
  rw [supplies.keeps.verb]
  split
  · split
    · refine .went ⟨?_, supplies.plain, supplies.given, supplies.fresh, supplies.settled⟩
      rw [supplies.same]
    · exact .stopped _
  · split
    · exact .stopped _
    · refine .went ⟨?_, supplies.plain, supplies.given, supplies.fresh, supplies.settled⟩
      rw [supplies.same]

/-- Operands are taken in parallel. -/
theorem foldlM_takeOperand_parallel (supplies : Supplies supply draft other) (texts : List String) :
    Parallel (Supplies supply) (texts.foldlM takeOperand draft)
      (texts.foldlM takeOperand other) := by
  induction texts generalizing draft other with
  | nil => exact .went supplies
  | cons text others inductionHypothesis =>
    rw [List.foldlM_cons, List.foldlM_cons]
    exact (takeOperand_parallel supplies text).bind fun _ _ next => inductionHypothesis next

/-! ## One argument read twice -/

/-- Two drafts at the same argument, which settle to drafts that differ by the
supply. Where the second cannot collect more operands, the first is as good as
settled. -/
structure InStep (supply : Supply) (draft other : Draft) : Prop where
  keeps : Keeps draft other
  settles : Parallel (Supplies supply) draft.settle other.settle
  filled : draft.Filled
  otherFilled : other.Filled
  ready : (∃ settled, draft.settle = .ok settled) ∨
    (∃ texts, draft.pending = .operands texts) ∧ ∃ texts, other.pending = .operands texts

private theorem InStep.sameLevel (inStep : InStep supply draft other) : other.level = draft.level :=
  congrArg Level.command inStep.keeps.verb

private theorem Supplies.inStep (supplies : Supplies supply draft other) :
    InStep supply draft other := by
  have otherSettled : other.pending = .nothing := by
    rw [supplies.same]
    exact supplies.settled
  refine ⟨supplies.keeps, ?_, filled_of_settled supplies.settled, filled_of_settled otherSettled,
    .inl ⟨draft, settle_of_settled supplies.settled⟩⟩
  rw [settle_of_settled supplies.settled, settle_of_settled otherSettled]
  exact .went supplies

/-- An operand is added in parallel. -/
theorem addOperand_parallel (inStep : InStep supply draft other) (text : String) :
    Parallel (InStep supply) (draft.addOperand text) (other.addOperand text) := by
  by_cases takes : draft.verb.takesValues
  · have otherTakes : other.verb.takesValues = true := inStep.keeps.verb ▸ takes
    have otherReady :
        (∃ settled, other.settle = .ok settled) ∨ ∃ texts, other.pending = .operands texts := by
      rcases inStep.ready with ⟨settled, isSettled⟩ | ⟨_, collects⟩
      · obtain ⟨settled, isSettled, _⟩ := (isSettled ▸ inStep.settles).of_ok
        exact .inl ⟨settled, isSettled⟩
      · exact .inr collects
    obtain ⟨next, texts, added, keeps, pending, settles⟩ :=
      addOperand_settle takes (inStep.ready.imp_right And.left) text
    obtain ⟨otherNext, otherTexts, otherAdded, otherKeeps, otherPending, otherSettles⟩ :=
      addOperand_settle otherTakes otherReady text
    rw [added, otherAdded]
    refine .went ⟨?_, ?_, ?_, ?_, .inr ⟨⟨texts, pending⟩, otherTexts, otherPending⟩⟩
    · exact ⟨by rw [otherKeeps.verb, inStep.keeps.verb, keeps.verb],
        by rw [otherKeeps.onlyValues, inStep.keeps.onlyValues, keeps.onlyValues],
        by rw [otherKeeps.hasFile, inStep.keeps.hasFile, keeps.hasFile]⟩
    · rw [settles, otherSettles]
      exact inStep.settles.bind fun _ _ supplies => takeOperand_parallel supplies text
    · intro switch waits
      rw [pending] at waits
      cases waits
    · intro switch waits
      rw [otherPending] at waits
      cases waits
  · have otherTakes : ¬ other.verb.takesValues = true := inStep.keeps.verb ▸ takes
    unfold addOperand
    rw [if_neg takes, if_neg otherTakes, inStep.keeps.hasFile]
    split
    · exact .stopped _
    · refine inStep.settles.bind fun left right supplies => .went ?_
      have filed : Supplies supply { left with pending := .nothing, hasFile := true }
          { right with pending := .nothing, hasFile := true } := by
        refine ⟨?_, supplies.plain, supplies.given, supplies.fresh, rfl⟩
        rw [supplies.same]
      refine ⟨⟨supplies.keeps.verb, supplies.keeps.onlyValues, rfl⟩,
        foldlM_takeOperand_parallel filed [text], ?_, ?_, .inr ⟨⟨_, rfl⟩, _, rfl⟩⟩ <;>
      · intro switch waits
        cases waits

/-- A long switch that overrides no settings is added in parallel. -/
theorem addLong_parallel (inStep : InStep supply draft other) {name : String}
    (value : Option String)
    (free : ∀ switch : Switch, switch.isOverride = true → switch.long ≠ name) :
    Parallel (InStep supply) (draft.addLong name value) (other.addLong name value) := by
  unfold addLong
  rw [inStep.sameLevel]
  cases known : draft.level.ofLong? name with
  | none => exact .stopped _
  | some switch =>
    have named : switch.long = name := by simpa using List.find?_some known
    have isFree : switch.isOverride = false := by
      by_contra overriding
      exact free switch (by simpa using overriding) named
    have bare := takesValue_of_not_isOverride isFree
    cases value with
    | some text =>
      simp only [bare, Bool.false_eq_true, if_false]
      exact .stopped _
    | none =>
      simp only [bare, Bool.false_eq_true, if_false]
      exact inStep.settles.bind fun _ _ supplies =>
        (set_parallel supplies isFree true).mono fun _ _ next => next.inStep

/-- Letters that override no settings are added in parallel. -/
theorem addLetters_parallel (inStep : InStep supply draft other) {text : List Char}
    (free : ∀ letter ∈ text, ∀ switch : Switch, switch.isOverride = true →
      switch.letter? ≠ some letter) :
    Parallel (InStep supply) (draft.addLetters text) (other.addLetters text) := by
  induction text generalizing draft other with
  | nil => exact .went inStep
  | cons letter rest inductionHypothesis =>
    cases known : draft.level.ofLetter? letter with
    | none =>
      simp only [addLetters, inStep.sameLevel, known]
      exact .stopped _
    | some switch =>
      have named : switch.letter? = some letter := by simpa using List.find?_some known
      have isFree : switch.isOverride = false := by
        by_contra overriding
        exact free letter List.mem_cons_self switch (by simpa using overriding) named
      have bare := takesValue_of_not_isOverride isFree
      have restFree := fun letter inside => free letter (List.mem_cons_of_mem _ inside)
      rw [addLetters_bare known bare, addLetters_bare (inStep.sameLevel ▸ known) bare]
      exact inStep.settles.bind fun _ _ supplies =>
        (set_parallel supplies isFree false).bind fun _ _ next =>
          inductionHypothesis next.inStep restFree

private theorem close_inStep (inStep : InStep supply draft other) :
    InStep supply draft.close other.close := by
  refine ⟨⟨inStep.keeps.verb, rfl, inStep.keeps.hasFile⟩, ?_, inStep.filled, inStep.otherFilled, ?_⟩
  · rw [settle_close, settle_close]
    refine inStep.settles.bind fun left right supplies => .went ?_
    refine ⟨?_, supplies.plain, supplies.given, supplies.fresh, supplies.settled⟩
    rw [supplies.same]
    rfl
  · refine inStep.ready.imp_left ?_
    rintro ⟨settled, isSettled⟩
    exact ⟨settled.close, by rw [settle_close, isSettled]; rfl⟩

/-- One argument that overrides nothing keeps two drafts in step. -/
theorem add_parallel (inStep : InStep supply draft other) {argument : String}
    (free : draft.onlyValues = true ∨ overrides argument = false) :
    Parallel (InStep supply) (draft.add argument) (other.add argument) := by
  have listed : ∀ switch : Switch, switch.isOverride = true →
      switch ∈ [Switch.domain, .policy, .hex] := by
    intro switch overriding
    cases switch <;> first | decide | cases overriding
  unfold add
  rw [inStep.keeps.onlyValues, addValue_of_filled inStep.filled,
    addValue_of_filled inStep.otherFilled]
  split
  · exact addOperand_parallel inStep argument
  · next isOpen =>
    replace free := free.resolve_left isOpen
    unfold overrides at free
    cases shape : shapeOf argument with
    | divider => exact .went (close_inStep inStep)
    | plain => exact addOperand_parallel inStep argument
    | long name value =>
      rw [shape] at free
      refine addLong_parallel inStep value fun switch overriding named => ?_
      exact List.any_eq_false.mp free switch (listed switch overriding) (by simp [named])
    | letters text =>
      rw [shape] at free
      dsimp only
      rw [inStep.keeps.verb]
      split
      · exact addOperand_parallel inStep argument
      · refine addLetters_parallel inStep fun letter inside switch overriding named => ?_
        have unnamed := List.any_eq_false.mp free letter inside
        rw [Bool.not_eq_true] at unnamed
        exact List.any_eq_false.mp unnamed switch (listed switch overriding) (by simp [named])

/-! ## Switches put in -/

/-- Switches that say more than a supply says so far, put in anywhere between
the arguments of a command. -/
inductive Inserts (verb : Verb) : Supply → Supply → List String → List String → Prop where
  | done (supply : Supply) (arguments : List String) :
      Inserts verb supply supply arguments arguments
  | keep {supply final : Supply} {plain flagged : List String} (argument : String)
      (isNoDivider : shapeOf argument ≠ .divider) (rest : Inserts verb supply final plain flagged) :
      Inserts verb supply final (argument :: plain) (argument :: flagged)
  | policy {supply final : Supply} {plain flagged : List String} {policy : Policy} {text : String}
      (known : .policy ∈ (Level.command verb).switches) (first : supply.policy = none)
      (named : Policy.ofArgument? false text = some policy)
      (rest : Inserts verb { supply with policy := some policy } final plain flagged) :
      Inserts verb supply final plain ("--policy" :: text :: flagged)
  | domain {supply final : Supply} {plain flagged : List String} {domain : Domain} {text : String}
      (known : .domain ∈ (Level.command verb).switches) (first : supply.domain = none)
      (named : Domain.ofName? text = some domain)
      (rest : Inserts verb { supply with domain := some domain } final plain flagged) :
      Inserts verb supply final plain ("--domain" :: text :: flagged)
  | hex {supply final : Supply} {plain flagged : List String} (first : supply.hex = false)
      (rest : Inserts verb { supply with hex := true } final plain flagged) :
      Inserts verb supply final plain ("--hex" :: flagged)

private theorem ofLong?_of_mem {verb : Verb} (known : switch ∈ (Level.command verb).switches) :
    (Level.command verb).ofLong? switch.long = some switch := by
  cases verb <;> cases switch <;> first | rfl | exact absurd known (by decide)

private theorem Supplies.not_given (supplies : Supplies supply draft other)
    (overriding : switch.isOverride = true) (first : supply.gives switch = false) :
    other.given.contains switch = false := by
  rw [supplies.given, first, supplies.fresh switch overriding]
  rfl

/-- A draft with one more switch of the supply. -/
theorem Supplies.insert {more : Supply} (supplies : Supplies supply draft other) (switch : Switch)
    (gives : ∀ one, more.gives one = (one == switch || supply.gives one)) :
    Supplies more draft
      { other with given := switch :: other.given, options := more.apply other.options } := by
  refine ⟨?_, supplies.plain, ?_, supplies.fresh, supplies.settled⟩
  · rw [supplies.same]
    rfl
  · intro one
    rw [List.contains_cons, supplies.given, gives, Bool.or_assoc]

private theorem InStep.replace {more : Supply} {settled next result : Draft}
    (inStep : InStep supply draft other) (isSettled : draft.settle = .ok settled)
    (keeps : Keeps other next) (filled : next.Filled) (settles : next.settle = .ok result)
    (supplies : Supplies more settled result) : InStep more draft next := by
  refine ⟨inStep.keeps.trans keeps, ?_, inStep.filled, filled, .inl ⟨settled, isSettled⟩⟩
  rw [isSettled, settles]
  exact .went supplies

section Insertion

variable {more : Supply} {settled : Draft} (inStep : InStep supply draft other)
  (isSettled : draft.settle = .ok settled) (isOpen : draft.onlyValues = false)

include inStep isSettled isOpen

/-- A switch of the supply goes in with its value. -/
theorem foldlM_add_override {name : String} (overriding : switch.isOverride = true)
    (known : switch ∈ (Level.command draft.verb).switches) (valued : switch.takesValue = true)
    (named : shapeOf name = .long switch.long none) (plain : shapeOf text = .plain)
    (first : supply.gives switch = false)
    (gives : ∀ one, more.gives one = (one == switch || supply.gives one))
    (sets : ∀ settled : Draft, settled.given.contains switch = false →
      settled.options = supply.apply settled.options → settled.setValue switch text =
        .ok { settled with
          given := switch :: settled.given, options := more.apply settled.options }) :
    ∃ next, [name, text].foldlM add other = .ok next ∧ InStep more draft next := by
  obtain ⟨otherSettled, isOther, supplies⟩ := (isSettled ▸ inStep.settles).of_ok
  obtain ⟨keeps, isEmpty⟩ := settle_keeps isOther
  have added := @foldlM_add_valued other otherSettled switch text name
    (inStep.keeps.onlyValues.trans isOpen) isOther named
    (inStep.sameLevel ▸ ofLong?_of_mem known) valued plain
  have supplied : otherSettled.options = supply.apply otherSettled.options := by
    rw [supplies.same]
    rfl
  have same : { otherSettled with pending := .nothing } = otherSettled := by rw [← isEmpty]
  refine ⟨_, added, inStep.replace isSettled ⟨keeps.verb, keeps.onlyValues, keeps.hasFile⟩ ?_ ?_
    (supplies.insert switch gives)⟩
  · intro switch waits
    cases waits
  · simp only [settle, same]
    exact sets otherSettled (supplies.not_given overriding first) supplied

private theorem add_hex (first : supply.hex = false) :
    ∃ next, other.add "--hex" = .ok next ∧ InStep { supply with hex := true } draft next := by
  obtain ⟨otherSettled, isOther, supplies⟩ := (isSettled ▸ inStep.settles).of_ok
  obtain ⟨keeps, isEmpty⟩ := settle_keeps isOther
  have known : other.level.ofLong? "hex" = some .hex := by
    unfold level
    cases other.verb <;> rfl
  have fresh : otherSettled.given.contains .hex = false := supplies.not_given rfl first
  have supplied : otherSettled.options = supply.apply otherSettled.options := by
    rw [supplies.same]
    rfl
  have inserted : Supplies { supply with hex := true } settled _ :=
    supplies.insert .hex fun one => by cases one <;> rfl
  have shape : shapeOf "--hex" = .long "hex" none := rfl
  have added : other.add "--hex" = otherSettled.set .hex true := by
    simp only [add, inStep.keeps.onlyValues, isOpen, Bool.false_eq_true, if_false, shape, addLong,
      known, Switch.takesValue, isOther]
    rfl
  have isSet : otherSettled.set .hex true = .ok
      { otherSettled with
        given := .hex :: otherSettled.given
        options := Supply.apply { supply with hex := true } otherSettled.options } := by
    simp only [set, give, fresh, Bool.false_eq_true, if_false, bind, Except.bind]
    rw [supplied]
    rfl
  refine ⟨_, added.trans isSet, inStep.replace isSettled
    ⟨keeps.verb, keeps.onlyValues, keeps.hasFile⟩ (filled_of_settled isEmpty)
    (settle_of_settled isEmpty) inserted⟩

end Insertion

/-! ## Whole command lines -/

/-- Arguments that override no settings are added in parallel. -/
theorem foldlM_add_parallel (inStep : InStep supply draft other) {arguments : List String}
    (free : draft.onlyValues = true ∨ isFree arguments = true) :
    Parallel (InStep supply) (arguments.foldlM add draft) (arguments.foldlM add other) := by
  induction arguments generalizing draft other with
  | nil => exact .went inStep
  | cons argument rest inductionHypothesis =>
    rw [List.foldlM_cons, List.foldlM_cons]
    by_cases divides : draft.onlyValues = false ∧ shapeOf argument = .divider
    · have closes : ∀ {one : Draft}, one.onlyValues = false → one.add argument = .ok one.close := by
        intro one isOpen
        simp only [add, isOpen, Bool.false_eq_true, if_false, divides.2]
        rfl
      rw [closes divides.1, closes (inStep.keeps.onlyValues.trans divides.1)]
      exact inductionHypothesis (close_inStep inStep) (.inl rfl)
    · have stays : draft.onlyValues = true ∨ shapeOf argument ≠ .divider := by
        simpa [← Bool.not_eq_true, imp_iff_not_or] using divides
      have bothFree :
          draft.onlyValues = true ∨ overrides argument = false ∧ isFree rest = true := by
        refine stays.elim .inl fun isNoDivider => free.imp_right fun free => ?_
        simpa [isFree, isNoDivider] using free
      refine (add_parallel inStep (bothFree.imp_right And.left)).named.bind ?_
      rintro next otherNext ⟨stillInStep, added⟩
      have sameSite := add_site added stays
      refine inductionHypothesis stillInStep (bothFree.imp (fun isOnly => ?_) And.right)
      exact (congrArg Prod.snd sameSite).trans isOnly

/-- Two requests that differ by what the supply says. -/
structure SuppliedTo (supply : Supply) (request other : Request) : Prop where
  same : other = request.supplied supply
  plain : request.options = Supply.apply {} request.options

/-- Drafts in step make requests that differ by the supply. -/
theorem request_parallel (inStep : InStep supply draft other) :
    Parallel (SuppliedTo supply) draft.request other.request := by
  refine inStep.settles.bind fun left right supplies => ?_
  rw [supplies.same]
  dsimp only
  cases left.verb with
  | next | list => exact .went ⟨rfl, supplies.plain⟩
  | member | assign =>
    cases left.file with
    | none => exact .stopped _
    | some file => exact .went ⟨rfl, supplies.plain⟩

/-- Switches are put in where the arguments before them can be settled. Where
they cannot be, both command lines are wrong. -/
theorem foldlM_inserted {more final : Supply} {plain inserted flagged : List String}
    (inStep : InStep supply draft other)
    (inserts : ∀ settled, draft.settle = .ok settled →
      ∃ next, inserted.foldlM add other = .ok next ∧ InStep more draft next)
    (rest : ∀ next, InStep more draft next →
      Parallel (SuppliedTo final) (plain.foldlM add draft >>= request)
        (flagged.foldlM add next >>= request)) :
    Parallel (SuppliedTo final) (plain.foldlM add draft >>= request)
      ((inserted ++ flagged).foldlM add other >>= request) := by
  cases settles : draft.settle with
  | ok settled =>
    obtain ⟨next, added, stillInStep⟩ := inserts settled settles
    rw [List.foldlM_append, added]
    exact rest next stillInStep
  | error stop =>
    -- A pending value that is wrong stays pending without the switches, and ends the reading at
    -- the first of them: the errors need not be the same.
    obtain ⟨error, rfl⟩ := settle_error settles
    obtain ⟨otherError, otherSettles⟩ := (settles ▸ inStep.settles).of_wrong
    obtain ⟨left, isLeft⟩ := foldlM_add_doomed ⟨inStep.filled, error, settles⟩ plain
    obtain ⟨right, isRight⟩ :=
      foldlM_add_doomed ⟨inStep.otherFilled, otherError, otherSettles⟩ (inserted ++ flagged)
    rw [isLeft, isRight]
    exact .wrong left right

/-- Arguments with the switches put in are read like those without. -/
theorem foldlM_inserts {verb : Verb} {final : Supply} {plain flagged : List String}
    (inserts : Inserts verb supply final plain flagged) (free : isFree plain = true)
    (inStep : InStep supply draft other) (isSite : draft.site = (verb, false)) :
    Parallel (SuppliedTo final) (plain.foldlM add draft >>= request)
      (flagged.foldlM add other >>= request) := by
  induction inserts generalizing draft other with
  | done supply arguments =>
    exact (foldlM_add_parallel inStep (.inr free)).bind fun _ _ => request_parallel
  | keep argument isNoDivider _ inductionHypothesis =>
    rw [List.foldlM_cons, List.foldlM_cons, bind_assoc, bind_assoc]
    obtain ⟨argumentFree, restFree⟩ : overrides argument = false ∧ isFree _ = true := by
      simpa [isFree, isNoDivider] using free
    refine (add_parallel inStep (.inr argumentFree)).named.bind ?_
    rintro next otherNext ⟨stillInStep, added⟩
    exact inductionHypothesis restFree stillInStep
      ((add_site added (.inr isNoDivider)).trans isSite)
  | @policy supply final plain flagged policy text known first named _ inductionHypothesis =>
    obtain ⟨isVerb, isOpen⟩ := Prod.mk.inj isSite
    refine @foldlM_inserted _ _ _ _ _ _ ["--policy", text] _ inStep
      (fun settled isSettled => foldlM_add_override inStep isSettled isOpen rfl
        (isVerb ▸ known) rfl rfl (shapeOf_policyName named) (by rw [Supply.gives, first]; rfl)
        (fun one => by cases one <;> rfl) fun one fresh supplied => ?_)
      fun next stillInStep => inductionHypothesis free stillInStep isSite
    simp only [setValue, give, fresh, named]
    rw [supplied]
    rfl
  | @domain supply final plain flagged domain text known first named _ inductionHypothesis =>
    obtain ⟨isVerb, isOpen⟩ := Prod.mk.inj isSite
    refine @foldlM_inserted _ _ _ _ _ _ ["--domain", text] _ inStep
      (fun settled isSettled => foldlM_add_override inStep isSettled isOpen rfl
        (isVerb ▸ known) rfl rfl (shapeOf_typeName named) (by rw [Supply.gives, first]; rfl)
        (fun one => by cases one <;> rfl) fun one fresh supplied => ?_)
      fun next stillInStep => inductionHypothesis free stillInStep isSite
    simp only [setValue, give, fresh, named]
    rw [supplied]
    rfl
  | hex first _ inductionHypothesis =>
    refine @foldlM_inserted _ _ _ _ _ _ ["--hex"] _ inStep (fun settled isSettled => ?_)
      fun next stillInStep => inductionHypothesis free stillInStep isSite
    simp only [List.foldlM_cons, List.foldlM_nil, bind_pure]
    exact add_hex inStep isSettled (Prod.mk.inj isSite).2 first

end Draft

/-- Arguments before a command stop the reading, or lead to the command; what
follows it makes no difference to them. -/
theorem readFrom_command {before : List String} (verb : Verb) (given : List Switch)
    (front : ∀ argument ∈ before, Verb.ofName? argument = none ∧ argument ≠ helpName) :
    (∃ stop, ∀ rest, readFrom given (before ++ verb.name :: rest) = .error stop) ∨
      ∀ rest, readFrom given (before ++ verb.name :: rest) = readCommand verb rest := by
  induction before generalizing given with
  | nil =>
    have known : Verb.ofName? verb.name = some verb := by cases verb <;> rfl
    refine .inr fun rest => ?_
    simp only [List.nil_append, readFrom, known]
  | cons argument others inductionHypothesis =>
    obtain ⟨isNoVerb, isNoHelp⟩ := front argument List.mem_cons_self
    have othersFront := fun one inside => front one (List.mem_cons_of_mem argument inside)
    simp only [List.cons_append, readFrom, isNoVerb, isNoHelp, if_false]
    cases shapeOf argument with
    | divider =>
      refine .inl ⟨afterDivider given (others ++ [verb.name]), fun rest => ?_⟩
      cases others <;> rfl
    | plain => exact .inl ⟨_, fun _ => rfl⟩
    | long name value =>
      dsimp only
      split
      · exact .inl ⟨_, fun _ => rfl⟩
      · exact inductionHypothesis _ othersFront
    | letters text =>
      dsimp only
      split
      · exact .inl ⟨_, fun _ => rfl⟩
      · exact inductionHypothesis _ othersFront

section Commands

variable {before plain flagged : List String} {verb : Verb} {supply : Supply}
  (front : ∀ argument ∈ before, Verb.ofName? argument = none ∧ argument ≠ helpName)

include front

/-- A command line is read as a request for its command. -/
theorem verb_of_read {request : Request}
    (isRead : read (before ++ verb.name :: plain) = .ok request) : request.verb = verb := by
  rcases readFrom_command verb [] front with ⟨stop, stops⟩ | leads
  · rw [read, stops] at isRead
    cases isRead
  · rw [read, leads] at isRead
    exact verb_of_readCommand isRead

/-- A command line is read the same up to what switches after its command say,
wherever they are put in. -/
theorem read_inserts (free : isFree plain = true)
    (inserts : Draft.Inserts verb {} supply plain flagged) :
    Parallel (Draft.SuppliedTo supply) (read (before ++ verb.name :: plain))
      (read (before ++ verb.name :: flagged)) := by
  have fresh : Draft.InStep {} { verb } { verb } :=
    Draft.Supplies.inStep ⟨rfl, rfl, fun one => by cases one <;> rfl, fun _ _ => rfl, rfl⟩
  unfold read
  rcases readFrom_command verb [] front with ⟨stop, stops⟩ | leads
  · rw [stops, stops]
    exact .stopped stop
  · rw [leads, leads]
    exact Draft.foldlM_inserts inserts free fresh rfl

end Commands

end FlagEnum.CommandLine
