import FlagEnum.Proofs.Grammar

/-!
# Skipping exactly one value

The automaton that skips a value takes all of its text and nothing of what
follows, whatever the value is and however deep it is nested. A value inside
open brackets leaves the automaton after an item of the innermost one.
-/

namespace FlagEnum.Json

/-! ## Where a value is over -/

variable {blank rest : List Char}

/-- A comma or a closing mark ends a value. -/
theorem stops_cons {character : Char} (closes : character ∈ [',', ']', '\x7d'])
    (rest : List Char) : Stops (character :: rest) := by
  intro first isFirst
  cases isFirst
  exact .inr closes

/-- Blanks before such a text end a value too. -/
theorem stops_blank (isBlank : Blank blank) (stops : Stops rest) : Stops (blank ++ rest) := by
  cases blank with
  | nil => exact stops
  | cons space others =>
    intro first isFirst
    cases isFirst
    exact .inl (isBlank space List.mem_cons_self)

/-- The mark between two elements ends the first. -/
theorem stops_mark {mark : List Char} (separates : Separates false mark) (rest : List Char) :
    Stops (mark ++ rest) := by
  cases separates with
  | later isBlankBefore _ =>
    rw [List.append_assoc]
    exact stops_blank isBlankBefore (stops_cons (by decide) _)

private theorem IsItems.stops {text : List Char} (items : IsItems false text) (rest : List Char) :
    Stops (text ++ ']' :: rest) := by
  cases items with
  | none isBlank => exact stops_blank isBlank (stops_cons (by decide) _)
  | next separates _ _ =>
    simp only [List.append_assoc]
    exact stops_mark separates _

private theorem IsFields.stops {text : List Char} (fields : IsFields false text)
    (rest : List Char) :
    Stops (text ++ '\x7d' :: rest) := by
  cases fields with
  | none isBlank => exact stops_blank isBlank (stops_cons (by decide) _)
  | next separates _ _ _ _ _ =>
    simp only [List.append_assoc]
    exact stops_mark separates _

/-- Where a value is over, its digits are. -/
theorem Stops.ends (stops : Stops rest) : Ends rest := by
  intro character isFirst
  rcases stops character isFirst with space | closes
  · by_contra isDigit
    rw [isSpace_of_isDecimalDigit (by simpa using isDigit)] at space
    cases space
  · simp only [List.mem_cons, List.not_mem_nil, or_false] at closes
    rcases closes with rfl | rfl | rfl <;> rfl

namespace Skip

/-! ## Steps -/

variable {phase next : SkipPhase} {stack : List Bracket}

private theorem run_more {character : Char} {later : List Bracket}
    (isStep : step phase stack character rest = .ok (.more next later)) :
    run phase stack (character :: rest) = run next later rest := by
  rw [run, isStep]

/-- Characters that lead from a phase to itself are passed. -/
theorem run_idle {text : List Char}
    (idle : ∀ character ∈ text, ∀ rest, step phase stack character rest = .ok (.more phase stack))
    (rest : List Char) : run phase stack (text ++ rest) = run phase stack rest := by
  induction text with
  | nil => rfl
  | cons character others inductionHypothesis =>
    rw [List.cons_append, run_more (idle character List.mem_cons_self _)]
    exact inductionHypothesis fun other inside => idle other (List.mem_cons_of_mem _ inside)

/-- What is left to skip after a value inside the given brackets. -/
def resume (stack : List Bracket) (rest : List Char) : Except Refusal (List Char) :=
  match stack with
  | [] => .ok rest
  | bracket :: outer => run .after (bracket :: outer) rest

private theorem run_closeValue {character : Char}
    (isStep : step phase stack character rest = .ok (closeValue stack)) :
    run phase stack (character :: rest) = resume stack rest := by
  rw [run, isStep]
  cases stack <;> rfl

private theorem run_value_blank (isBlank : Blank blank) (rest : List Char) :
    run .value stack (blank ++ rest) = run .value stack rest := by
  refine run_idle (fun character inside rest => ?_) rest
  simp only [step, isBlank character inside, if_true]

private theorem run_opened_blank (isBlank : Blank blank) (rest : List Char) :
    run .opened stack (blank ++ rest) = run .opened stack rest := by
  refine run_idle (fun character inside rest => ?_) rest
  simp only [step, isBlank character inside, if_true]

private theorem run_key_blank (isBlank : Blank blank) (rest : List Char) :
    run .key stack (blank ++ rest) = run .key stack rest := by
  refine run_idle (fun character inside rest => ?_) rest
  simp only [step, isBlank character inside, if_true]

private theorem run_colon_blank (isBlank : Blank blank) (rest : List Char) :
    run .colon stack (blank ++ ':' :: rest) = run .value stack rest := by
  rw [run_idle (fun character inside rest => ?_)]
  · exact run_more rfl
  · simp only [step, isBlank character inside, if_true]

private theorem run_after_blank {bracket : Bracket} (isBlank : Blank blank) (rest : List Char) :
    run .after (bracket :: stack) (blank ++ rest) = run .after (bracket :: stack) rest := by
  refine run_idle (fun character inside rest => ?_) rest
  simp only [step, afterItem, isBlank character inside, if_true]

/-! ## Words and quoted texts -/

private theorem run_word {letters : List Char} (some : letters ≠ []) (rest : List Char) :
    run (.word letters) stack (letters ++ rest) = resume stack rest := by
  induction letters with
  | nil => exact absurd rfl some
  | cons letter others inductionHypothesis =>
    cases others with
    | nil =>
      refine run_closeValue ?_
      simp only [step, List.isEmpty_nil, if_true]
    | cons second further =>
      rw [List.cons_append, run_more]
      · exact inductionHypothesis (by simp)
      · simp only [step, List.isEmpty_cons, Bool.false_eq_true, if_true, if_false]

private theorem run_codeUnit {digits : List Char} {number : Nat} (isUnit : CodeUnit digits number)
    (isKey : Bool) (rest : List Char) :
    run (.unit isKey 4) stack (digits ++ rest) = run (.text isKey) stack rest := by
  cases isUnit with
  | mk isFirst isSecond isThird isFourth =>
    simp only [List.cons_append, List.nil_append, run, step, hexValue?_of_hexDigit isFirst,
      hexValue?_of_hexDigit isSecond, hexValue?_of_hexDigit isThird, hexValue?_of_hexDigit isFourth]
    norm_num

private theorem run_backslash (isKey : Bool) (rest : List Char) :
    run (.text isKey) stack ('\x5c' :: rest) = run (.escaped isKey) stack rest :=
  run_more rfl

/-- A quoted text is passed up to its closing quote. -/
theorem run_quoted {inside : List Char} (isQuoted : IsQuoted inside) (isKey : Bool)
    (rest : List Char) :
    run (.text isKey) stack (inside ++ '\x22' :: rest) =
      if isKey then run .colon stack rest else resume stack rest := by
  induction isQuoted with
  | none =>
    cases isKey with
    | true => exact run_more rfl
    | false => exact run_closeValue rfl
  | plain unescaped _ inductionHypothesis =>
    rw [List.cons_append, run_more, inductionHypothesis]
    simp only [step, unescaped.notQuote, unescaped.notBackslash, Nat.not_lt.mpr unescaped.printable,
      if_false]
  | short listed _ inductionHypothesis =>
    have escapes : ∀ entry ∈ shortEscapes,
        entry.1 ≠ 'u' ∧ simpleEscape? entry.1 = some entry.2 := by decide
    obtain ⟨notUnit, isEscape⟩ := escapes _ listed
    rw [List.cons_append, List.cons_append, run_backslash, run_more, inductionHypothesis]
    simp only [step, notUnit, isEscape, if_false, Option.isSome_some, if_true]
  | unit isUnit _ inductionHypothesis =>
    rw [List.cons_append, List.cons_append, List.append_assoc, List.cons_append, run_backslash,
      run_more, run_codeUnit isUnit, inductionHypothesis]
    simp only [step, endsBeforeHex_of_codeUnit isUnit, Bool.false_eq_true, if_true, if_false]

/-! ## Numbers -/

/-- Phases in which a number may be over. -/
inductive MayEnd : SkipPhase → Prop where
  | zero : MayEnd .zero
  | whole : MayEnd .whole
  | fraction : MayEnd .fraction
  | exponent : MayEnd .exponent

private theorem step_stops {character : Char} (may : MayEnd phase)
    (stops : Stops (character :: rest)) :
    step phase stack character rest = afterItem stack character := by
  obtain ⟨notDigit, notPoint, notMark, notCapital⟩ :
      isDigit character = false ∧ character ≠ '.' ∧ character ≠ 'e' ∧ character ≠ 'E' := by
    rcases stops character rfl with space | closes
    · simp only [isSpace, Bool.or_eq_true, beq_iff_eq] at space
      rcases space with ((rfl | rfl) | rfl) | rfl <;> decide
    · simp only [List.mem_cons, List.not_mem_nil, or_false] at closes
      rcases closes with rfl | rfl | rfl <;> decide
  cases may <;> simp [step, extendNumber, notDigit, notPoint, notMark, notCapital]

/-- A number is over where the text stops. -/
theorem run_stops (may : MayEnd phase) (stops : Stops rest) :
    run phase stack rest = resume stack rest := by
  cases rest with
  | nil => cases may <;> cases stack <;> rfl
  | cons character rest =>
    cases stack with
    | nil =>
      rw [run, step_stops may stops]
      rfl
    | cons bracket outer =>
      have sameRefusal : ∀ fault, refuse phase fault (character :: rest) =
          refuse .after fault (character :: rest) := by
        intro fault
        cases may <;> rfl
      rw [resume, run, run, step_stops may stops, step]
      simp only [sameRefusal]

/-- The phases that digits lead to. -/
inductive TakesDigits : SkipPhase → SkipPhase → Prop where
  | whole : TakesDigits .whole .whole
  | point : TakesDigits .point .fraction
  | fraction : TakesDigits .fraction .fraction
  | mark : TakesDigits .mark .exponent
  | sign : TakesDigits .sign .exponent
  | exponent : TakesDigits .exponent .exponent

private theorem step_digit {digit : Char} (takes : TakesDigits phase next)
    (isDecimal : isDecimalDigit digit = true) (rest : List Char) :
    step phase stack digit rest = .ok (.more next stack) ∧
      step next stack digit rest = .ok (.more next stack) := by
  have notPoint : digit ≠ '.' := ne_of_isDecimalDigit isDecimal (by decide)
  have notMark : digit ≠ 'e' := ne_of_isDecimalDigit isDecimal (by decide)
  have notCapital : digit ≠ 'E' := ne_of_isDecimalDigit isDecimal (by decide)
  have notPlus : digit ≠ '+' := ne_of_isDecimalDigit isDecimal (by decide)
  have notMinus : digit ≠ '-' := ne_of_isDecimalDigit isDecimal (by decide)
  have isDigit : Skip.isDigit digit = true := isDecimal
  cases takes <;>
    simp [step, extendNumber, needDigit, isDigit, notPoint, notMark, notCapital, notPlus, notMinus]

private theorem run_digits {digits : List Char} (isDigits : IsDigits digits)
    (takes : TakesDigits phase next)
    (rest : List Char) : run phase stack (digits ++ rest) = run next stack rest := by
  obtain ⟨some, all⟩ := isDigits
  obtain ⟨first, others, rfl⟩ := List.exists_cons_of_ne_nil some
  rw [List.cons_append, run_more (step_digit takes (all first List.mem_cons_self) _).1]
  refine run_idle (fun digit inside rest => ?_) rest
  exact (step_digit takes (all digit (List.mem_cons_of_mem _ inside)) rest).2

private theorem run_exponent {text : List Char} (isExponent : IsExponent text) (may : MayEnd phase)
    (notExponent : phase ≠ .exponent) (stops : Stops rest) :
    run phase stack (text ++ rest) = resume stack rest := by
  cases isExponent with
  | none => exact run_stops may stops
  | @digits mark sign digits isMark isSign isDigits =>
    have marked : ∀ rest, run phase stack (mark :: rest) = run .mark stack rest := by
      intro rest
      apply run_more
      rcases isMark with rfl | rfl <;> cases may <;> first | rfl | exact absurd rfl notExponent
    have needed : ∀ {phase : SkipPhase}, TakesDigits phase .exponent →
        run phase stack (digits ++ rest) = resume stack rest := by
      intro phase takes
      rw [run_digits isDigits takes]
      exact run_stops .exponent stops
    rw [List.cons_append, List.cons_append, marked, List.append_assoc]
    rcases isSign with rfl | rfl | rfl
    · exact needed .mark
    · exact (run_more rfl).trans (needed .sign)
    · exact (run_more rfl).trans (needed .sign)

private theorem run_fraction {fraction exponent : List Char} (isFraction : IsFraction fraction)
    (isExponent : IsExponent exponent) (may : MayEnd phase)
    (isWhole : phase = .zero ∨ phase = .whole) (stops : Stops rest) :
    run phase stack (fraction ++ exponent ++ rest) = resume stack rest := by
  cases isFraction with
  | none =>
    refine run_exponent isExponent may ?_ stops
    rcases isWhole with rfl | rfl <;> decide
  | @digits digits isDigits =>
    have pointed : ∀ rest, run phase stack ('.' :: rest) = run .point stack rest := by
      intro rest
      apply run_more
      rcases isWhole with rfl | rfl <;> rfl
    rw [List.cons_append, List.cons_append, pointed, List.append_assoc, run_digits isDigits .point]
    exact run_exponent isExponent .fraction (by decide) stops

/-- A number is passed from its first digit on, after a sign or without one. -/
theorem run_whole {whole : List Char} (isWhole : IsWhole whole)
    (begins : phase = .value ∨ phase = .minus) :
    ∃ next, MayEnd next ∧ (next = .zero ∨ next = .whole) ∧
      ∀ rest, run phase stack (whole ++ rest) = run next stack rest := by
  cases isWhole with
  | zero =>
    refine ⟨.zero, .zero, .inl rfl, fun rest => ?_⟩
    rcases begins with rfl | rfl <;> exact run_more rfl
  | @digits first others notZero isDigits =>
    refine ⟨.whole, .whole, .inr rfl, fun rest => ?_⟩
    have isDecimal : isDecimalDigit first = true := isDigits.2 first List.mem_cons_self
    have isDigit : Skip.isDigit first = true := isDecimal
    have token : isSpace first = false := isSpace_of_isDecimalDigit isDecimal
    have ne {other : Char} (notDigit : isDecimalDigit other = false) : first ≠ other :=
      ne_of_isDecimalDigit isDecimal notDigit
    have starts : ∀ rest, step phase stack first rest = .ok (.more .whole stack) := by
      intro rest
      rcases begins with rfl | rfl
      · simp [step, startValue, token, isDigit, notZero, @ne 'n' rfl, @ne 't' rfl, @ne 'f' rfl,
          @ne '-' rfl]
      · simp [step, needDigit, isDigit, notZero]
    rw [List.cons_append, run_more (starts _)]
    refine run_idle (fun digit inside rest => ?_) rest
    exact (step_digit .whole (isDigits.2 digit (List.mem_cons_of_mem _ inside)) rest).1

/-- A number is skipped up to where it is over. -/
theorem run_number {text : List Char} (isNumber : IsNumber text) (stops : Stops rest) :
    run .value stack (text ++ rest) = resume stack rest := by
  cases isNumber with
  | @mk sign whole fraction exponent isSign isWhole isFraction isExponent =>
    rcases isSign with rfl | rfl
    · obtain ⟨next, may, isNext, passes⟩ := @run_whole .value stack whole isWhole (.inl rfl)
      rw [List.nil_append, List.append_assoc, List.append_assoc, passes, ← List.append_assoc]
      exact run_fraction isFraction isExponent may isNext stops
    · obtain ⟨next, may, isNext, passes⟩ := @run_whole .minus stack whole isWhole (.inr rfl)
      have signed : ∀ rest, run .value stack ('-' :: rest) = run .minus stack rest :=
        fun rest => run_more rfl
      rw [List.append_assoc, List.append_assoc, List.append_assoc, List.singleton_append, signed,
        passes, ← List.append_assoc]
      exact run_fraction isFraction isExponent may isNext stops

/-! ## Values of any depth -/

private theorem opens_number {text : List Char} (isNumber : IsNumber text) : Opens text := by
  cases isNumber with
  | mk isSign isWhole _ _ =>
    rcases isSign with rfl | rfl
    · cases isWhole with
      | zero => exact ⟨'0', _, rfl, by decide⟩
      | @digits first others _ isDigits =>
        have isDigit : isDecimalDigit first = true := isDigits.2 first List.mem_cons_self
        exact ⟨first, _, rfl, isSpace_of_isDecimalDigit isDigit,
          ne_of_isDecimalDigit isDigit (by decide), ne_of_isDecimalDigit isDigit (by decide)⟩
    · exact ⟨'-', _, rfl, by decide⟩

/-- Every value starts like one. -/
theorem opens_isValue {text : List Char} (isValue : IsValue text) : Opens text := by
  cases isValue with
  | null => exact ⟨_, _, rfl, by decide⟩
  | boolean value => cases value <;> exact ⟨_, _, rfl, by decide⟩
  | number isNumber => exact opens_number isNumber
  | string isQuoted => exact ⟨_, _, rfl, by decide⟩
  | array inside => exact ⟨_, _, rfl, by decide⟩
  | object inside => exact ⟨_, _, rfl, by decide⟩

/-- The first item of a list is a value like any other. -/
theorem run_opened_list {text : List Char} (opens : Opens text) :
    run .opened (.list :: stack) text = run .value (.list :: stack) text := by
  obtain ⟨character, rest, rfl, token, notBracket, _⟩ := opens
  have sameStep : step .opened (.list :: stack) character rest =
      step .value (.list :: stack) character rest := by
    simp [step, firstItem, Bracket.closer, token, notBracket]
  rw [run, run, sameStep]
  rfl

/-- The phase before the next item of a bracket. -/
def itemPhase (first : Bool) : SkipPhase :=
  if first then .opened else .after

private theorem run_close {first : Bool} {bracket : Bracket} (isBlank : Blank blank)
    (rest : List Char) :
    run (itemPhase first) (bracket :: stack) (blank ++ bracket.closer :: rest) =
      resume stack rest := by
  have notSpace : isSpace bracket.closer = false := by cases bracket <;> rfl
  have notComma : bracket.closer ≠ ',' := by cases bracket <;> decide
  have closed : step (itemPhase first) (bracket :: stack) bracket.closer rest =
      .ok (closeValue stack) := by
    cases first <;> simp [itemPhase, step, firstItem, afterItem, notSpace, notComma]
  have passed : run (itemPhase first) (bracket :: stack) (blank ++ bracket.closer :: rest) =
      run (itemPhase first) (bracket :: stack) (bracket.closer :: rest) := by
    cases first with
    | true => exact run_opened_blank isBlank _
    | false => exact run_after_blank isBlank _
  rw [passed, run, closed]
  cases stack <;> rfl

private theorem run_item {first : Bool} {mark text : List Char} (separates : Separates first mark)
    (opens : Opens text) :
    run (itemPhase first) (.list :: stack) (mark ++ text) = run .value (.list :: stack) text := by
  cases separates with
  | first isBlank =>
    rw [itemPhase, if_pos rfl, run_opened_blank isBlank, run_opened_list opens]
  | later isBlankBefore isBlankAfter =>
    have comma : ∀ rest,
        run .after (.list :: stack) (',' :: rest) = run .value (.list :: stack) rest :=
      fun rest => run_more rfl
    rw [itemPhase, if_neg (by decide), List.append_assoc, run_after_blank isBlankBefore,
      List.cons_append, comma, run_value_blank isBlankAfter]

private theorem run_field {first : Bool} {mark : List Char} (separates : Separates first mark)
    (rest : List Char) :
    run (itemPhase first) (.object :: stack) (mark ++ '\x22' :: rest) =
      run (.text true) (.object :: stack) rest := by
  cases separates with
  | first isBlank =>
    rw [itemPhase, if_pos rfl, run_opened_blank isBlank]
    exact run_more rfl
  | later isBlankBefore isBlankAfter =>
    have comma : ∀ rest,
        run .after (.object :: stack) (',' :: rest) = run .key (.object :: stack) rest :=
      fun rest => run_more rfl
    rw [itemPhase, if_neg (by decide), List.append_assoc, run_after_blank isBlankBefore,
      List.cons_append, comma, run_key_blank isBlankAfter]
    exact run_more rfl

/-- A value of any kind and depth is passed exactly. The items and fields inside
its brackets are passed one after the other, with the bracket on the stack. -/
theorem run_isValue {text : List Char} (isValue : IsValue text) :
    ∀ (stack : List Bracket) (rest : List Char), Stops rest →
      run .value stack (text ++ rest) = resume stack rest := by
  -- Values, items and fields refer to each other: the recursor takes one statement for each, and
  -- what is inside brackets is followed up to the bracket that closes them.
  refine @IsValue.rec
    (fun text _ => ∀ stack rest, Stops rest → run .value stack (text ++ rest) = resume stack rest)
    (fun first text _ => ∀ stack rest,
      run (itemPhase first) (.list :: stack) (text ++ ']' :: rest) = resume stack rest)
    (fun first text _ => ∀ stack rest,
      run (itemPhase first) (.object :: stack) (text ++ '\x7d' :: rest) = resume stack rest)
    ?null ?boolean ?number ?string ?array ?object ?noItems ?item ?noFields ?field text isValue
  case null =>
    intro stack rest _
    exact (run_more rfl).trans (run_word (show ['u', 'l', 'l'] ≠ [] by decide) rest)
  case boolean =>
    intro value stack rest _
    cases value with
    | true => exact (run_more rfl).trans (run_word (show ['r', 'u', 'e'] ≠ [] by decide) rest)
    | false => exact (run_more rfl).trans (run_word (show ['a', 'l', 's', 'e'] ≠ [] by decide) rest)
  case number =>
    intro text isNumber stack rest stops
    exact run_number isNumber stops
  case string =>
    intro inside isQuoted stack rest _
    rw [List.append_assoc]
    exact (run_more rfl).trans (run_quoted isQuoted false rest)
  case array =>
    intro text _ inductionHypothesis stack rest _
    rw [List.append_assoc]
    exact (run_more rfl).trans (inductionHypothesis stack rest)
  case object =>
    intro text _ inductionHypothesis stack rest _
    rw [List.append_assoc]
    exact (run_more rfl).trans (inductionHypothesis stack rest)
  case noItems =>
    intro first blank isBlank stack rest
    exact @run_close blank stack first .list isBlank rest
  case item =>
    intro first mark text tail separates isValue others one more stack rest
    rw [List.append_assoc, List.append_assoc,
      run_item separates ((opens_isValue isValue).append _), one _ _ (others.stops rest)]
    exact more stack rest
  case noFields =>
    intro first blank isBlank stack rest
    exact @run_close blank stack first .object isBlank rest
  case field =>
    intro first mark key before after text tail separates isKey isBlankBefore isBlankAfter isValue
      others one more stack rest
    have isText : mark ++ '\x22' :: key ++ '\x22' :: before ++ ':' :: after ++ text ++ tail ++
          '\x7d' :: rest =
        mark ++ '\x22' :: (key ++ '\x22' ::
          (before ++ ':' :: (after ++ (text ++ (tail ++ '\x7d' :: rest))))) := by simp
    rw [isText, run_field separates, run_quoted isKey true, if_pos rfl,
      run_colon_blank isBlankBefore, run_value_blank isBlankAfter, one _ _ (others.stops rest)]
    exact more stack rest

end Skip

/-- Skipping takes one value, with the blanks before it, and nothing more. -/
theorem skipValue_isValue {text : List Char} (isValue : IsValue text) (isBlank : Blank blank)
    (stops : Stops rest) : skipValue (blank ++ text ++ rest) = .ok rest := by
  rw [skipValue, List.append_assoc, Skip.run_value_blank isBlank,
    Skip.run_isValue isValue [] rest stops]
  rfl

end FlagEnum.Json
