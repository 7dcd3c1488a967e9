import FlagEnum.Literal
import Mathlib.Data.List.DropRight
import Mathlib.Data.Nat.Digits.Defs
import Mathlib.Tactic

/-!
# The grammar of integer literals

`Literal.ofString` is compared with a grammar that is stated apart from it. Its
first half takes a text apart: `Parts.Describes` names the blanks, the sign, the
base mark and the digits, and every text has exactly one such description. Its
second half gives the digits a number, `magnitude`, without a bound. The reader
accepts where that number is in range, and its failures tell which character
was in the way: `FailsAt`.
-/

namespace FlagEnum

namespace Text

/-- `core` is `text` without the blanks at its two ends. -/
def Trims (text core : List Char) : Prop :=
  ∃ before after, text = before ++ core ++ after ∧
    (∀ character ∈ before ++ after, isBlank character = true) ∧
    (∀ character ∈ core.head?, isBlank character = false) ∧
    ∀ character ∈ core.getLast?, isBlank character = false

private theorem trimEnd_append_blank (core : List Char) {after : List Char}
    (blank : ∀ character ∈ after, isBlank character = true) :
    trimEnd (core ++ after) = trimEnd core := by
  rw [trimEnd, List.reverse_append, List.dropWhile_append_of_pos (by simpa using blank), trimEnd]

private theorem trim_of_trims {text core : List Char} (trims : Trims text core) :
    trim text = core := by
  obtain ⟨before, after, rfl, blank, first, last⟩ := trims
  rw [List.forall_mem_append] at blank
  rw [trim, List.append_assoc, List.dropWhile_append_of_pos blank.1]
  cases core with
  | nil =>
    rw [List.nil_append, List.dropWhile_eq_nil_iff.mpr blank.2]
    rfl
  | cons character rest =>
    have startsBare : isBlank character = false := first character rfl
    rw [List.cons_append, List.dropWhile_cons_of_neg (by simp [startsBare]), ← List.cons_append,
      trimEnd_append_blank _ blank.2]
    refine List.rdropWhile_eq_self_iff.mpr ?_
    intro nonempty
    simp [last _ (List.getLast?_eq_some_getLast nonempty)]

/-- `trim` takes off the blanks at both ends. -/
theorem trims_trim (text : List Char) : Trims text (trim text) := by
  have back : trim text ++ (text.dropWhile isBlank).rtakeWhile isBlank = text.dropWhile isBlank :=
    List.rdropWhile_append_rtakeWhile
  refine ⟨text.takeWhile isBlank, (text.dropWhile isBlank).rtakeWhile isBlank, ?_, ?_, ?_, ?_⟩
  · rw [List.append_assoc, back, List.takeWhile_append_dropWhile]
  · refine List.forall_mem_append.mpr ⟨?_, ?_⟩
    · exact fun character taken => List.mem_takeWhile_imp taken
    · exact fun character taken => List.mem_rtakeWhile_imp taken
  · intro character isFirst
    have first := List.head?_dropWhile_not isBlank text
    rw [← back, List.head?_append_of_ne_nil _ (List.ne_nil_of_mem (List.mem_of_head? isFirst)),
      isFirst] at first
    exact first
  · intro character isLast
    have nonempty : trim text ≠ [] := List.ne_nil_of_mem (List.mem_of_getLast? isLast)
    have last := List.rdropWhile_last_not isBlank (text.dropWhile isBlank) nonempty
    rw [Option.mem_def, List.getLast?_eq_some_getLast nonempty, Option.some.injEq] at isLast
    rw [← isLast]
    exact Bool.eq_false_of_not_eq_true last

/-- Every text is trimmed in one way. -/
theorem trims_iff {text core : List Char} : Trims text core ↔ trim text = core := by
  constructor
  · exact trim_of_trims
  · rintro rfl
    exact trims_trim text

end Text

namespace Literal

/-! ## Taking a text apart -/

/-- One optional sign in front of a text, whether it is a minus, and what
follows it. -/
inductive TakesSign : List Char → Bool → List Char → Prop
  | minus (rest : List Char) : TakesSign ('-' :: rest) true rest
  | plus (rest : List Char) : TakesSign ('+' :: rest) false rest
  | absent {text : List Char} (noMinus : text.head? ≠ some '-') (noPlus : text.head? ≠ some '+') :
    TakesSign text false text

/-- The base that a text in lower case is marked with, and what follows the
mark. A text without a mark is decimal. -/
inductive TakesBase : List Char → Nat → List Char → Prop
  | hexadecimal (rest : List Char) : TakesBase ('0' :: 'x' :: rest) 16 rest
  | binary (rest : List Char) : TakesBase ('0' :: 'b' :: rest) 2 rest
  | octal (rest : List Char) : TakesBase ('0' :: 'o' :: rest) 8 rest
  | decimal {text : List Char} (unmarked : ∀ mark ∈ ['x', 'b', 'o'], ¬ ['0', mark] <+: text) :
    TakesBase text 10 text

/-- `splitSign` takes off a sign as `TakesSign` says. -/
theorem takesSign_iff {text rest : List Char} {negative : Bool} :
    TakesSign text negative rest ↔ splitSign text = (negative, rest) := by
  constructor
  · rintro (_ | _ | ⟨noMinus, noPlus⟩)
    · rfl
    · rfl
    · unfold splitSign
      split
      · simp at noMinus
      · simp at noPlus
      · rfl
  · intro taken
    unfold splitSign at taken
    split at taken
    · cases taken
      exact .minus _
    · cases taken
      exact .plus _
    · next noMinus noPlus =>
      cases taken
      refine .absent ?_ ?_
      · intro isMinus
        obtain ⟨others, isText⟩ := List.head?_eq_some_iff.mp isMinus
        exact noMinus others isText
      · intro isPlus
        obtain ⟨others, isText⟩ := List.head?_eq_some_iff.mp isPlus
        exact noPlus others isText

/-- `splitBase` takes off the mark of a base as `TakesBase` says. -/
theorem takesBase_iff {text rest : List Char} {base : Nat} :
    TakesBase text base rest ↔ splitBase text = (base, rest) := by
  constructor
  · rintro (_ | _ | _ | unmarked)
    · rfl
    · rfl
    · rfl
    · unfold splitBase
      split
      · simp at unmarked
      · simp at unmarked
      · simp at unmarked
      · rfl
  · intro taken
    unfold splitBase at taken
    split at taken
    · cases taken
      exact .hexadecimal _
    · cases taken
      exact .binary _
    · cases taken
      exact .octal _
    · next noHexadecimal noBinary noOctal =>
      cases taken
      refine .decimal ?_
      rintro mark isMark ⟨others, isText⟩
      simp only [List.mem_cons, List.not_mem_nil, or_false] at isMark
      rcases isMark with rfl | rfl | rfl
      · exact noHexadecimal others isText.symm
      · exact noBinary others isText.symm
      · exact noOctal others isText.symm

/-- How a text is taken apart as a literal. Blanks around it go first, then one
sign; the case of the letters goes before the base mark is looked for, and the
separators go last. -/
def Parts.Describes (literal : Parts) (text : List Char) : Prop :=
  ∃ core unsigned digits, Text.Trims text core ∧ TakesSign core literal.negative unsigned ∧
    TakesBase (unsigned.map Char.toLower) literal.base digits ∧
    literal.digits = digits.filter (· != '_')

/-- Every text has exactly one description. -/
theorem describes_iff {text : List Char} {literal : Parts} :
    literal.Describes text ↔ parts text = literal := by
  constructor
  · rintro ⟨core, unsigned, digits, trims, sign, base, isDigits⟩
    rw [parts, Text.trims_iff.mp trims, takesSign_iff.mp sign]
    simp only [takesBase_iff.mp base, ← isDigits]
  · rintro rfl
    exact ⟨_, _, _, Text.trims_iff.mpr rfl, takesSign_iff.mpr rfl, takesBase_iff.mpr rfl, rfl⟩

private theorem TakesBase.bounds {text rest : List Char} {base : Nat}
    (taken : TakesBase text base rest) :
    0 < base ∧ base ≤ 16 := by
  cases taken <;> omega

/-! ## The number of a text of digits -/

/-- The digits of the greatest base, in the order of their numbers. -/
def alphabet : List Char :=
  ['0', '1', '2', '3', '4', '5', '6', '7', '8', '9', 'a', 'b', 'c', 'd', 'e', 'f']

/-- The digits of a base. -/
def digitsOf (base : Nat) : List Char :=
  alphabet.take base

/-- The number that digits denote in a base, of whatever size. -/
def magnitude (base : Nat) (digits : List Char) : Nat :=
  Nat.ofDigits base (digits.reverse.map alphabet.idxOf)

@[simp] theorem magnitude_nil (base : Nat) : magnitude base [] = 0 := by
  simp [magnitude]

/-- A further digit moves the others up by one place. -/
theorem magnitude_concat (base : Nat) (digits : List Char) (character : Char) :
    magnitude base (digits ++ [character]) =
      magnitude base digits * base + alphabet.idxOf character := by
  simp only [magnitude, List.reverse_append, List.reverse_singleton, List.singleton_append,
    List.map_cons, Nat.ofDigits_cons]
  ring

variable {base : Nat} {character : Char}

private theorem mem_alphabet_of_digit? {digit : Nat} (small : base ≤ 16)
    (isDigit : digit? base character = some digit) : character ∈ alphabet := by
  simp only [digit?, Option.filter_eq_some_iff, decide_eq_true_eq] at isDigit
  obtain ⟨isNumber, inBase⟩ := isDigit
  have named : Char.ofNat character.toNat = character := Char.ofNat_toNat character
  generalize character.toNat = code at isNumber named
  split at isNumber
  · next decimal =>
    simp only [Bool.and_eq_true, decide_eq_true_eq] at decimal
    obtain ⟨least, greatest⟩ : 48 ≤ code ∧ code ≤ 57 := decimal
    interval_cases code <;> rw [← named] <;> decide
  · split at isNumber
    · next letter =>
      cases isNumber
      simp only [Bool.and_eq_true, decide_eq_true_eq] at letter
      obtain ⟨least, _⟩ : 97 ≤ code ∧ code ≤ 122 := letter
      have greatest : code ≤ 102 := by
        change code - 97 + 10 < base at inBase
        omega
      interval_cases code <;> rw [← named] <;> decide
    · cases isNumber

private theorem digit?_of_mem_alphabet (inside : character ∈ alphabet) :
    digit? base character = (some (alphabet.idxOf character)).filter (· < base) := by
  simp only [alphabet, List.mem_cons, List.not_mem_nil, or_false] at inside
  rcases inside with rfl | rfl | rfl | rfl | rfl | rfl | rfl | rfl | rfl | rfl | rfl | rfl | rfl |
    rfl | rfl | rfl <;> rfl

/-- A digit of a base up to sixteen stands for its place in the alphabet. -/
theorem digit?_eq (small : base ≤ 16) :
    digit? base character =
      if character ∈ digitsOf base then some (alphabet.idxOf character) else none := by
  by_cases inside : character ∈ alphabet
  · rw [digit?_of_mem_alphabet inside, digitsOf]
    simp only [List.mem_take_iff_idxOf_lt inside, Option.filter_some, decide_eq_true_eq]
  · have noDigit : character ∉ digitsOf base := fun isDigit => inside (List.mem_of_mem_take isDigit)
    rw [if_neg noDigit]
    by_contra isDigit
    obtain ⟨digit, isDigit⟩ := Option.ne_none_iff_exists'.mp isDigit
    exact inside (mem_alphabet_of_digit? small isDigit)

/-! ## Reading digits -/

variable {number size : Nat} {digits : List Char} {failure : LiteralError}

private theorem maxInteger_lt_iff : maxInteger < number ↔ 2 ^ 127 ≤ number := by
  have greatest : maxInteger = 2 ^ 127 - 1 := rfl
  rw [greatest]
  omega

/-- One more character is a digit that leaves the number in range, or a digit
that does not, or no digit. -/
theorem readDigits_singleton (small : base ≤ 16) (number : Nat) (character : Char) :
    readDigits base number [character] =
      if character ∈ digitsOf base then
        if 2 ^ 127 ≤ number * base + alphabet.idxOf character then .error .tooLarge
        else .ok (number * base + alphabet.idxOf character)
      else .error .invalidDigit := by
  rw [readDigits, digit?_eq small]
  by_cases isDigit : character ∈ digitsOf base
  · simp only [if_pos isDigit, maxInteger_lt_iff, readDigits]
  · simp only [if_neg isDigit]

private theorem readDigits_cons (base number : Nat) (character : Char) (rest : List Char) :
    readDigits base number (character :: rest) =
      readDigits base number [character] >>= fun next => readDigits base next rest := by
  rw [readDigits, readDigits]
  cases digit? base character with
  | none => rfl
  | some digit =>
    simp only [readDigits]
    split <;> rfl

/-- Digits can be read in two goes. -/
theorem readDigits_append (base number : Nat) (before after : List Char) :
    readDigits base number (before ++ after) =
      readDigits base number before >>= fun next => readDigits base next after := by
  induction before generalizing number with
  | nil => rfl
  | cons character rest inductionHypothesis =>
    rw [List.cons_append, readDigits_cons, readDigits_cons _ _ character rest, bind_assoc]
    simp only [inductionHypothesis]

private theorem readDigits_singleton_eq_ok_iff (small : base ≤ 16) :
    readDigits base number [character] = .ok size ↔
      character ∈ digitsOf base ∧ number * base + alphabet.idxOf character < 2 ^ 127 ∧
        size = number * base + alphabet.idxOf character := by
  rw [readDigits_singleton small]
  constructor
  · intro read
    split at read
    · next isDigit =>
      split at read
      · cases read
      · next inRange =>
        cases read
        exact ⟨isDigit, by omega, rfl⟩
    · cases read
  · rintro ⟨isDigit, inRange, rfl⟩
    rw [if_pos isDigit, if_neg (by omega)]

private theorem readDigits_singleton_eq_error_iff (small : base ≤ 16) :
    readDigits base number [character] = .error failure ↔
      (character ∉ digitsOf base ∨ 2 ^ 127 ≤ number * base + alphabet.idxOf character) ∧
        failure = if character ∈ digitsOf base then .tooLarge else .invalidDigit := by
  rw [readDigits_singleton small]
  constructor
  · intro failed
    split at failed
    · next isDigit =>
      split at failed
      · next large =>
        cases failed
        exact ⟨Or.inr large, (if_pos isDigit).symm⟩
      · cases failed
    · next noDigit =>
      cases failed
      exact ⟨Or.inl noDigit, (if_neg noDigit).symm⟩
  · rintro ⟨fails, rfl⟩
    by_cases isDigit : character ∈ digitsOf base
    · rw [if_pos isDigit, if_pos isDigit, if_pos (fails.resolve_left (not_not.mpr isDigit))]
    · rw [if_neg isDigit, if_neg isDigit]

/-- Digits are read where all of them belong to the base and their number is in
range; that number is then what is read. -/
theorem readDigits_eq_ok_iff (positive : 0 < base) (small : base ≤ 16) :
    readDigits base 0 digits = .ok size ↔
      (∀ character ∈ digits, character ∈ digitsOf base) ∧ magnitude base digits < 2 ^ 127 ∧
        size = magnitude base digits := by
  induction digits using List.reverseRecOn generalizing size with
  | nil => simp [readDigits, eq_comm]
  | append_singleton before character inductionHypothesis =>
    rw [readDigits_append, magnitude_concat, List.forall_mem_append, List.forall_mem_singleton]
    cases read : readDigits base 0 before with
    | error failure =>
      simp only [bind, Except.bind, reduceCtorEq, false_iff]
      rintro ⟨⟨digitsBefore, _⟩, inRange, _⟩
      have below : magnitude base before ≤ magnitude base before * base :=
        Nat.le_mul_of_pos_right _ positive
      rw [inductionHypothesis.mpr ⟨digitsBefore, by omega, rfl⟩] at read
      cases read
    | ok next =>
      obtain ⟨digitsBefore, _, rfl⟩ := inductionHypothesis.mp read
      simp only [bind, Except.bind, readDigits_singleton_eq_ok_iff small]
      exact ⟨fun ⟨isDigit, rest⟩ => ⟨⟨digitsBefore, isDigit⟩, rest⟩,
        fun ⟨⟨_, isDigit⟩, rest⟩ => ⟨isDigit, rest⟩⟩

/-- A failure comes from one character, after all before it were read. -/
theorem readDigits_eq_error_iff :
    readDigits base number digits = .error failure ↔
      ∃ before character, before ++ [character] <+: digits ∧
        ∃ next, readDigits base number before = .ok next ∧
          readDigits base next [character] = .error failure := by
  constructor
  · intro failed
    induction digits generalizing number with
    | nil => cases failed
    | cons character rest inductionHypothesis =>
      rw [readDigits_cons] at failed
      cases first : readDigits base number [character] with
      | error other =>
        rw [first] at failed
        cases failed
        exact ⟨[], character, by simp, number, rfl, first⟩
      | ok next =>
        rw [first] at failed
        obtain ⟨before, last, stands, reached, read, fails⟩ := inductionHypothesis failed
        refine ⟨character :: before, last, by simpa using stands, reached, ?_, fails⟩
        rw [readDigits_cons, first]
        exact read
  · rintro ⟨before, character, ⟨rest, rfl⟩, next, read, fails⟩
    rw [readDigits_append, readDigits_append, read]
    change readDigits base next [character] >>= _ = _
    rw [fails]
    rfl

/-- Reading from the left first fails at `character`: what stands before it are
digits of a number in range, and it is itself no digit or one too many. -/
structure FailsAt (base : Nat) (digits before : List Char) (character : Char) : Prop where
  stands : before ++ [character] <+: digits
  digitsBefore : ∀ earlier ∈ before, earlier ∈ digitsOf base
  inRange : magnitude base before < 2 ^ 127
  fails : character ∉ digitsOf base ∨ 2 ^ 127 ≤ magnitude base (before ++ [character])

/-- Which error it is depends on the first character at which reading fails. -/
theorem readDigits_fails_iff (positive : 0 < base) (small : base ≤ 16) :
    readDigits base 0 digits = .error failure ↔
      ∃ before character, FailsAt base digits before character ∧
        failure = if character ∈ digitsOf base then .tooLarge else .invalidDigit := by
  rw [readDigits_eq_error_iff]
  constructor
  · rintro ⟨before, character, stands, next, read, failed⟩
    obtain ⟨digitsBefore, inRange, rfl⟩ := (readDigits_eq_ok_iff positive small).mp read
    obtain ⟨fails, isFailure⟩ := (readDigits_singleton_eq_error_iff small).mp failed
    rw [← magnitude_concat] at fails
    exact ⟨before, character, ⟨stands, digitsBefore, inRange, fails⟩, isFailure⟩
  · rintro ⟨before, character, ⟨stands, digitsBefore, inRange, fails⟩, isFailure⟩
    rw [magnitude_concat] at fails
    exact ⟨before, character, stands, magnitude base before,
      (readDigits_eq_ok_iff positive small).mpr ⟨digitsBefore, inRange, rfl⟩,
      (readDigits_singleton_eq_error_iff small).mpr ⟨fails, isFailure⟩⟩

/-! ## What is reported of a text -/

/-- There is nothing to read, or a second sign in front of it. -/
def Parts.IsMalformed (literal : Parts) : Prop :=
  literal.digits = [] ∨ literal.digits.head? = some '-' ∨ literal.digits.head? = some '+'

instance (literal : Parts) : Decidable literal.IsMalformed :=
  inferInstanceAs (Decidable (_ ∨ _ ∨ _))

/-- A number with the sign of the literal. -/
def Parts.signed (literal : Parts) (size : Nat) : Int :=
  if literal.negative then -(size : Int) else size

private theorem startsWithSign_iff :
    startsWithSign digits = true ↔ digits.head? = some '-' ∨ digits.head? = some '+' := by
  unfold startsWithSign
  split
  · simp
  · simp
  · next noMinus noPlus =>
    simp only [Bool.false_eq_true, List.head?_eq_some_iff, false_iff, not_or, not_exists]
    exact ⟨fun rest isText => noMinus rest isText, fun rest isText => noPlus rest isText⟩

/-- The integer that a text denotes, or the message why it denotes none. -/
def answer (text : String) : Except String Int :=
  (ofString text).mapError (LiteralError.message text)

/-- The messages for one text tell its failures apart. -/
theorem message_injective (text : String) : Function.Injective (LiteralError.message text) := by
  intro left right same
  unfold LiteralError.message at same
  have characters := congrArg String.toList same
  cases left <;> cases right <;> simp at characters ⊢

private theorem message_of_obstacle (text : String) (isDigit : Prop) [Decidable isDigit] :
    LiteralError.message text (if isDigit then .tooLarge else .invalidDigit) =
      "invalid integer literal " ++ text ++
        if isDigit then ": number too large to fit in target type"
        else ": invalid digit found in string" := by
  split
  · unfold LiteralError.message
    rfl
  · unfold LiteralError.message
    rfl

/-- A literal that is accepted is answered with its value. -/
theorem answer_eq_ok_iff {text : String} {value : Int} :
    answer text = .ok value ↔ ofString text = .ok value := by
  rw [answer]
  cases ofString text <;> simp [Except.mapError]

private theorem answer_eq_error_iff {text message : String} :
    answer text = .error message ↔
      ∃ failure, ofString text = .error failure ∧ failure.message text = message := by
  rw [answer]
  cases ofString text <;> simp [Except.mapError]

/-- The answer to a literal that is refused tells the reason. -/
theorem answer_eq_message_iff {text : String} {failure : LiteralError} :
    answer text = .error (failure.message text) ↔ ofString text = .error failure := by
  rw [answer_eq_error_iff]
  constructor
  · rintro ⟨other, failed, same⟩
    rw [failed, message_injective text same]
  · intro failed
    exact ⟨failure, failed, rfl⟩

/-- What is reported of a text that is taken apart as `literal`. -/
structure Parts.Decides (literal : Parts) (text : String) (answer : Except String Int) : Prop where
  /-- A literal has digits, all of them of its base, and their number is in
  range. The sign is applied last. -/
  accepted : ∀ value : Int, answer = .ok value ↔
    literal.digits ≠ [] ∧ (∀ character ∈ literal.digits, character ∈ digitsOf literal.base) ∧
      magnitude literal.base literal.digits < 2 ^ 127 ∧
      value = literal.signed (magnitude literal.base literal.digits)
  malformed : answer = .error ("invalid integer literal: " ++ text) ↔ literal.IsMalformed
  /-- Every other failure is that of the first character in the way. -/
  failed : ¬ literal.IsMalformed → ∀ message, answer = .error message ↔
    ∃ before character, FailsAt literal.base literal.digits before character ∧
      message = "invalid integer literal " ++ text ++
        if character ∈ digitsOf literal.base then ": number too large to fit in target type"
        else ": invalid digit found in string"
  /-- Applying the sign does not leave the range. -/
  inRange : ∀ value : Int, answer = .ok value → minInteger < value ∧ value ≤ maxInteger

/-- Digits of a base are no signs. -/
theorem not_isMalformed {literal : Parts} (nonempty : literal.digits ≠ [])
    (digits : ∀ character ∈ literal.digits, character ∈ digitsOf literal.base) :
    ¬ literal.IsMalformed := by
  have noSign : '-' ∉ alphabet ∧ '+' ∉ alphabet := by decide
  rintro (empty | minus | plus)
  · exact nonempty empty
  · exact noSign.1 (List.mem_of_mem_take (digits _ (List.mem_of_head? minus)))
  · exact noSign.2 (List.mem_of_mem_take (digits _ (List.mem_of_head? plus)))

section Described

variable {text : String} {literal : Parts} (described : literal.Describes text.toList)

include described

private theorem ofString_of_describes :
    ofString text =
      if literal.IsMalformed then .error .malformed
      else (readDigits literal.base 0 literal.digits).map literal.signed := by
  have malformed : (literal.digits.isEmpty || startsWithSign literal.digits) = true ↔
      literal.IsMalformed := by
    rw [Bool.or_eq_true, List.isEmpty_iff, startsWithSign_iff, Parts.IsMalformed]
  rw [ofString, read, describes_iff.mp described]
  simp only [malformed]
  split
  · rfl
  · cases readDigits literal.base 0 literal.digits with
    | error failure => rfl
    | ok size => rfl

private theorem base_bounds : 0 < literal.base ∧ literal.base ≤ 16 := by
  obtain ⟨_, _, _, _, _, base, _⟩ := described
  exact base.bounds

/-- A literal is accepted if it has digits, all of its base, that write a number
of 127 bits; its value has the sign. -/
theorem ofString_eq_ok_iff {value : Int} :
    ofString text = .ok value ↔
      literal.digits ≠ [] ∧ (∀ character ∈ literal.digits, character ∈ digitsOf literal.base) ∧
        magnitude literal.base literal.digits < 2 ^ 127 ∧
        value = literal.signed (magnitude literal.base literal.digits) := by
  obtain ⟨positive, small⟩ := base_bounds described
  rw [ofString_of_describes described]
  constructor
  · intro accepted
    split at accepted
    · cases accepted
    · next formed =>
      cases read : readDigits literal.base 0 literal.digits with
      | error failure =>
        rw [read] at accepted
        cases accepted
      | ok size =>
        rw [read] at accepted
        cases accepted
        obtain ⟨digits, inRange, rfl⟩ := (readDigits_eq_ok_iff positive small).mp read
        exact ⟨fun empty => formed (Or.inl empty), digits, inRange, rfl⟩
  · rintro ⟨nonempty, digits, inRange, rfl⟩
    rw [if_neg (not_isMalformed nonempty digits),
      (readDigits_eq_ok_iff positive small).mpr ⟨digits, inRange, rfl⟩]
    rfl

/-- A literal is malformed if there is nothing to read in it, or a second sign. -/
theorem ofString_eq_malformed_iff : ofString text = .error .malformed ↔ literal.IsMalformed := by
  obtain ⟨positive, small⟩ := base_bounds described
  rw [ofString_of_describes described]
  split
  · next malformed => simp only [malformed]
  · next formed =>
    simp only [formed, iff_false]
    intro failed
    cases read : readDigits literal.base 0 literal.digits with
    | error failure =>
      rw [read] at failed
      cases failed
      obtain ⟨_, character, _, same⟩ := (readDigits_fails_iff positive small).mp read
      split at same <;> cases same
    | ok size =>
      rw [read] at failed
      cases failed

/-- A literal that is not malformed is refused at its first obstacle: a character
that is no digit of the base, or one that makes the number too large. -/
theorem ofString_eq_error_iff (formed : ¬ literal.IsMalformed) {failure : LiteralError} :
    ofString text = .error failure ↔
      ∃ before character, FailsAt literal.base literal.digits before character ∧
        failure = if character ∈ digitsOf literal.base then .tooLarge else .invalidDigit := by
  obtain ⟨positive, small⟩ := base_bounds described
  rw [ofString_of_describes described, if_neg formed, ← readDigits_fails_iff positive small]
  cases readDigits literal.base 0 literal.digits <;> simp [Except.map]

/-- Digits of the base fail in one way only, and only where their number is out
of range. -/
theorem ofString_of_digits (nonempty : literal.digits ≠ [])
    (digits : ∀ character ∈ literal.digits, character ∈ digitsOf literal.base) :
    ofString text =
      if magnitude literal.base literal.digits < 2 ^ 127 then
        .ok (literal.signed (magnitude literal.base literal.digits))
      else .error .tooLarge := by
  split
  · next inRange => exact (ofString_eq_ok_iff described).mpr ⟨nonempty, digits, inRange, rfl⟩
  · next outOfRange =>
    cases failed : ofString text with
    | ok value => exact absurd ((ofString_eq_ok_iff described).mp failed).2.2.1 outOfRange
    | error failure =>
      obtain ⟨before, character, failsAt, rfl⟩ :=
        (ofString_eq_error_iff described (not_isMalformed nonempty digits)).mp failed
      have isDigit := digits character (failsAt.stands.subset (by simp))
      rw [if_pos isDigit]

end Described

/-- A literal in range keeps to 128 bits under either sign. -/
theorem signed_inRange (literal : Parts) {size : Nat} (inRange : size < 2 ^ 127) :
    minInteger < literal.signed size ∧ literal.signed size ≤ maxInteger := by
  have least : minInteger = -2 ^ 127 := rfl
  have greatest : maxInteger = 2 ^ 127 - 1 := rfl
  rw [least, greatest, Parts.signed]
  split <;> omega

/-- Every text is taken apart in one way, and what is reported of it is decided
by its parts: the integer where they are a literal, else the first obstacle. -/
theorem answer_decided (text : String) :
    ∃ literal : Parts, literal.Describes text.toList ∧
      (∀ other : Parts, other.Describes text.toList → other = literal) ∧
      literal.Decides text (answer text) := by
  have described : (parts text.toList).Describes text.toList := describes_iff.mpr rfl
  refine ⟨parts text.toList, described, ?_, ?_, ?_, ?_, ?_⟩
  · intro other otherDescribed
    exact (describes_iff.mp otherDescribed).symm
  · intro value
    rw [answer_eq_ok_iff, ofString_eq_ok_iff described]
  · rw [← ofString_eq_malformed_iff described]
    exact @answer_eq_message_iff text .malformed
  · intro formed message
    rw [answer_eq_error_iff]
    constructor
    · rintro ⟨failure, failed, rfl⟩
      obtain ⟨before, character, failsAt, rfl⟩ :=
        (ofString_eq_error_iff described formed).mp failed
      exact ⟨before, character, failsAt, message_of_obstacle text _⟩
    · rintro ⟨before, character, failsAt, rfl⟩
      exact ⟨_, (ofString_eq_error_iff described formed).mpr ⟨before, character, failsAt, rfl⟩,
        message_of_obstacle text _⟩
  · intro value accepted
    rw [answer_eq_ok_iff, ofString_eq_ok_iff described] at accepted
    obtain ⟨_, _, inRange, rfl⟩ := accepted
    exact signed_inRange _ inRange

end Literal

end FlagEnum
