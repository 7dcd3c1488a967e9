import FlagEnum.Program
import FlagEnum.Proofs.Drafts
import Mathlib.Data.List.DropRight
import Mathlib.Tactic

/-!
# Literals as arguments

Two readers decide about a value on the command line: the one of arguments takes
a dash for a switch unless a number follows, and the one of literals then reads
the text. A literal passes the first as it is, save a negative one that is
written with more than decimal digits.
-/

namespace FlagEnum

namespace Text

private theorem trim_cons {character : Char} (notBlank : isBlank character = false)
    (text : List Char) :
    trim (character :: text) = character :: trimEnd text := by
  rw [trim, List.dropWhile_cons_of_neg (by simp [notBlank]), trimEnd, trimEnd, List.reverse_cons,
    List.dropWhile_append]
  split
  · next empty =>
    rw [List.isEmpty_iff] at empty
    simp [empty, notBlank]
  · simp

/-- Trimming takes only blanks off the end. -/
theorem trimEnd_prefix (text : List Char) : trimEnd text <+: text :=
  List.rdropWhile_prefix isBlank text

private theorem mem_trimEnd {character : Char} {text : List Char} (inside : character ∈ text)
    (notBlank : isBlank character = false) : character ∈ trimEnd text := by
  have split := @List.takeWhile_append_dropWhile _ isBlank text.reverse
  rw [← List.mem_reverse, ← split, List.mem_append] at inside
  rcases inside with taken | kept
  · have blank := List.mem_takeWhile_imp taken
    rw [notBlank] at blank
    cases blank
  · exact List.mem_reverse.mpr kept

end Text

namespace Literal

variable {character : Char} {rest : List Char} {value : Int}

/-! ## Characters of a decimal literal -/

private theorem isDigit_iff :
    character.isDigit = true ↔ 48 ≤ character.toNat ∧ character.toNat ≤ 57 := by
  simp [Char.isDigit, UInt32.le_iff_toNat_le]

/-- Lower case changes the letters of upper case only, by a fixed distance. -/
theorem toLower_cases (character : Char) :
    character.toLower = character ∨ 65 ≤ character.toNat ∧ character.toNat ≤ 90 ∧
      character.toLower.toNat = character.toNat + 32 := by
  unfold Char.toLower
  split
  · next upper =>
    have least : 65 ≤ character.val.toNat := UInt32.le_iff_toNat_le.mp upper.1
    have greatest : character.val.toNat ≤ 90 := UInt32.le_iff_toNat_le.mp upper.2
    have distance : ('a'.val - 'A'.val).toNat = 32 := rfl
    refine Or.inr ⟨least, greatest, ?_⟩
    change (character.val + ('a'.val - 'A'.val)).toNat = character.val.toNat + 32
    rw [UInt32.toNat_add, distance]
    exact Nat.mod_eq_of_lt (by omega)
  · exact Or.inl rfl

/-- Whether a character may stand in a decimal literal after its sign. -/
def isDecimal (character : Char) : Bool :=
  character.isDigit || character == '_'

private theorem isDecimal_of_toLower (decimal : isDecimal character.toLower = true) :
    isDecimal character = true := by
  rcases toLower_cases character with same | ⟨least, greatest, shifted⟩
  · rwa [same] at decimal
  · simp only [isDecimal, Bool.or_eq_true, isDigit_iff, beq_iff_eq] at decimal
    rcases decimal with digit | separator
    · omega
    · have code : '_'.toNat = 95 := rfl
      rw [separator, code] at shifted
      omega

private theorem isDigit_of_digit? {digit : Nat} (isDigit : digit? 10 character = some digit) :
    character.isDigit = true := by
  simp only [digit?, Option.filter_eq_some_iff] at isDigit
  obtain ⟨isNumber, small⟩ := isDigit
  split at isNumber
  · next decimal =>
    rw [isDigit_iff]
    simpa using decimal
  · split at isNumber
    · cases isNumber
      simp at small
    · cases isNumber

private theorem digit?_of_readDigits {base number size : Nat} {digits : List Char}
    (accepted : readDigits base number digits = .ok size) :
    ∀ character ∈ digits, ∃ digit, digit? base character = some digit := by
  induction digits generalizing number with
  | nil => simp
  | cons first others inductionHypothesis =>
    rw [readDigits] at accepted
    split at accepted
    · cases accepted
    · next digit isDigit =>
      simp only at accepted
      split at accepted
      · cases accepted
      · exact List.forall_mem_cons.mpr ⟨⟨digit, isDigit⟩, inductionHypothesis accepted⟩

/-! ## Negative literals -/

private theorem splitBase_cases (text : List Char) :
    (∃ mark digits, text = '0' :: mark :: digits ∧ mark ∈ ['x', 'b', 'o']) ∨
      splitBase text = (10, text) := by
  unfold splitBase
  split
  · exact Or.inl ⟨_, _, rfl, by decide⟩
  · exact Or.inl ⟨_, _, rfl, by decide⟩
  · exact Or.inl ⟨_, _, rfl, by decide⟩
  · exact Or.inr rfl

/-- What stands after the dash of a literal: a base mark, or nothing but decimal
digits and separators. -/
theorem negative_cases (accepted : read ('-' :: rest) = .ok value) :
    (∃ mark digits, (Text.trimEnd rest).map Char.toLower = '0' :: mark :: digits ∧
      mark ∈ ['x', 'b', 'o']) ∨
      Text.trimEnd rest ≠ [] ∧ ∀ character ∈ Text.trimEnd rest, isDecimal character = true := by
  rcases splitBase_cases ((Text.trimEnd rest).map Char.toLower) with marked | unmarked
  · exact Or.inl marked
  · refine Or.inr ?_
    have apart : parts ('-' :: rest) =
        ⟨true, 10, ((Text.trimEnd rest).map Char.toLower).filter (· != '_')⟩ := by
      rw [parts, Text.trim_cons (by decide), splitSign]
      simp only [unmarked]
    simp only [read, apart] at accepted
    split at accepted
    · cases accepted
    · next formed =>
      constructor
      · intro empty
        simp [empty] at formed
      · intro character inside
        apply isDecimal_of_toLower
        by_cases separator : character.toLower = '_'
        · simp [isDecimal, separator]
        · simp only [bind, Except.bind] at accepted
          split at accepted
          · cases accepted
          · next size isSize =>
            obtain ⟨digit, isDigit⟩ := digit?_of_readDigits isSize character.toLower
              (List.mem_filter.mpr ⟨List.mem_map_of_mem inside, by simpa using separator⟩)
            simp [isDecimal, isDigit_of_digit? isDigit]

/-- A literal goes on after its dash with a digit or a separator. -/
theorem negative_head (accepted : read ('-' :: rest) = .ok value) :
    ∃ first others, rest = first :: others ∧ isDecimal first = true := by
  obtain ⟨tail, whole⟩ := Text.trimEnd_prefix rest
  rcases negative_cases accepted with ⟨mark, digits, marked, _⟩ | ⟨nonempty, decimal⟩
  · obtain ⟨first, others, isTrimmed, isZero, _⟩ := List.map_eq_cons_iff.mp marked
    rw [isTrimmed] at whole
    refine ⟨first, others ++ tail, whole.symm, isDecimal_of_toLower ?_⟩
    rw [isZero]
    rfl
  · obtain ⟨first, others, isTrimmed⟩ := List.exists_cons_of_ne_nil nonempty
    rw [isTrimmed] at whole decimal
    exact ⟨first, others ++ tail, whole.symm, decimal first List.mem_cons_self⟩

end Literal

namespace CommandLine

variable {text : String} {rest : List Char} {value : Int}

/-! ## Numbers after a dash -/

/-- Whether a character may stand in a number after its sign. -/
def isNumeric (character : Char) : Bool :=
  character.isDigit || character == '.' || character == 'e'

private theorem isNumeric_of_dropWhile
    (others : ∀ character ∈ rest.dropWhile Char.isDigit, isNumeric character = true) :
    ∀ character ∈ rest, isNumeric character = true := by
  intro character inside
  rw [← List.takeWhile_append_dropWhile (p := Char.isDigit) (l := rest), List.mem_append] at inside
  rcases inside with digit | other
  · simp [isNumeric, List.mem_takeWhile_imp digit]
  · exact others character other

private theorem isNumeric_of_exponent
    (ends : (match rest with
      | [] => true
      | 'e' :: digits => !digits.isEmpty && digits.all Char.isDigit
      | _ => false) = true) :
    ∀ character ∈ rest, isNumeric character = true := by
  intro character inside
  split at ends
  · cases inside
  · simp only [Bool.and_eq_true, List.all_eq_true] at ends
    rcases List.mem_cons.mp inside with rfl | digit
    · rfl
    · simp [isNumeric, ends.2 character digit]
  · cases ends

/-- The digits of a number are those of the character class. -/
theorem digits_eq :
    (fun character : Char => decide ('0' ≤ character) && decide (character ≤ '9')) =
      Char.isDigit := rfl

/-- A decimal number has numeric characters only. -/
theorem isNumeric_of_isNumber (number : isNumber rest = true) :
    ∀ character ∈ rest, isNumeric character = true := by
  simp only [isNumber, digits_eq, Bool.and_eq_true] at number
  have tail := isNumeric_of_exponent number.2
  apply isNumeric_of_dropWhile
  split at tail
  · next point =>
    rw [point]
    exact List.forall_mem_cons.mpr ⟨rfl, isNumeric_of_dropWhile tail⟩
  · exact tail

private theorem isNumber_of_digits (nonempty : rest ≠ []) (digits : rest.all Char.isDigit = true) :
    isNumber rest = true := by
  have all := List.all_eq_true.mp digits
  have taken : rest.takeWhile Char.isDigit = rest := List.takeWhile_eq_self_iff.mpr all
  have dropped : rest.dropWhile Char.isDigit = [] := List.dropWhile_eq_nil_iff.mpr all
  simp only [isNumber, digits_eq, taken, dropped]
  simpa using nonempty

/-- No mark of a base can stand in a number. -/
theorem not_isNumeric_of_mark {character mark : Char} (isMark : mark ∈ ['x', 'b', 'o'])
    (lower : character.toLower = mark) : isNumeric character = false := by
  rcases Literal.toLower_cases character with same | ⟨least, greatest, _⟩
  · simp only [List.mem_cons, List.not_mem_nil, or_false] at isMark
    rw [← same, lower]
    rcases isMark with rfl | rfl | rfl <;> rfl
  · by_contra numeric
    simp only [isNumeric, Bool.not_eq_false, Bool.or_eq_true, beq_iff_eq, Literal.isDigit_iff]
      at numeric
    rcases numeric with (digit | rfl) | rfl
    · omega
    · exact absurd least (by decide)
    · exact absurd greatest (by decide)

private theorem isBlank_of_isNumeric {character : Char} (numeric : isNumeric character = true) :
    Text.isBlank character = false := by
  simp only [isNumeric, Bool.or_eq_true, beq_iff_eq, Literal.isDigit_iff] at numeric
  rcases numeric with (digit | rfl) | rfl
  · by_contra blank
    simp only [Text.isBlank, Bool.not_eq_false, Bool.or_eq_true, Bool.and_eq_true,
      decide_eq_true_eq, beq_iff_eq] at blank
    omega
  · rfl
  · rfl

/-- After the dash of a literal, a number is the same as digits alone. -/
theorem isNumber_iff (accepted : Literal.read ('-' :: rest) = .ok value) :
    isNumber rest = true ↔ rest.all Char.isDigit = true := by
  obtain ⟨first, others, isRest, _⟩ := Literal.negative_head accepted
  constructor
  · intro number
    have numeric := isNumeric_of_isNumber number
    rcases Literal.negative_cases accepted with ⟨mark, digits, marked, isMark⟩ | ⟨_, decimal⟩
    · obtain ⟨zero, trimmed, isTrimmed, _, marked⟩ := List.map_eq_cons_iff.mp marked
      obtain ⟨second, _, rfl, lower, _⟩ := List.map_eq_cons_iff.mp marked
      have inside : second ∈ rest :=
        (Text.trimEnd_prefix rest).subset (by simp [isTrimmed])
      have here := numeric second inside
      rw [not_isNumeric_of_mark isMark lower] at here
      cases here
    · rw [List.all_eq_true]
      intro character inside
      have here := numeric character inside
      have kept := decimal character (Text.mem_trimEnd inside (isBlank_of_isNumeric here))
      simp only [Literal.isDecimal, Bool.or_eq_true, beq_iff_eq] at kept
      rcases kept with digit | rfl
      · exact digit
      · cases here
  · exact isNumber_of_digits (by simp [isRest])

/-! ## Literals among the arguments -/

/-- Whether a literal can stand on the command line as it is: a dash in front of
it is followed by decimal digits alone. -/
def isGivable (text : String) : Bool :=
  match text.toList with
  | '-' :: rest => rest.all Char.isDigit
  | _ => true

private theorem ofLetter?_of_isDecimal (level : Level) {letter : Char}
    (decimal : Literal.isDecimal letter = true) : level.ofLetter? letter = none := by
  simp only [Level.ofLetter?, List.find?_eq_none, beq_iff_eq]
  intro switch _ same
  cases switch <;> cases same <;> cases decimal

private theorem shapeOf_dash {first : Char} {others : List Char}
    (isText : text.toList = '-' :: first :: others) (notDash : first ≠ '-') :
    shapeOf text = .letters (first :: others) := by
  unfold shapeOf
  rw [isText]
  split
  · next same =>
    cases same
    exact absurd rfl notDash
  · next same =>
    cases same
    exact absurd rfl notDash
  · next same => cases same
  · next same =>
    cases same
    rfl
  · next other => exact absurd rfl (other _)

private theorem shapeOf_plain (undashed : ∀ rest, text.toList ≠ '-' :: rest) :
    shapeOf text = .plain := by
  unfold shapeOf
  split
  · next same => exact absurd same (undashed _)
  · next same => exact absurd same (undashed _)
  · rfl
  · next same => exact absurd same (undashed _)
  · rfl

/-- A literal is a value, or its dash is taken for that of an unknown switch. -/
theorem add_literal {draft : Draft} (takes : draft.verb.takesValues = true)
    (isOpen : draft.onlyValues = false) (accepted : Literal.ofString text = .ok value) :
    draft.add text =
      if isGivable text then draft.addValue text else .error (.wrong .unknownArgument) := by
  rw [Literal.ofString] at accepted
  by_cases dashed : ∃ rest, text.toList = '-' :: rest
  · obtain ⟨rest, isText⟩ := dashed
    rw [isText] at accepted
    obtain ⟨first, others, rfl, decimal⟩ := Literal.negative_head accepted
    have isShape : shapeOf text = .letters (first :: others) := by
      refine shapeOf_dash isText ?_
      rintro rfl
      cases decimal
    -- A point or an exponent would make a number too, but no literal has them.
    have sameTest : isGivable text = isNumber (first :: others) := by
      rw [Bool.eq_iff_iff, isNumber_iff accepted]
      simp only [isGivable, isText]
    have unknown : draft.addLetters (first :: others) = .error (.wrong .unknownArgument) := by
      rw [Draft.addLetters, ofLetter?_of_isDecimal _ decimal]
    simp only [Draft.add, isOpen, Bool.false_eq_true, if_false, isShape, takes, Bool.true_and,
      sameTest, unknown]
  · rw [not_exists] at dashed
    have givable : isGivable text = true := by
      unfold isGivable
      split
      · next isText => exact absurd isText (dashed _)
      · rfl
    simp only [Draft.add, isOpen, Bool.false_eq_true, if_false, shapeOf_plain dashed, givable,
      if_true]

/-- What is pending once these values have come. -/
def collected : List String → Pending
  | [] => .nothing
  | texts => .operands texts

/-- One more value is collected with those before it. -/
theorem addValue_collected {verb : Verb} (takes : verb.takesValues = true) (front : List String)
    (text : String) :
    Draft.addValue { verb, pending := collected front } text =
      .ok { verb, pending := collected (front ++ [text]) } := by
  cases front with
  | nil =>
    simp only [Draft.addValue, collected, Draft.addOperand, takes, if_true]
    rfl
  | cons first others => simp [Draft.addValue, collected, Draft.addOperand, takes]

/-- Literals are collected one after the other, up to the first that cannot be
given. -/
theorem foldlM_add_literals {verb : Verb} (takes : verb.takesValues = true) {texts : List String}
    (front : List String)
    (accepted : ∀ text ∈ texts, ∃ value, Literal.ofString text = .ok value) :
    texts.foldlM Draft.add { verb, pending := collected front } =
      if texts.all isGivable then .ok { verb, pending := collected (front ++ texts) }
      else .error (.wrong .unknownArgument) := by
  induction texts generalizing front with
  | nil =>
    rw [List.append_nil]
    rfl
  | cons text others inductionHypothesis =>
    obtain ⟨value, isValue⟩ := accepted text List.mem_cons_self
    have rest := inductionHypothesis (front ++ [text]) fun other inside =>
      accepted other (List.mem_cons_of_mem _ inside)
    rw [List.foldlM_cons, add_literal takes rfl isValue, addValue_collected takes, List.all_cons]
    by_cases givable : isGivable text = true
    · simp only [givable, if_true, Bool.true_and]
      rw [List.append_assoc] at rest
      exact rest
    · simp only [givable, Bool.false_and]
      rfl

/-- Literals that are accepted become the values of a draft, in order. -/
theorem foldlM_takeOperand_literals {draft : Draft} (takes : draft.verb.takesValues = true)
    {texts : List String} {values : List Int}
    (accepted : texts.map Literal.ofString = values.map .ok) :
    texts.foldlM Draft.takeOperand draft = .ok { draft with values := draft.values ++ values } := by
  induction texts generalizing draft values with
  | nil =>
    cases values with
    | nil =>
      rw [List.append_nil]
      rfl
    | cons value others => cases accepted
  | cons text others inductionHypothesis =>
    cases values with
    | nil => cases accepted
    | cons value values =>
      simp only [List.map_cons, List.cons.injEq] at accepted
      have one : draft.takeOperand text = .ok { draft with values := draft.values ++ [value] } := by
        simp only [Draft.takeOperand, takes, if_true, accepted.1]
      have rest := @inductionHypothesis { draft with values := draft.values ++ [value] } takes
        values accepted.2
      rw [List.append_assoc] at rest
      rw [List.foldlM_cons, one]
      exact rest

/-- A draft that has collected literals settles to one that has their values. -/
theorem settle_collected {verb : Verb} (takes : verb.takesValues = true) {texts : List String}
    {values : List Int} (accepted : texts.map Literal.ofString = values.map .ok) :
    Draft.settle { verb, pending := collected texts } = .ok { verb, values } := by
  cases texts with
  | nil =>
    cases values with
    | nil => rfl
    | cons value others => cases accepted
  | cons text others =>
    exact @foldlM_takeOperand_literals { verb } takes _ _ accepted

/-! ## Whole command lines -/

/-- No name of a domain starts with a dash. -/
theorem shapeOf_typeName {domain : Domain} (supported : Domain.ofName? text = some domain) :
    shapeOf text = .plain := by
  refine shapeOf_plain fun rest isText => ?_
  have bare : Domain.dropQualifier (Text.trim text.toList) = '-' :: Text.trimEnd rest := by
    rw [isText, Text.trim_cons (by decide)]
    rfl
  have spelled := List.find?_some supported
  simp only [bare, List.contains_iff_mem] at spelled
  have dashless : ∀ domain : Domain, ∀ spelling ∈ domain.spellings,
      spelling.toList.head? ≠ some '-' := by
    intro domain
    cases domain <;> decide
  exact dashless domain _ spelled (by simp)

/-- No name of a policy starts with a dash. -/
theorem shapeOf_policyName {policy : Policy} (known : Policy.ofArgument? false text = some policy) :
    shapeOf text = .plain := by
  have named := List.find?_some known
  simp only [Policy.sameText, Bool.false_eq_true, if_false, Bool.or_eq_true, beq_iff_eq] at named
  rcases named with rfl | rfl <;> cases policy <;> decide

section Whole

variable {verb : Verb} {texts tail : List String} {values : List Int}
  {typeName policyName : String} {domain : Domain} {policy : Policy}

/-- A command line of literals is read up to its first switch, or refused. -/
theorem readCommand_literals (takes : verb.takesValues = true)
    (accepted : texts.map Literal.ofString = values.map .ok) :
    readCommand verb (texts ++ tail) =
      if texts.all isGivable then
        tail.foldlM Draft.add { verb, pending := collected texts } >>= Draft.request
      else .error (.wrong .unknownArgument) := by
  have each : ∀ text ∈ texts, ∃ value, Literal.ofString text = .ok value := by
    intro text inside
    have listed : Literal.ofString text ∈ values.map .ok :=
      accepted ▸ List.mem_map_of_mem inside
    obtain ⟨value, _, isValue⟩ := List.mem_map.mp listed
    exact ⟨value, isValue.symm⟩
  have collects := foldlM_add_literals takes [] each
  rw [List.nil_append] at collects
  rw [readCommand, List.foldlM_append, bind_assoc]
  change texts.foldlM Draft.add { verb, pending := collected [] } >>= _ = _
  rw [collects]
  split <;> rfl

/-- The values of `list` are read exactly if each of its texts can be given. -/
theorem read_list (accepted : texts.map Literal.ofString = values.map .ok)
    (supported : Domain.ofName? typeName = some domain) :
    read ("list" :: (texts ++ ["--domain", typeName])) =
      if texts.all isGivable then .ok (.list values { domain := some domain })
      else .error (.wrong .unknownArgument) := by
  have begins : read ("list" :: (texts ++ ["--domain", typeName])) =
      readCommand .list (texts ++ ["--domain", typeName]) := rfl
  have settled := @settle_collected .list rfl _ _ accepted
  have given := @Draft.foldlM_add_valued _ _ .domain _ "--domain" rfl settled rfl rfl rfl
    (shapeOf_typeName supported)
  rw [begins, readCommand_literals rfl accepted]
  split
  · rw [given]
    simp only [bind, Except.bind, Draft.request, Draft.settle, Draft.setValue, supported]
    rfl
  · rfl

/-- The values of `next` are read exactly if each of its texts can be given. -/
theorem read_next (accepted : texts.map Literal.ofString = values.map .ok)
    (supported : Domain.ofName? typeName = some domain)
    (known : Policy.ofArgument? false policyName = some policy) :
    read ("next" :: (texts ++ ["--domain", typeName, "--policy", policyName])) =
      if texts.all isGivable then
        .ok (.next values { domain := some domain, policy := some policy })
      else .error (.wrong .unknownArgument) := by
  have begins : read ("next" :: (texts ++ ["--domain", typeName, "--policy", policyName])) =
      readCommand .next (texts ++ ["--domain", typeName, "--policy", policyName]) := rfl
  have settled := @settle_collected .next rfl _ _ accepted
  have given := @Draft.foldlM_add_valued _ _ .domain _ "--domain" rfl settled rfl rfl rfl
    (shapeOf_typeName supported)
  have settledAgain :
      Draft.settle { verb := .next, values, pending := .ofSwitch .domain (some typeName) } =
        .ok
          { verb := .next, values, given := [.domain], options := { domain := some domain } } := by
    simp only [Draft.settle, Draft.setValue, supported]
    rfl
  have givenAgain := @Draft.foldlM_add_valued _ _ .policy _ "--policy" rfl settledAgain rfl rfl rfl
    (shapeOf_policyName known)
  have apart : ["--domain", typeName, "--policy", policyName] =
      ["--domain", typeName] ++ ["--policy", policyName] := rfl
  rw [begins, readCommand_literals rfl accepted]
  split
  · rw [apart, List.foldlM_append, given]
    simp only [bind, Except.bind, givenAgain, Draft.request, Draft.settle, Draft.setValue, known]
    rfl
  · rfl

end Whole

end CommandLine

namespace Program

open CommandLine

/-- Accepted literals on the command line are the integers that they denote, if
each of them can be given as it is; otherwise the first that cannot be is
refused as an unknown argument. -/
theorem run_literals (disk : Disk) (color : Bool) {texts : List String} {values : List Int}
    {typeName policyName : String} {domain : Domain} {policy : Policy}
    (accepted : texts.map Literal.ofString = values.map .ok)
    (supported : Domain.ofName? typeName = some domain)
    (known : Policy.ofArgument? false policyName = some policy) :
    let format : Format :=
      { hex := (Settings.search disk Settings.here).settings.hex.getD false, color }
    run disk color ("next" :: (texts ++ ["--domain", typeName, "--policy", policyName])) =
        (if texts.all isGivable then .reported (Report.next values domain policy format)
        else .refused .unknownArgument) ∧
      run disk color ("list" :: (texts ++ ["--domain", typeName])) =
        (if texts.all isGivable then .reported (Report.list values domain format)
        else .refused .unknownArgument) := by
  intro format
  constructor
  · rw [run, read_next accepted supported known]
    cases texts.all isGivable <;> rfl
  · rw [run, read_list accepted supported]
    cases texts.all isGivable <;> rfl

/-- Signs, marks, separators and blanks in forms that can all be given. -/
theorem run_literals_mixed :
    let texts := ["-8", "0X1f", "+7", "\t-0b1_1 ", "1_024"]
    run (fun _ => .nothing) false
        ("next" :: (texts ++ ["--domain", " System.Byte", "--policy", "highest"])) =
        .reported (Report.next [-8, 31, 7, -3, 1024] .byte .aboveHighest {}) ∧
      run (fun _ => .nothing) false ("list" :: (texts ++ ["--domain", " System.Byte"])) =
        .reported (Report.list [-8, 31, 7, -3, 1024] .byte {}) := by
  intro texts
  exact run_literals (fun _ => .nothing) false rfl rfl rfl

/-- A negative literal in hexadecimal denotes an integer beside which there is a
value to offer, but it is refused as an argument. -/
theorem run_negative_hexadecimal :
    Literal.ofString "-0x80" = .ok (-128) ∧
      Report.next [-128] .int .lowestFree {} = { produced := true, out := "1\n" } ∧
      run (fun _ => .nothing) false
        ["next", "-0x80", "--domain", "int", "--policy", "use-all-available-values"] =
        .refused .unknownArgument := by
  refine ⟨rfl, by decide, rfl⟩

end Program

end FlagEnum
