import FlagEnum.Proofs.Scanning

/-!
# One value for one text

A text spells at most one JSON value, and where more text follows it is clear
where the value ends. The scanners are functions, so the marks inside arrays and
objects can be taken off two readings of one text at once.
-/

namespace FlagEnum.Json

/-! ## The form of a value -/

/-- The forms of values that their texts tell apart at the first character. -/
inductive Form where
  | truth
  | number
  | text
  | array
  | object
deriving DecidableEq

/-- The form of a value. -/
def form : Json → Form
  | .boolean _ => .truth
  | .integer _ => .number
  | .string _ => .text
  | .array _ => .array
  | .object _ => .object

/-- The form of the values whose texts start with a character. -/
def formOf (character : Char) : Form :=
  if character = '\x22' then .text
  else if character = '[' then .array
  else if character = '\x7b' then .object
  else if character = 't' || character = 'f' then .truth
  else .number

private theorem formOf_digit {digit : Char} (isDigit : isDecimalDigit digit = true) :
    formOf digit = .number := by
  have differs : ∀ other, isDecimalDigit other = false → digit ≠ other := fun other =>
    ne_of_isDecimalDigit isDigit
  simp [formOf, differs '\x22' rfl, differs '[' rfl, differs '\x7b' rfl, differs 't' rfl,
    differs 'f' rfl]

private theorem Spells.head_form {value : Json} {text : List Char} (spells : Spells value text) :
    ∃ character rest, text = character :: rest ∧ formOf character = value.form := by
  cases spells with
  | boolean value => cases value <;> exact ⟨_, _, rfl, rfl⟩
  | integer value =>
    unfold decimal
    split
    · exact ⟨'-', _, rfl, rfl⟩
    · obtain ⟨digit, others, isText, isDigit⟩ := decimalDigits_cons value.natAbs
      exact ⟨digit, others, isText, formOf_digit isDigit⟩
  | string value => exact ⟨_, _, rfl, rfl⟩
  | array inside => exact ⟨_, _, rfl, rfl⟩
  | object inside => exact ⟨_, _, rfl, rfl⟩

private theorem form_eq_of_append {left right : Json}
    {leftText rightText leftRest rightRest : List Char}
    (leftSpells : Spells left leftText) (rightSpells : Spells right rightText)
    (same : leftText ++ leftRest = rightText ++ rightRest) : left.form = right.form := by
  obtain ⟨leftHead, _, rfl, leftForm⟩ := leftSpells.head_form
  obtain ⟨rightHead, _, rfl, rightForm⟩ := rightSpells.head_form
  rw [List.cons_append, List.cons_append, List.cons.injEq] at same
  rw [← leftForm, ← rightForm, same.1]

/-! ## Values that are no brackets -/

section Simple

variable {leftRest rightRest : List Char}

private theorem truth_unique {left right : Bool}
    (same : truth left ++ leftRest = truth right ++ rightRest) :
    left = right ∧ leftRest = rightRest := by
  cases left <;> cases right <;> simp [truth] at same ⊢ <;> exact same

private theorem decimalDigits_unique {left right : Nat} (leftEnds : Ends leftRest)
    (rightEnds : Ends rightRest)
    (same : decimalDigits left ++ leftRest = decimalDigits right ++ rightRest) :
    left = right ∧ leftRest = rightRest := by
  obtain ⟨leftTaken, leftDropped⟩ := takeWhile_decimalDigits left leftEnds
  obtain ⟨rightTaken, rightDropped⟩ := takeWhile_decimalDigits right rightEnds
  rw [same, rightTaken] at leftTaken
  rw [same, rightDropped] at leftDropped
  refine ⟨?_, leftDropped.symm⟩
  rw [← digitsValue_decimalDigits left, ← leftTaken, digitsValue_decimalDigits]

private theorem decimal_unique {left right : Int} (leftEnds : Ends leftRest)
    (rightEnds : Ends rightRest) (same : decimal left ++ leftRest = decimal right ++ rightRest) :
    left = right ∧ leftRest = rightRest := by
  -- A dash is no digit, so both are negative or none is.
  have dashed : ∀ (number : Nat) (front back : List Char),
      '-' :: front ≠ decimalDigits number ++ back := by
    intro number front back equal
    obtain ⟨digit, others, isText, isDigit⟩ := decimalDigits_cons number
    rw [isText] at equal
    cases equal
    cases isDigit
  unfold decimal at same
  split at same <;> split at same
  · rw [List.cons_append, List.cons_append, List.cons.injEq] at same
    obtain ⟨size, rests⟩ := decimalDigits_unique leftEnds rightEnds same.2
    exact ⟨by omega, rests⟩
  · exact absurd same (dashed _ _ _)
  · exact absurd same.symm (dashed _ _ _)
  · obtain ⟨size, rests⟩ := decimalDigits_unique leftEnds rightEnds same
    exact ⟨by omega, rests⟩

private theorem quoted_unique {left right : String}
    (same : quoted left ++ leftRest = quoted right ++ rightRest) :
    left = right ∧ leftRest = rightRest := by
  have leftRead := quotedText_escaped left leftRest
  have rightRead := quotedText_escaped right rightRest
  simp only [quoted, List.cons_append, List.append_assoc, List.cons.injEq, true_and,
    List.nil_append] at same
  rw [same, rightRead] at leftRead
  cases leftRead
  exact ⟨rfl, rfl⟩

end Simple

/-! ## Arrays and objects -/

/-- Two texts in front of equal texts spell the value and another one only if
the values, and what follows them, are the same. -/
def Unambiguous (value : Json) : Prop :=
  ∀ other text otherText rest otherRest, Spells value text → Spells other otherText →
    Ends rest → Ends otherRest → text ++ rest = otherText ++ otherRest →
    value = other ∧ rest = otherRest

private theorem items_unambiguous {items others : List Json} {first : Bool}
    {text otherText rest otherRest : List Char} (each : ∀ item ∈ items, Unambiguous item)
    (spells : SpellsItems first items text) (otherSpells : SpellsItems first others otherText)
    (same : text ++ ']' :: rest = otherText ++ ']' :: otherRest) :
    items = others ∧ rest = otherRest := by
  induction items generalizing first others text otherText with
  | nil =>
    cases spells with
    | none isBlank =>
      have ended := nextElement_end first isBlank rest
      rw [same] at ended
      cases otherSpells with
      | none isOtherBlank =>
        have closed := closeList_end isBlank rest
        rw [same, closeList_end isOtherBlank] at closed
        cases closed
        exact ⟨rfl, rfl⟩
      | next separates here further =>
        rw [List.append_assoc, List.append_assoc,
          nextElement_item separates (here.opens.append _)] at ended
        cases ended
  | cons item items inductionHypothesis =>
    cases spells with
    | @next _ _ _ mark itemText tail separates here further =>
      have begun := nextElement_item separates (here.opens.append (tail ++ ']' :: rest))
      rw [← List.append_assoc, ← List.append_assoc, same] at begun
      cases otherSpells with
      | none isOtherBlank =>
        rw [nextElement_end first isOtherBlank] at begun
        cases begun
      | next otherSeparates otherHere otherFurther =>
        rw [List.append_assoc, List.append_assoc,
          nextElement_item otherSeparates (otherHere.opens.append _)] at begun
        simp only [Except.ok.injEq, Option.some.injEq] at begun
        obtain ⟨rfl, sameTail⟩ := each item List.mem_cons_self _ _ _ _ _ here otherHere
          (further.ends rest) (otherFurther.ends otherRest) begun.symm
        obtain ⟨rfl, sameRest⟩ := inductionHypothesis
          (fun one inside => each one (List.mem_cons_of_mem _ inside)) further otherFurther sameTail
        exact ⟨rfl, sameRest⟩

private theorem quoted_append (key : String) (rest : List Char) :
    quoted key ++ rest = '\x22' :: (key.toList.flatMap escape ++ '\x22' :: rest) := by
  simp [quoted]

private theorem dropSpace_opens {blank text : List Char} (isBlank : Blank blank)
    (opens : Opens text) :
    dropSpace (blank ++ text) = text := by
  obtain ⟨character, rest, rfl, token, _, _⟩ := opens
  exact dropSpace_token isBlank token rest

/-- The key of a field and what starts with its value. -/
theorem field_unique {first : Bool} {key otherKey : String}
    {mark before after tail otherMark otherBefore otherAfter otherTail : List Char}
    (separates : Separates first mark) (isBefore : Blank before) (isAfter : Blank after)
    (opens : Opens tail) (otherSeparates : Separates first otherMark)
    (isOtherBefore : Blank otherBefore) (isOtherAfter : Blank otherAfter)
    (otherOpens : Opens otherTail)
    (same : mark ++ (quoted key ++ (before ++ ':' :: (after ++ tail))) =
      otherMark ++ (quoted otherKey ++ (otherBefore ++ ':' :: (otherAfter ++ otherTail)))) :
    key = otherKey ∧ tail = otherTail := by
  rw [quoted_append, quoted_append] at same
  have begun := nextEntry_key separates
    (key.toList.flatMap escape ++ '\x22' :: (before ++ ':' :: (after ++ tail)))
  rw [same, nextEntry_key otherSeparates, Except.ok.injEq, Entry.key.injEq] at begun
  have named := quotedText_escaped key (before ++ ':' :: (after ++ tail))
  rw [← begun, quotedText_escaped, Except.ok.injEq, Prod.mk.injEq] at named
  have passed := colon_blank isBefore (after ++ tail)
  rw [← named.2, colon_blank isOtherBefore, Except.ok.injEq] at passed
  refine ⟨named.1.symm, ?_⟩
  rw [← dropSpace_opens isAfter opens, ← passed, dropSpace_opens isOtherAfter otherOpens]

private theorem fields_unambiguous {fields others : List (String × Json)} {first : Bool}
    {text otherText rest otherRest : List Char} (each : ∀ field ∈ fields, Unambiguous field.2)
    (spells : SpellsFields first fields text) (otherSpells : SpellsFields first others otherText)
    (same : text ++ '\x7d' :: rest = otherText ++ '\x7d' :: otherRest) :
    fields = others ∧ rest = otherRest := by
  induction fields generalizing first others text otherText with
  | nil =>
    cases spells with
    | none isBlank =>
      have ended := nextEntry_end first isBlank rest
      rw [same] at ended
      cases otherSpells with
      | none isOtherBlank =>
        rw [nextEntry_end first isOtherBlank] at ended
        cases ended
        exact ⟨rfl, rfl⟩
      | next separates _ _ _ _ =>
        simp only [List.append_assoc, List.cons_append, quoted_append, nextEntry_key separates]
          at ended
        cases ended
  | cons field fields inductionHypothesis =>
    cases spells with
    | @next _ key value _ mark before after valueText tail separates isBefore isAfter here
        further =>
      cases otherSpells with
      | none isOtherBlank =>
        have ended := nextEntry_end first isOtherBlank otherRest
        rw [← same] at ended
        simp only [List.append_assoc, List.cons_append, quoted_append, nextEntry_key separates]
          at ended
        cases ended
      | next otherSeparates isOtherBefore isOtherAfter otherHere otherFurther =>
        simp only [List.append_assoc, List.cons_append] at same
        obtain ⟨rfl, sameValue⟩ := field_unique separates isBefore isAfter (here.opens.append _)
          otherSeparates isOtherBefore isOtherAfter (otherHere.opens.append _) same
        obtain ⟨rfl, sameTail⟩ := each (key, value) List.mem_cons_self _ _ _ _ _ here otherHere
          (further.ends rest) (otherFurther.ends otherRest) sameValue
        obtain ⟨rfl, sameRest⟩ := inductionHypothesis
          (fun one inside => each one (List.mem_cons_of_mem _ inside)) further otherFurther sameTail
        exact ⟨rfl, sameRest⟩

private theorem unambiguous (value : Json) : Unambiguous value := by
  induction value using induct with
  | boolean value =>
    intro other text otherText rest otherRest spells otherSpells _ _ same
    have sameForm := form_eq_of_append spells otherSpells same
    cases spells
    cases otherSpells <;> cases sameForm
    obtain ⟨rfl, sameRest⟩ := truth_unique same
    exact ⟨rfl, sameRest⟩
  | integer value =>
    intro other text otherText rest otherRest spells otherSpells ends otherEnds same
    have sameForm := form_eq_of_append spells otherSpells same
    cases spells
    cases otherSpells <;> cases sameForm
    obtain ⟨rfl, sameRest⟩ := decimal_unique ends otherEnds same
    exact ⟨rfl, sameRest⟩
  | string value =>
    intro other text otherText rest otherRest spells otherSpells _ _ same
    have sameForm := form_eq_of_append spells otherSpells same
    cases spells
    cases otherSpells <;> cases sameForm
    obtain ⟨rfl, sameRest⟩ := quoted_unique same
    exact ⟨rfl, sameRest⟩
  | array items inductionHypothesis =>
    intro other text otherText rest otherRest spells otherSpells _ _ same
    have sameForm := form_eq_of_append spells otherSpells same
    cases spells with
    | array inside =>
      cases otherSpells <;> cases sameForm
      next otherInside =>
        simp only [List.cons_append, List.append_assoc, List.nil_append, List.cons.injEq, true_and]
          at same
        obtain ⟨rfl, sameRest⟩ := items_unambiguous inductionHypothesis inside otherInside same
        exact ⟨rfl, sameRest⟩
  | object fields inductionHypothesis =>
    intro other text otherText rest otherRest spells otherSpells _ _ same
    have sameForm := form_eq_of_append spells otherSpells same
    cases spells with
    | object inside =>
      cases otherSpells <;> cases sameForm
      next otherInside =>
        simp only [List.cons_append, List.append_assoc, List.nil_append, List.cons.injEq, true_and]
          at same
        obtain ⟨rfl, sameRest⟩ := fields_unambiguous inductionHypothesis inside otherInside same
        exact ⟨rfl, sameRest⟩

/-- A text spells at most one value. -/
theorem Spells.unique {left right : Json} {text : List Char} (leftSpells : Spells left text)
    (rightSpells : Spells right text) : left = right :=
  (unambiguous left right text text [] [] leftSpells rightSpells ends_nil ends_nil rfl).1

end FlagEnum.Json
