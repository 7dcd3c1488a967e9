import FlagEnum.Json.Mismatch
import FlagEnum.Proofs.Spelling

/-!
# Scanning spellings back

What the scanners do on the texts of a value: they pass over blanks and marks,
give quoted texts and digits back as they were, and the two loops read an array
item by item and an object field by field.
-/

namespace FlagEnum.Json

variable {blank rest : List Char}

/-! ## Blanks and marks -/

/-- Blanks are skipped. -/
theorem dropSpace_blank (isBlank : Blank blank) (rest : List Char) :
    dropSpace (blank ++ rest) = dropSpace rest := by
  rw [dropSpace, List.dropWhile_append_of_pos isBlank, dropSpace]

/-- Nothing else is skipped. -/
theorem dropSpace_cons {character : Char} (token : isSpace character = false) (rest : List Char) :
    dropSpace (character :: rest) = character :: rest := by
  rw [dropSpace, List.dropWhile_cons_of_neg (by simp [token])]

/-- Moving to a token past blanks. -/
theorem dropSpace_token {character : Char} (isBlank : Blank blank)
    (token : isSpace character = false) (rest : List Char) :
    dropSpace (blank ++ character :: rest) = character :: rest := by
  rw [dropSpace_blank isBlank, dropSpace_cons token]

/-- A bracket ends the elements, after any blanks. -/
theorem nextElement_end (first : Bool) (isBlank : Blank blank) (rest : List Char) :
    nextElement first (blank ++ ']' :: rest) = .ok none := by
  rw [nextElement, dropSpace_token isBlank rfl]
  rfl

/-- The bracket at the end of a list is taken. -/
theorem closeList_end (isBlank : Blank blank) (rest : List Char) :
    closeList (blank ++ ']' :: rest) = .ok rest := by
  rw [closeList, dropSpace_token isBlank rfl]
  rfl

/-- A brace ends the entries, after any blanks. -/
theorem nextEntry_end (first : Bool) (isBlank : Blank blank) (rest : List Char) :
    nextEntry first (blank ++ '\x7d' :: rest) = .ok (.closed rest) := by
  rw [nextEntry, dropSpace_token isBlank rfl]
  rfl

/-- The colon after a key is taken, with the blanks before it. -/
theorem colon_blank (isBlank : Blank blank) (rest : List Char) :
    colon (blank ++ ':' :: rest) = .ok rest := by
  rw [colon, dropSpace_token isBlank rfl]
  rfl

/-- A quote after the mark between entries opens a key. -/
theorem nextEntry_key {first : Bool} {mark : List Char} (separates : Separates first mark)
    (rest : List Char) : nextEntry first (mark ++ '\x22' :: rest) = .ok (.key rest) := by
  cases separates with
  | first isBlank =>
    rw [nextEntry, dropSpace_token isBlank rfl]
    rfl
  | later isBlankBefore isBlankAfter =>
    rw [List.append_assoc, List.cons_append, nextEntry, dropSpace_token isBlankBefore rfl]
    simp only [Bool.false_eq_true, if_false]
    rw [dropSpace_token isBlankAfter rfl]
    rfl

/-- A text starts with the first character of a value. -/
def Opens (text : List Char) : Prop :=
  ∃ character rest, text = character :: rest ∧ isSpace character = false ∧
    character ≠ ']' ∧ character ≠ ','

/-- A value after the mark between elements is the next element. -/
theorem nextElement_item {first : Bool} {mark text : List Char} (separates : Separates first mark)
    (opens : Opens text) : nextElement first (mark ++ text) = .ok (some text) := by
  obtain ⟨character, rest, rfl, token, notBracket, notComma⟩ := opens
  cases separates with
  | first isBlank =>
    rw [nextElement, dropSpace_token isBlank token]
    split <;> simp_all
  | later isBlankBefore isBlankAfter =>
    rw [List.append_assoc, List.cons_append, nextElement, dropSpace_token isBlankBefore rfl]
    simp only [Bool.false_eq_true, if_false]
    rw [dropSpace_token isBlankAfter token]
    split <;> simp_all

/-! ## Quoted texts -/

private theorem textFrom_control (code : Fin 0x20) (scanned rest : List Char) :
    textFrom .plain scanned (escape (Char.ofNat code) ++ rest) =
      textFrom .plain (Char.ofNat code :: scanned) rest := by
  fin_cases code <;> rfl

/-- The escape of a character gives the character back. -/
theorem textFrom_escape (character : Char) (scanned rest : List Char) :
    textFrom .plain scanned (escape character ++ rest) =
      textFrom .plain (character :: scanned) rest := by
  have same : Char.ofNat character.toNat = character := Char.ofNat_toNat character
  by_cases isControl : character.toNat < 0x20
  · rw [← same]
    exact textFrom_control ⟨character.toNat, isControl⟩ scanned rest
  by_cases isQuote : character.toNat = 0x22
  · rw [← same, isQuote]
    rfl
  by_cases isBackslash : character.toNat = 0x5C
  · rw [← same, isBackslash]
    rfl
  have isPlain : escape character = [character] := by
    simp only [escape]
    repeat rw [if_neg (by omega)]
  have notQuote : character ≠ '\x22' := fun equal => isQuote (by rw [equal]; rfl)
  have notBackslash : character ≠ '\x5c' := fun equal => isBackslash (by rw [equal]; rfl)
  rw [isPlain, List.singleton_append, textFrom, if_neg notQuote, if_neg notBackslash,
    if_neg isControl]

private theorem textFrom_escaped (characters scanned rest : List Char) :
    textFrom .plain scanned (characters.flatMap escape ++ '\x22' :: rest) =
      .ok (scanned.reverse ++ characters, rest) := by
  induction characters generalizing scanned with
  | nil => simp [textFrom]
  | cons character others inductionHypothesis =>
    rw [List.flatMap_cons, List.append_assoc, textFrom_escape, inductionHypothesis]
    simp

/-- An escaped text is read back up to its closing quote. -/
theorem quotedText_escaped (text : String) (rest : List Char) :
    quotedText (text.toList.flatMap escape ++ '\x22' :: rest) = .ok (text, rest) := by
  rw [quotedText, textFrom_escaped]
  simp [bind, Except.bind, pure, Except.pure]

/-! ## Digits -/

/-- A text at which the digits before it end. -/
def Ends (text : List Char) : Prop :=
  ∀ character ∈ text.head?, isDecimalDigit character = false

private theorem isDecimalDigit_of_mem {number : Nat} {digit : Char}
    (inside : digit ∈ decimalDigits number) : isDecimalDigit digit = true :=
  Nat.isDigit_of_mem_toDigits (by decide) (by decide) inside

/-- The digits of a number are taken where digits end after them. -/
theorem takeWhile_decimalDigits (number : Nat) (ends : Ends rest) :
    (decimalDigits number ++ rest).takeWhile isDecimalDigit = decimalDigits number ∧
      (decimalDigits number ++ rest).dropWhile isDecimalDigit = rest := by
  have digits : ∀ digit ∈ decimalDigits number, isDecimalDigit digit = true :=
    fun _ inside => isDecimalDigit_of_mem inside
  rw [List.takeWhile_append_of_pos digits, List.dropWhile_append_of_pos digits]
  cases rest with
  | nil => simp
  | cons character others =>
    have stops : isDecimalDigit character = false := ends character rfl
    simp [stops]

/-- The digits of a number give it back. -/
theorem digitsValue_decimalDigits (number : Nat) : digitsValue (decimalDigits number) = number := by
  have read : Nat.ofDigitChars 10 (decimalDigits number) 0 = number :=
    Nat.ofDigitChars_ten_toDigits
  rw [Nat.ofDigitChars_eq_foldl] at read
  simpa only [digitsValue, digitValue, Nat.mul_comm 10] using read

/-- The digits of a number other than zero start with another digit. -/
theorem head?_decimalDigits {number : Nat} (positive : number ≠ 0) :
    (decimalDigits number).head? ≠ some '0' := by
  induction number using Nat.strongRecOn with
  | ind number inductionHypothesis =>
    rw [decimalDigits]
    by_cases single : number < 10
    · have digit : ∀ one < 10, one ≠ 0 → [Nat.digitChar one].head? ≠ some '0' := by decide
      rw [Nat.toDigits_of_lt_base single]
      exact digit number single positive
    · have front : (Nat.toDigits 10 (number / 10)).head? ≠ some '0' :=
        inductionHypothesis (number / 10) (by omega) (by omega)
      rw [Nat.toDigits_of_base_le (by decide) (by omega),
        List.head?_append_of_ne_nil _ Nat.toDigits_ne_nil]
      exact front

/-- Digits that a number is written with are more than a zero only if they do
not start with one. -/
theorem decimalDigits_ne (number : Nat) (second : Char) (others : List Char) :
    decimalDigits number ≠ '0' :: second :: others := by
  intro same
  by_cases zero : number = 0
  · rw [zero] at same
    cases same
  · exact head?_decimalDigits zero (by rw [same, List.head?_cons])

/-! ## The first character and the character after -/

/-- A digit is no blank. -/
theorem isSpace_of_isDecimalDigit {digit : Char} (isDigit : isDecimalDigit digit = true) :
    isSpace digit = false := by
  by_contra space
  simp only [isSpace, Bool.not_eq_false, Bool.or_eq_true, beq_iff_eq] at space
  rcases space with ((rfl | rfl) | rfl) | rfl <;> exact absurd isDigit (by decide)

/-- A digit differs from what is none. -/
theorem ne_of_isDecimalDigit {digit other : Char} (isDigit : isDecimalDigit digit = true)
    (notDigit : isDecimalDigit other = false) : digit ≠ other := by
  rintro rfl
  rw [isDigit] at notDigit
  cases notDigit

/-- The digits of a number are one digit and others. -/
theorem decimalDigits_cons (number : Nat) :
    ∃ digit others, decimalDigits number = digit :: others ∧ isDecimalDigit digit = true := by
  cases digits : decimalDigits number with
  | nil => exact absurd digits Nat.toDigits_ne_nil
  | cons digit others =>
    exact ⟨digit, others, rfl, isDecimalDigit_of_mem (digits ▸ List.mem_cons_self)⟩

private theorem opens_decimal (value : Int) : Opens (decimal value) := by
  unfold decimal
  split
  · exact ⟨'-', _, rfl, by decide⟩
  · obtain ⟨digit, others, isText, isDigit⟩ := decimalDigits_cons value.natAbs
    exact ⟨digit, others, isText, isSpace_of_isDecimalDigit isDigit,
      ne_of_isDecimalDigit isDigit (by decide), ne_of_isDecimalDigit isDigit (by decide)⟩

/-- The text of a value starts like one. -/
theorem Spells.opens {value : Json} {text : List Char} (spells : Spells value text) :
    Opens text := by
  cases spells with
  | boolean value => cases value <;> exact ⟨_, _, rfl, by decide⟩
  | integer value => exact opens_decimal value
  | string value => exact ⟨_, _, rfl, by decide⟩
  | array inside => exact ⟨_, _, rfl, by decide⟩
  | object inside => exact ⟨_, _, rfl, by decide⟩

/-- What follows a text does not change how it starts. -/
theorem Opens.append {text : List Char} (opens : Opens text) (rest : List Char) :
    Opens (text ++ rest) := by
  obtain ⟨character, others, rfl, opens⟩ := opens
  exact ⟨character, others ++ rest, rfl, opens⟩

/-- Digits end where the text does. -/
theorem ends_nil : Ends [] := by
  intro character inside
  cases inside

private theorem ends_cons {character : Char} (notDigit : isDecimalDigit character = false)
    (rest : List Char) : Ends (character :: rest) := by
  intro first isFirst
  cases isFirst
  exact notDigit

private theorem ends_blank (isBlank : Blank blank) (ends : Ends rest) : Ends (blank ++ rest) := by
  cases blank with
  | nil => exact ends
  | cons space others =>
    have isSpace : isSpace space = true := isBlank space List.mem_cons_self
    apply ends_cons
    by_contra isDigit
    rw [isSpace_of_isDecimalDigit (by simpa using isDigit)] at isSpace
    cases isSpace

private theorem ends_mark {mark : List Char} (separates : Separates false mark) (rest : List Char) :
    Ends (mark ++ rest) := by
  cases separates with
  | later isBlankBefore isBlankAfter =>
    rw [List.append_assoc]
    exact ends_blank isBlankBefore (ends_cons (by decide) _)

/-- No digit follows an element of a list. -/
theorem SpellsItems.ends {items : List Json} {text : List Char}
    (spells : SpellsItems false items text) (rest : List Char) : Ends (text ++ ']' :: rest) := by
  cases spells with
  | none isBlank => exact ends_blank isBlank (ends_cons (by decide) _)
  | next separates _ _ =>
    simp only [List.append_assoc]
    exact ends_mark separates _

/-- No digit follows a field of an object. -/
theorem SpellsFields.ends {fields : List (String × Json)} {text : List Char}
    (spells : SpellsFields false fields text) (rest : List Char) :
    Ends (text ++ '\x7d' :: rest) := by
  cases spells with
  | none isBlank => exact ends_blank isBlank (ends_cons (by decide) _)
  | next separates _ _ _ _ =>
    simp only [List.append_assoc]
    exact ends_mark separates _

/-! ## Arrays and objects -/

/-- A scanner reads every text of a JSON value, after blanks and up to a text at
which digits end, as the same value. -/
def Reads {α : Type} (scanner : Scanner α) (json : Json) (value : α) : Prop :=
  ∀ blank text rest, Blank blank → Spells json text → Ends rest →
    scanner (blank ++ text ++ rest) = .ok (value, rest)

private theorem SpellsItems.length_le {first : Bool} {items : List Json} {text : List Char}
    (spells : SpellsItems first items text) : items.length ≤ text.length := by
  induction items generalizing first text with
  | nil => exact Nat.zero_le _
  | cons item rest inductionHypothesis =>
    cases spells with
    | next separates spells others =>
      obtain ⟨_, _, rfl, _⟩ := spells.opens
      have less := inductionHypothesis others
      simp only [List.length_cons, List.length_append]
      omega

/-- An array is read item by item. Each takes a character, so there is enough
fuel for all. -/
theorem elementsWithin_spelled {α : Type} {element : Scanner α} {toJson : α → Json}
    {values : List α} (items : List α) {fuel : Nat} {first : Bool} {text : List Char}
    (reads : ∀ value ∈ values, Reads element (toJson value) value)
    (spells : SpellsItems first (values.map toJson) text) (enough : values.length < fuel)
    (rest : List Char) :
    elementsWithin element fuel first items (text ++ ']' :: rest) =
      .ok (items.reverse ++ values, rest) := by
  induction values generalizing fuel first items text with
  | nil =>
    obtain ⟨fuel, rfl⟩ := Nat.exists_eq_succ_of_ne_zero (Nat.ne_zero_of_lt enough)
    cases spells with
    | none isBlank =>
      rw [elementsWithin, nextElement_end first isBlank]
      simp only [closeList_end isBlank, List.append_nil]
  | cons value others inductionHypothesis =>
    obtain ⟨fuel, rfl⟩ := Nat.exists_eq_succ_of_ne_zero (Nat.ne_zero_of_lt enough)
    cases spells with
    | @next _ _ _ mark text tail separates spells further =>
      have one := reads value List.mem_cons_self [] text (tail ++ ']' :: rest) blank_nil spells
        (further.ends rest)
      rw [List.nil_append] at one
      have more := inductionHypothesis (value :: items)
        (fun other inside => reads other (List.mem_cons_of_mem _ inside)) further
        (Nat.lt_of_succ_lt_succ enough)
      rw [List.append_assoc, List.append_assoc, elementsWithin,
        nextElement_item separates (spells.opens.append _)]
      simp only [one, more]
      simp

/-- A list is read back if its elements are. -/
theorem elements_spelled {α : Type} {element : Scanner α} {toJson : α → Json} {values : List α}
    {text : List Char} (reads : ∀ value ∈ values, Reads element (toJson value) value)
    (spells : SpellsItems true (values.map toJson) text) (rest : List Char) :
    elements element (text ++ ']' :: rest) = .ok (values, rest) := by
  have fits := spells.length_le
  rw [List.length_map] at fits
  have enough : values.length < (text ++ ']' :: rest).length + 1 := by
    simp only [List.length_append]
    omega
  rw [elements, elementsWithin_spelled [] reads spells enough]
  rfl

/-- An entry of an object takes a field into the state, whatever its text. -/
def Takes {σ : Type} (entry : σ → String → Scanner σ) (field : String × Json) (state next : σ) :
    Prop :=
  ∀ before, Blank before → ∀ blank text rest, Blank blank → Spells field.2 text → Ends rest →
    entry state field.1 (before ++ ':' :: (blank ++ text ++ rest)) = .ok (next, rest)

/-- The entries of an object take the fields one after the other. -/
inductive TakesAll {σ : Type} (entry : σ → String → Scanner σ) :
    List (String × Json) → σ → σ → Prop where
  | none {state : σ} : TakesAll entry [] state state
  | next {field : String × Json} {fields : List (String × Json)} {state middle last : σ}
      (takes : Takes entry field state middle) (others : TakesAll entry fields middle last) :
      TakesAll entry (field :: fields) state last

private theorem SpellsFields.length_le {first : Bool} {fields : List (String × Json)}
    {text : List Char} (spells : SpellsFields first fields text) : fields.length ≤ text.length := by
  induction fields generalizing first text with
  | nil => exact Nat.zero_le _
  | cons field rest inductionHypothesis =>
    cases spells with
    | next separates isBlankBefore isBlankAfter spells others =>
      have less := inductionHypothesis others
      simp only [List.length_cons, List.length_append]
      omega

/-- An object is read field by field. -/
theorem entriesWithin_spelled {σ : Type} {entry : σ → String → Scanner σ}
    {fields : List (String × Json)} {state last : σ} (all : TakesAll entry fields state last)
    {fuel : Nat} {first : Bool} {text : List Char} (spells : SpellsFields first fields text)
    (enough : fields.length < fuel) (rest : List Char) :
    entriesWithin entry fuel first state (text ++ '\x7d' :: rest) = .ok (last, rest) := by
  induction all generalizing fuel first text with
  | none =>
    obtain ⟨fuel, rfl⟩ := Nat.exists_eq_succ_of_ne_zero (Nat.ne_zero_of_lt enough)
    cases spells with
    | none isBlank => rw [entriesWithin, nextEntry_end first isBlank]
  | next takes others inductionHypothesis =>
    obtain ⟨fuel, rfl⟩ := Nat.exists_eq_succ_of_ne_zero (Nat.ne_zero_of_lt enough)
    cases spells with
    | @next _ key value _ mark before after text tail separates isBlankBefore isBlankAfter spells
        further =>
      have one := takes before isBlankBefore after text (tail ++ '\x7d' :: rest) isBlankAfter spells
        (further.ends rest)
      have more := inductionHypothesis further (Nat.lt_of_succ_lt_succ enough)
      have isText : mark ++ quoted key ++ before ++ ':' :: after ++ text ++ tail ++ '\x7d' :: rest =
          mark ++ '\x22' :: (key.toList.flatMap escape ++ '\x22' ::
            (before ++ ':' :: (after ++ text ++ (tail ++ '\x7d' :: rest)))) := by
        simp [quoted]
      rw [isText, entriesWithin, nextEntry_key separates]
      simp only [quotedText_escaped, one, more]

/-- An object is read back if its fields are taken one after the other. -/
theorem entries_spelled {σ : Type} {entry : σ → String → Scanner σ}
    {fields : List (String × Json)} {state last : σ} (all : TakesAll entry fields state last)
    {text : List Char} (spells : SpellsFields true fields text) (rest : List Char) :
    entries entry state (text ++ '\x7d' :: rest) = .ok (last, rest) := by
  have fits := spells.length_le
  have enough : fields.length < (text ++ '\x7d' :: rest).length + 1 := by
    simp only [List.length_append]
    omega
  rw [entries, entriesWithin_spelled all spells enough]

end FlagEnum.Json
