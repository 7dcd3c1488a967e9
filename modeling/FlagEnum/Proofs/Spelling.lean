import FlagEnum.Json
import FlagEnum.Json.Mismatch
import Mathlib.Tactic

/-!
# Spellings of JSON values

The texts that a JSON value may have, with blanks between the tokens wherever
they may stand. The compact text and the indented one are two of them.
-/

namespace FlagEnum.Json

/-! ## Texts of a value -/

/-- A text that may stand between two tokens. -/
def Blank (text : List Char) : Prop :=
  ∀ character ∈ text, isSpace character = true

/-- What stands before an element or an entry: a comma, but for the first. -/
inductive Separates : Bool → List Char → Prop where
  | first {blank : List Char} (isBlank : Blank blank) : Separates true blank
  | later {before after : List Char} (isBlankBefore : Blank before) (isBlankAfter : Blank after) :
      Separates false (before ++ ',' :: after)

mutual

/-- `text` is a text of the value. -/
inductive Spells : Json → List Char → Prop where
  | boolean (value : Bool) : Spells (.boolean value) (truth value)
  | integer (value : Int) : Spells (.integer value) (decimal value)
  | string (value : String) : Spells (.string value) (quoted value)
  | array {items : List Json} {text : List Char} (inside : SpellsItems true items text) :
      Spells (.array items) ('[' :: text ++ [']'])
  | object {fields : List (String × Json)} {text : List Char}
      (inside : SpellsFields true fields text) :
      Spells (.object fields) ('\x7b' :: text ++ ['\x7d'])

/-- `text` is a text of the items up to the closing bracket, from the first on
or from a later one. -/
inductive SpellsItems : Bool → List Json → List Char → Prop where
  | none {first : Bool} {blank : List Char} (isBlank : Blank blank) : SpellsItems first [] blank
  | next {first : Bool} {item : Json} {items : List Json} {mark text rest : List Char}
      (separates : Separates first mark) (spells : Spells item text)
      (others : SpellsItems false items rest) :
      SpellsItems first (item :: items) (mark ++ text ++ rest)

/-- `text` is a text of the fields up to the closing brace, from the first on or
from a later one. -/
inductive SpellsFields : Bool → List (String × Json) → List Char → Prop where
  | none {first : Bool} {blank : List Char} (isBlank : Blank blank) : SpellsFields first [] blank
  | next {first : Bool} {key : String} {value : Json} {fields : List (String × Json)}
      {mark before after text rest : List Char}
      (separates : Separates first mark) (isBlankBefore : Blank before) (isBlankAfter : Blank after)
      (spells : Spells value text) (others : SpellsFields false fields rest) :
      SpellsFields first ((key, value) :: fields)
        (mark ++ quoted key ++ before ++ ':' :: after ++ text ++ rest)

end

/-- The empty text is blank. -/
theorem blank_nil : Blank [] := by
  simp [Blank]

/-- A space is blank. -/
theorem blank_space : Blank [' '] := by
  simp [Blank, isSpace]

/-- A line end with its indentation is blank. -/
theorem blank_newLine (depth : Nat) : Blank (newLine depth) := by
  intro character inside
  rcases List.mem_cons.mp inside with rfl | filled
  · rfl
  · rw [List.eq_of_mem_replicate filled]
    rfl

/-! ## The two written texts -/

/-- A property that arrays have because of their items, and objects because of
their values, holds of every value. -/
theorem induct {motive : Json → Prop} (boolean : ∀ value, motive (.boolean value))
    (integer : ∀ value, motive (.integer value)) (string : ∀ value, motive (.string value))
    (array : ∀ items, (∀ item ∈ items, motive item) → motive (.array items))
    (object : ∀ fields, (∀ field ∈ fields, motive field.2) → motive (.object fields))
    (value : Json) : motive value := by
  refine @Json.rec motive (fun items => ∀ item ∈ items, motive item)
    (fun fields => ∀ field ∈ fields, motive field.2) (fun field => motive field.2)
    boolean integer string array object ?_ ?_ ?_ ?_ ?_ value
  · simp
  · intro item items here others
    simpa using ⟨here, others⟩
  · simp
  · intro field fields here others
    exact List.forall_mem_cons.mpr ⟨here, others⟩
  · intro key value here
    exact here

/-- What is written one after the other, with the same text between. -/
theorem eq_intercalate {α : Type} {join : List α → List Char} {write : α → List Char}
    {between : List Char} (none : join [] = []) (one : ∀ item, join [item] = write item)
    (more : ∀ item next rest,
      join (item :: next :: rest) = write item ++ between ++ join (next :: rest))
    (items : List α) : join items = between.intercalate (items.map write) := by
  induction items with
  | nil => exact none
  | cons item rest inductionHypothesis =>
    cases rest with
    | nil => simp [one]
    | cons next others => simp [more, inductionHypothesis]

private theorem compactItems_eq (items : List Json) :
    compactItems items = [','].intercalate (items.map compactChars) := by
  apply eq_intercalate <;> simp [compactItems]

private theorem compactFields_eq (fields : List (String × Json)) :
    compactFields fields =
      [','].intercalate
        (fields.map fun field => quoted field.1 ++ ':' :: compactChars field.2) := by
  apply eq_intercalate <;> simp [compactFields]

private theorem indentedItems_eq (depth : Nat) (items : List Json) :
    indentedItems depth items =
      (',' :: newLine depth).intercalate (items.map (indentedChars depth)) := by
  apply eq_intercalate <;> simp [indentedItems]

private theorem indentedFields_eq (depth : Nat) (fields : List (String × Json)) :
    indentedFields depth fields =
      (',' :: newLine depth).intercalate
        (fields.map fun field => quoted field.1 ++ ':' :: ' ' :: indentedChars depth field.2) := by
  apply eq_intercalate <;> simp [indentedFields]

section Written

variable {write : Json → List Char} {gap tail : List Char}

/-- Items that are written one after the other, with a comma and the same gap
between them. -/
theorem spellsItems_intercalate (isGap : Blank gap) (isTail : Blank tail) {first : Bool}
    {mark : List Char} (separates : Separates first mark) {item : Json} {items : List Json}
    (spells : ∀ one ∈ item :: items, Spells one (write one)) :
    SpellsItems first (item :: items)
      (mark ++ (',' :: gap).intercalate ((item :: items).map write) ++ tail) := by
  induction items generalizing first mark item with
  | nil =>
    have here := spells item List.mem_cons_self
    simpa using SpellsItems.next separates here (.none isTail)
  | cons next rest inductionHypothesis =>
    have here := spells item List.mem_cons_self
    have others := inductionHypothesis (.later blank_nil isGap) fun one inside =>
      spells one (List.mem_cons_of_mem _ inside)
    simpa using SpellsItems.next separates here others

/-- Fields that are written one after the other, with a comma and the same gap
between them, and the same gap after their colons. -/
theorem spellsFields_intercalate {after : List Char} (isAfter : Blank after) (isGap : Blank gap)
    (isTail : Blank tail) {first : Bool} {mark : List Char} (separates : Separates first mark)
    {field : String × Json} {fields : List (String × Json)}
    (spells : ∀ one ∈ field :: fields, Spells one.2 (write one.2)) :
    SpellsFields first (field :: fields)
      (mark ++ (',' :: gap).intercalate
        ((field :: fields).map fun one => quoted one.1 ++ ':' :: after ++ write one.2) ++
          tail) := by
  induction fields generalizing first mark field with
  | nil =>
    have here := spells field List.mem_cons_self
    simpa using SpellsFields.next separates blank_nil isAfter here (.none isTail)
  | cons next rest inductionHypothesis =>
    have here := spells field List.mem_cons_self
    have others := inductionHypothesis (.later blank_nil isGap) fun one inside =>
      spells one (List.mem_cons_of_mem _ inside)
    simpa using SpellsFields.next separates blank_nil isAfter here others

end Written

/-- The compact writer spells its value. -/
theorem spells_compactChars (value : Json) : Spells value (compactChars value) := by
  induction value using induct with
  | boolean value =>
    rw [compactChars]
    exact .boolean value
  | integer value =>
    rw [compactChars]
    exact .integer value
  | string value =>
    rw [compactChars]
    exact .string value
  | array items inductionHypothesis =>
    rw [compactChars, compactItems_eq]
    apply Spells.array
    cases items with
    | nil => exact .none blank_nil
    | cons item rest =>
      simpa using
        spellsItems_intercalate blank_nil blank_nil (.first blank_nil) inductionHypothesis
  | object fields inductionHypothesis =>
    rw [compactChars, compactFields_eq]
    apply Spells.object
    cases fields with
    | nil => exact .none blank_nil
    | cons field rest =>
      simpa using spellsFields_intercalate blank_nil blank_nil blank_nil (.first blank_nil)
        inductionHypothesis

/-- The indenting writer spells its value, at every depth. -/
theorem spells_indentedChars (depth : Nat) (value : Json) :
    Spells value (indentedChars depth value) := by
  induction value using induct generalizing depth with
  | boolean value =>
    rw [indentedChars]
    exact .boolean value
  | integer value =>
    rw [indentedChars]
    exact .integer value
  | string value =>
    rw [indentedChars]
    exact .string value
  | array items inductionHypothesis =>
    cases items with
    | nil =>
      rw [indentedChars]
      exact .array (.none blank_nil)
    | cons item rest =>
      have inside := spellsItems_intercalate (blank_newLine (depth + 1)) (blank_newLine depth)
        (.first (blank_newLine (depth + 1))) fun one isItem =>
          inductionHypothesis one isItem (depth + 1)
      rw [indentedChars, indentedItems_eq]
      simpa using Spells.array inside
  | object fields inductionHypothesis =>
    cases fields with
    | nil =>
      rw [indentedChars]
      exact .object (.none blank_nil)
    | cons field rest =>
      have inside := spellsFields_intercalate blank_space (blank_newLine (depth + 1))
        (blank_newLine depth) (.first (blank_newLine (depth + 1))) fun one isField =>
          inductionHypothesis one isField (depth + 1)
      rw [indentedChars, indentedFields_eq]
      simpa using Spells.object inside

end FlagEnum.Json
