import FlagEnum.Proofs.Skipping

/-!
# Objects and arrays of any layout

An object is laid out as entries of some kind, in any order and number, and an
array as items of some kind. Reading them is a fold over the entries and a walk
over the items. What is read is compared up to the reason for a refusal, so that
refusals are followed like results.
-/

namespace FlagEnum.Json

variable {α σ Kind : Type}

/-- The entries of an object up to its closing brace, from the first on or from a
later one. How an entry of a kind is laid out under its key is given. -/
inductive LaysFields (lays : Kind → String → List Char → Prop) :
    Bool → List Kind → List Char → Prop where
  | none {first : Bool} {blank : List Char} (isBlank : Blank blank) : LaysFields lays first [] blank
  | next {first : Bool} {item : Kind} {items : List Kind} {key : String}
      {mark keyText before after text rest : List Char} (separates : Separates first mark)
      (spells : SpellsCharacters key.toList keyText) (isBlankBefore : Blank before)
      (isBlankAfter : Blank after) (laid : lays item key text)
      (others : LaysFields lays false items rest) :
      LaysFields lays first (item :: items)
        (mark ++ '\x22' :: keyText ++ '\x22' :: before ++ ':' :: after ++ text ++ rest)

/-- The items of an array up to its closing bracket, from the first on or from a
later one. -/
inductive LaysItems (lays : Kind → List Char → Prop) : Bool → List Kind → List Char → Prop where
  | none {first : Bool} {blank : List Char} (isBlank : Blank blank) : LaysItems lays first [] blank
  | next {first : Bool} {item : Kind} {items : List Kind} {mark text rest : List Char}
      (separates : Separates first mark) (laid : lays item text)
      (others : LaysItems lays false items rest) :
      LaysItems lays first (item :: items) (mark ++ text ++ rest)

/-- What a sequence of two readings gives, without the texts of refusals. -/
theorem toOption_bind {β ε : Type} (result : Except ε α) (next : α → Except ε β) :
    (result >>= next).toOption = result.toOption.bind fun value => (next value).toOption := by
  cases result <;> rfl

/-! ## Entries -/

section Fields

variable {entry : σ → String → Scanner σ} {lays : Kind → String → List Char → Prop}
  {take : σ → Kind → Option σ}

/-- An entry whose key is written as it is, without blanks. -/
theorem LaysFields.cons {first : Bool} {item : Kind} {items : List Kind} {key : String}
    {mark text rest : List Char} (separates : Separates first mark) (laid : lays item key text)
    (others : LaysFields lays false items rest)
    (unescaped : key.toList.all (Unescaped ·) = true) :
    LaysFields lays first (item :: items)
      (mark ++ '\x22' :: key.toList ++ '\x22' :: ':' :: text ++ rest) := by
  have laid := @LaysFields.next _ _ first item items key mark key.toList [] [] text rest separates
    (spellsCharacters_unescaped unescaped) blank_nil blank_nil laid others
  simpa using laid

/-- Entries of every kind change the state as told, or are refused, and what
follows them is left. -/
def Follows (entry : σ → String → Scanner σ) (lays : Kind → String → List Char → Prop)
    (take : σ → Kind → Option σ) : Prop :=
  ∀ state item key before after text rest, lays item key text → Blank before → Blank after →
    Stops rest →
    (entry state key (before ++ ':' :: (after ++ text ++ rest))).toOption =
      (take state item).map (·, rest)

private theorem LaysFields.stops {items : List Kind} {text more : List Char}
    (laid : LaysFields lays false items text) (stops : Stops more) : Stops (text ++ more) := by
  cases laid with
  | none isBlank => exact stops_blank isBlank stops
  | next separates _ _ _ _ _ =>
    simp only [List.append_assoc]
    exact stops_mark separates _

private theorem entriesWithin_blank {blank : List Char} (isBlank : Blank blank) (fuel : Nat)
    (first : Bool) (state : σ) (rest : List Char) :
    entriesWithin entry fuel first state (blank ++ rest) =
      entriesWithin entry fuel first state rest := by
  have same : nextEntry first (blank ++ rest) = nextEntry first rest := by
    rw [nextEntry, nextEntry, dropSpace_blank isBlank]
  cases fuel with
  | zero => rfl
  | succ fuel => rw [entriesWithin, entriesWithin, same]

/-- One entry takes one unit of fuel. -/
theorem entriesWithin_key {first : Bool} {mark keyText rest : List Char} {key : String}
    (separates : Separates first mark) (spells : SpellsCharacters key.toList keyText) (fuel : Nat)
    (state : σ) :
    (entriesWithin entry (fuel + 1) first state
      (mark ++ '\x22' :: keyText ++ '\x22' :: rest)).toOption =
      (entry state key rest).toOption.bind fun (next, rest) =>
        (entriesWithin entry fuel false next rest).toOption := by
  rw [List.append_assoc, List.cons_append, entriesWithin, nextEntry_key separates]
  simp only [quotedText_spelled spells]
  cases entry state key rest with
  | error refusal => rfl
  | ok result => rfl

/-- The entries are taken one after the other, and then the object goes on. -/
theorem entriesWithin_laid (follows : Follows entry lays take) {first : Bool} {items : List Kind}
    {text more : List Char} (laid : LaysFields lays first items text) (fuel : Nat) (state : σ)
    (stops : items = [] ∨ Stops more) :
    (entriesWithin entry (items.length + fuel) first state (text ++ more)).toOption =
      (items.foldlM take state).bind fun last =>
        (entriesWithin entry fuel (first && items.isEmpty) last more).toOption := by
  induction laid generalizing state with
  | none isBlank =>
    rw [entriesWithin_blank isBlank, List.length_nil, Nat.zero_add, List.isEmpty_nil, Bool.and_true]
    rfl
  | @next first item items key mark keyText before after text rest separates spells isBlankBefore
      isBlankAfter laid others inductionHypothesis =>
    -- The value of this entry ends where the next entry begins, or else where the object goes on.
    have stopsMore : Stops more := stops.resolve_left (List.cons_ne_nil _ _)
    have one := follows state item key before after text (rest ++ more) laid isBlankBefore
      isBlankAfter (others.stops stopsMore)
    have isText : mark ++ '\x22' :: keyText ++ '\x22' :: before ++ ':' :: after ++ text ++ rest ++
          more =
        mark ++ '\x22' :: keyText ++ '\x22' ::
          (before ++ ':' :: (after ++ text ++ (rest ++ more))) := by
      simp
    have isFuel : (item :: items).length + fuel = items.length + fuel + 1 := by
      rw [List.length_cons]
      omega
    rw [isText, isFuel, entriesWithin_key separates spells, one, List.foldlM_cons,
      List.isEmpty_cons, Bool.and_false]
    cases take state item with
    | none => rfl
    | some next => exact inductionHypothesis next (.inr stopsMore)

/-- There is more fuel than entries. -/
theorem LaysFields.length_le {first : Bool} {items : List Kind} {text : List Char}
    (laid : LaysFields lays first items text) : items.length ≤ text.length := by
  induction laid with
  | none _ => exact Nat.zero_le _
  | next _ _ _ _ _ _ inductionHypothesis =>
    simp only [List.length_cons, List.length_append]
    omega

private theorem entries_laid_append (follows : Follows entry lays take) {items : List Kind}
    {text more : List Char} (laid : LaysFields lays true items text) (state : σ)
    (stops : items = [] ∨ Stops more) :
    ∃ fuel, (entries entry state (text ++ more)).toOption =
      (items.foldlM take state).bind fun last =>
        (entriesWithin entry (fuel + 1) items.isEmpty last more).toOption := by
  have fits := laid.length_le
  obtain ⟨fuel, isFuel⟩ : ∃ fuel, (text ++ more).length + 1 = items.length + (fuel + 1) := by
    refine ⟨(text ++ more).length - items.length, ?_⟩
    simp only [List.length_append]
    omega
  refine ⟨fuel, ?_⟩
  rw [entries, isFuel, entriesWithin_laid follows laid _ _ stops, Bool.true_and]

/-- An object is read by taking its entries. -/
theorem entries_laid (follows : Follows entry lays take) {items : List Kind} {text : List Char}
    (laid : LaysFields lays true items text) (state : σ) (rest : List Char) :
    (entries entry state (text ++ '\x7d' :: rest)).toOption =
      (items.foldlM take state).map (·, rest) := by
  have stops : Stops ('\x7d' :: rest) := stops_cons (by decide) rest
  obtain ⟨fuel, isRead⟩ := entries_laid_append follows laid state (.inr stops)
  have closed : ∀ last,
      (entriesWithin entry (fuel + 1) items.isEmpty last ('\x7d' :: rest)).toOption =
        some (last, rest) := by
    intro last
    have ended := @nextEntry_end [] items.isEmpty blank_nil rest
    rw [List.nil_append] at ended
    rw [entriesWithin, ended]
    rfl
  rw [isRead]
  simp only [closed]
  cases items.foldlM take state <;> rfl

/-- An object is refused where an entry is, whatever comes after that. -/
theorem entries_refused (follows : Follows entry lays take) {items : List Kind}
    {text mark keyText rest : List Char} {key : String} (laid : LaysFields lays true items text)
    (separates : Separates items.isEmpty mark) (spells : SpellsCharacters key.toList keyText)
    {state : σ} (refused : ∀ last, items.foldlM take state = some last →
      (entry last key rest).toOption = none) :
    (entries entry state (text ++ (mark ++ '\x22' :: keyText ++ '\x22' :: rest))).toOption =
      none := by
  have stops : items = [] ∨ Stops (mark ++ '\x22' :: keyText ++ '\x22' :: rest) := by
    cases items with
    | nil => exact .inl rfl
    | cons item others =>
      rw [List.append_assoc]
      exact .inr (stops_mark separates _)
  obtain ⟨fuel, isRead⟩ := entries_laid_append follows laid state stops
  rw [isRead]
  cases taken : items.foldlM take state with
  | none => rfl
  | some last =>
    rw [Option.bind_some, entriesWithin_key separates spells, refused last taken]
    rfl

/-- The text of an object in which a key that was there comes again. From that
key on the text is arbitrary. -/
def RepeatsKey (lays : Kind → String → List Char → Prop) (key? : Kind → Option String)
    (text : List Char) : Prop :=
  ∃ items key inside mark keyText rest, LaysFields lays true items inside ∧ Separates false mark ∧
    SpellsCharacters (String.toList key) keyText ∧ key ∈ items.filterMap key? ∧
    text = '\x7b' :: (inside ++ (mark ++ '\x22' :: keyText ++ '\x22' :: rest))

/-- What an entry brings into the state stays there. -/
theorem foldlM_keeps {has : σ → Prop} {gives : Kind → Prop}
    (keeps : ∀ state item next, take state item = some next → has state ∨ gives item → has next)
    {items : List Kind} {state last : σ} (taken : items.foldlM take state = some last)
    (some : has state ∨ ∃ item ∈ items, gives item) : has last := by
  induction items generalizing state with
  | nil =>
    cases taken
    exact some.resolve_right (by simp)
  | cons item others inductionHypothesis =>
    rw [List.foldlM_cons] at taken
    obtain ⟨next, first, further⟩ := Option.bind_eq_some_iff.mp taken
    apply inductionHypothesis further
    rcases some with here | ⟨one, inside, isGiven⟩
    · exact .inl (keeps state item next first (.inl here))
    · rcases List.mem_cons.mp inside with rfl | later
      · exact .inl (keeps state one next first (.inr isGiven))
      · exact .inr ⟨one, later, isGiven⟩

/-- An object with a repeated key is refused, if a key that is there is refused. -/
theorem entries_repeated (follows : Follows entry lays take) {key? : Kind → Option String}
    {has : String → σ → Prop}
    (keeps : ∀ key state item next, take state item = some next →
      has key state ∨ key? item = some key → has key next)
    (refuses : ∀ key state rest, has key state → (entry state key rest).toOption = none)
    {text : List Char} (state : σ) (repeats : RepeatsKey lays key? ('\x7b' :: text)) :
    (entries entry state text).toOption = none := by
  obtain ⟨items, key, inside, mark, keyText, rest, laid, separates, spells, known, isText⟩ :=
    repeats
  cases isText
  obtain ⟨item, isItem, isKey⟩ := List.mem_filterMap.mp known
  -- The key that comes again is not the first, so that a comma stands before it.
  have some : items.isEmpty = false := by
    cases items with
    | nil => cases isItem
    | cons => rfl
  refine entries_refused follows laid (some ▸ separates) spells fun last taken => ?_
  exact refuses key last rest (foldlM_keeps (keeps key) taken (.inr ⟨item, isItem, isKey⟩))

end Fields

/-! ## Items -/

section Items

variable {element : Scanner α} {lays : Kind → List Char → Prop} {value? : Kind → Option α}

/-- Items of every kind are read as told, or refused, and what follows them is
left. -/
def ReadsEach (element : Scanner α) (lays : Kind → List Char → Prop) (value? : Kind → Option α) :
    Prop :=
  ∀ item text rest, lays item text → Opens text ∧ (Stops rest →
    (element (text ++ rest)).toOption = (value? item).map (·, rest))

private theorem LaysItems.stops {items : List Kind} {text more : List Char}
    (laid : LaysItems lays false items text) (stops : Stops more) : Stops (text ++ more) := by
  cases laid with
  | none isBlank => exact stops_blank isBlank stops
  | next separates _ _ =>
    simp only [List.append_assoc]
    exact stops_mark separates _

private theorem elementsWithin_blank {blank : List Char} (isBlank : Blank blank) (fuel : Nat)
    (first : Bool) (done : List α) (rest : List Char) :
    elementsWithin element fuel first done (blank ++ rest) =
      elementsWithin element fuel first done rest := by
  have sameNext : nextElement first (blank ++ rest) = nextElement first rest := by
    rw [nextElement, nextElement, dropSpace_blank isBlank]
  have sameClose : closeList (blank ++ rest) = closeList rest := by
    rw [closeList, closeList, dropSpace_blank isBlank]
  cases fuel with
  | zero => rfl
  | succ fuel => rw [elementsWithin, elementsWithin, sameNext, sameClose]

/-- One item takes one unit of fuel. -/
theorem elementsWithin_item {first : Bool} {mark text : List Char}
    (separates : Separates first mark) (opens : Opens text) (fuel : Nat) (done : List α) :
    (elementsWithin element (fuel + 1) first done (mark ++ text)).toOption =
      (element text).toOption.bind fun (value, rest) =>
        (elementsWithin element fuel false (value :: done) rest).toOption := by
  rw [elementsWithin, nextElement_item separates opens]
  dsimp only
  cases element text with
  | error refusal => rfl
  | ok result => rfl

/-- The items are read one after the other, and then the array goes on. -/
theorem elementsWithin_laid (reads : ReadsEach element lays value?) {first : Bool}
    {items : List Kind} {text more : List Char} (laid : LaysItems lays first items text)
    (fuel : Nat) (done : List α) (stops : items = [] ∨ Stops more) :
    (elementsWithin element (items.length + fuel) first done (text ++ more)).toOption =
      (items.mapM value?).bind fun values =>
        (elementsWithin element fuel (first && items.isEmpty) (values.reverse ++ done)
          more).toOption := by
  induction laid generalizing done with
  | none isBlank =>
    rw [elementsWithin_blank isBlank, List.length_nil, Nat.zero_add, List.isEmpty_nil,
      Bool.and_true]
    rfl
  | @next first item items mark text rest separates laid others inductionHypothesis =>
    have stopsMore : Stops more := stops.resolve_left (List.cons_ne_nil _ _)
    obtain ⟨opens, one⟩ := reads item text (rest ++ more) laid
    have isFuel : (item :: items).length + fuel = items.length + fuel + 1 := by
      rw [List.length_cons]
      omega
    rw [List.append_assoc, List.append_assoc, isFuel,
      elementsWithin_item separates (opens.append _), one (others.stops stopsMore),
      List.mapM_cons, List.isEmpty_cons, Bool.and_false]
    cases value? item with
    | none => rfl
    | some value =>
      have more := inductionHypothesis (value :: done) (.inr stopsMore)
      rw [Bool.false_and] at more
      simp only [Option.map_some, Option.bind_some, more]
      cases items.mapM value? with
      | none => rfl
      | some values => simp

/-- There is more fuel than items. -/
theorem LaysItems.length_le (reads : ReadsEach element lays value?) {first : Bool}
    {items : List Kind} {text : List Char} (laid : LaysItems lays first items text) :
    items.length ≤ text.length := by
  induction laid with
  | none _ => exact Nat.zero_le _
  | next _ laid _ inductionHypothesis =>
    obtain ⟨_, _, rfl, _⟩ := (reads _ _ [] laid).1
    simp only [List.length_cons, List.length_append]
    omega

private theorem elements_laid_append (reads : ReadsEach element lays value?) {items : List Kind}
    {text more : List Char} (laid : LaysItems lays true items text)
    (stops : items = [] ∨ Stops more) :
    ∃ fuel, (elements element (text ++ more)).toOption =
      (items.mapM value?).bind fun values =>
        (elementsWithin element (fuel + 1) items.isEmpty values.reverse more).toOption := by
  have fits := laid.length_le reads
  obtain ⟨fuel, isFuel⟩ : ∃ fuel, (text ++ more).length + 1 = items.length + (fuel + 1) := by
    refine ⟨(text ++ more).length - items.length, ?_⟩
    simp only [List.length_append]
    omega
  refine ⟨fuel, ?_⟩
  rw [elements, isFuel, elementsWithin_laid reads laid _ _ stops]
  simp only [Bool.true_and, List.append_nil]

/-- An array is read by reading its items. -/
theorem elements_laid (reads : ReadsEach element lays value?) {items : List Kind}
    {text : List Char} (laid : LaysItems lays true items text) (rest : List Char) :
    (elements element (text ++ ']' :: rest)).toOption = (items.mapM value?).map (·, rest) := by
  have stops : Stops (']' :: rest) := stops_cons (by decide) rest
  obtain ⟨fuel, isRead⟩ := elements_laid_append reads laid (.inr stops)
  have closed : ∀ done : List α,
      (elementsWithin element (fuel + 1) items.isEmpty done (']' :: rest)).toOption =
        some (done.reverse, rest) := by
    intro done
    have ended := @nextElement_end [] items.isEmpty blank_nil rest
    have isClosed := @closeList_end [] blank_nil rest
    rw [List.nil_append] at ended isClosed
    simp only [elementsWithin, ended, isClosed]
    rfl
  rw [isRead]
  simp only [closed, List.reverse_reverse]
  cases items.mapM value? <;> rfl

/-- An array is refused where an item is, whatever comes after that. -/
theorem elements_refused (reads : ReadsEach element lays value?) {items : List Kind}
    {text mark rest : List Char} (laid : LaysItems lays true items text)
    (separates : Separates items.isEmpty mark) (opens : Opens rest)
    (refused : (element rest).toOption = none) :
    (elements element (text ++ (mark ++ rest))).toOption = none := by
  have stops : items = [] ∨ Stops (mark ++ rest) := by
    cases items with
    | nil => exact .inl rfl
    | cons item others => exact .inr (stops_mark separates _)
  obtain ⟨fuel, isRead⟩ := elements_laid_append reads laid stops
  rw [isRead]
  cases items.mapM value? with
  | none => rfl
  | some values =>
    rw [Option.bind_some, elementsWithin_item separates opens, refused]
    rfl

end Items

end FlagEnum.Json
