import FlagEnum.Proofs.Entries
import FlagEnum.Proofs.RoundTrip

/-!
# Declarations of any layout

The object of a declaration may give its fields in any order, leave out those
that have their default, and hold any other keys with any values between them;
so may the objects of its members. All such texts load as the same declaration,
and none loads in which a known key comes twice.
-/

namespace FlagEnum

open Json

/-- The texts of an integer. A zero may have a sign. -/
def Json.SpellsInteger (value : Int) (text : List Char) : Prop :=
  text = decimal value ∨ value = 0 ∧ text = ['-', '0']

namespace Declaration

variable {blank before rest : List Char}

/-! ## Values -/

private theorem readText_spelled {value : String} {text : List Char}
    (spells : SpellsString value text) (isBlank : Blank blank) (rest : List Char) :
    readText (blank ++ text ++ rest) = .ok (value, rest) := by
  obtain ⟨inside, spells, rfl⟩ := spells
  have isText : blank ++ ('\x22' :: inside ++ ['\x22']) ++ rest =
      blank ++ '\x22' :: (inside ++ '\x22' :: rest) := by simp
  rw [readText, isText, dropSpace_token isBlank rfl]
  exact quotedText_spelled spells rest

private theorem readConstant_null (isBlank : Blank blank) (rest : List Char) :
    readConstant (blank ++ ['n', 'u', 'l', 'l'] ++ rest) = .ok (none, rest) := by
  rw [readConstant, List.append_assoc, List.cons_append, dropSpace_token isBlank rfl]
  rfl

private theorem readConstant_spelled {value : Int} {text : List Char}
    (spells : SpellsInteger value text)
    (inRange : minInteger ≤ value ∧ value ≤ maxInteger) (isBlank : Blank blank)
    (stops : Stops rest) :
    readConstant (blank ++ text ++ rest) = .ok (some value, rest) := by
  rcases spells with rfl | ⟨rfl, rfl⟩
  · exact readConstant_reads inRange blank _ rest isBlank (.integer value) stops.ends
  · have zero := @readDigits_decimalDigits rest true 0 0 rfl inRange stops.ends
    have isText : ['-', '0'] ++ rest = '-' :: (decimalDigits 0 ++ rest) := rfl
    rw [readConstant, List.append_assoc, isText, dropSpace_token isBlank rfl]
    simp only [zero]
    rfl

/-- The value of a field is stored where it comes first, and refused where it
comes again. -/
theorem readField_laid {α σ : Type} (name : String) (current : Option α) {scanner : Scanner α}
    (store : α → σ) {input : List Char} {value : Option α} (isBlank : Blank before)
    (reads : (scanner input).toOption = value.map (·, rest)) :
    (do
      let (value, rest) ← readField name current scanner (before ++ ':' :: input)
      return (store value, rest) : Except Refusal (σ × List Char)).toOption =
      (if current.isSome then none else value.map store).map (·, rest) := by
  unfold readField
  split
  · rfl
  · rw [colon_blank isBlank, toOption_bind]
    change (scanner input).toOption.bind _ = _
    rw [reads]
    cases value <;> rfl

private theorem readField_given {α σ : Type} (name : String) (current : Option α)
    {scanner : Scanner α} (store : α → σ) {input : List Char} {value : α} (isBlank : Blank before)
    (reads : scanner input = .ok (value, rest)) :
    (do
      let (value, rest) ← readField name current scanner (before ++ ':' :: input)
      return (store value, rest) : Except Refusal (σ × List Char)).toOption =
      (if current.isSome then none else some (store value)).map (·, rest) :=
  @readField_laid _ _ _ _ name current _ store _ (some value) isBlank
    (congrArg Except.toOption reads)

private theorem skipped {σ : Type} (state : σ) {after text : List Char} (isValue : IsValue text)
    (isBlankBefore : Blank before) (isBlankAfter : Blank after) (stops : Stops rest) :
    (do return (state, ← skipValue (← colon (before ++ ':' :: (after ++ text ++ rest)))) :
      Except Refusal (σ × List Char)) = .ok (state, rest) := by
  rw [colon_blank isBlankBefore]
  simp only [bind, Except.bind, skipValue_isValue isValue isBlankAfter stops]
  rfl

/-! ## Members -/

/-- An entry of a member's object. -/
inductive MemberEntry where
  | name (given : String)
  | value (given : Option Int)
  | other (key : String)

namespace MemberEntry

/-- The name that an entry of a member gives, if it gives one. -/
def name? : MemberEntry → Option String
  | name given => some given
  | _ => none

/-- The constant that an entry gives, if it gives one. A constant may be given as
absent. -/
def value? : MemberEntry → Option (Option Int)
  | value given => some given
  | _ => none

/-- The key of an entry, if a member knows it. -/
def key? : MemberEntry → Option String
  | name _ => some "name"
  | value _ => some "value"
  | other _ => none

/-- The texts of an entry under its key. An absent constant may be written as
null, and other keys may have any value. -/
inductive Lays : MemberEntry → String → List Char → Prop where
  | name {given : String} {text : List Char} (spells : SpellsString given text) :
      Lays (.name given) "name" text
  | null : Lays (.value none) "value" ['n', 'u', 'l', 'l']
  | value {given : Int} {text : List Char} (spells : SpellsInteger given text)
      (inRange : minInteger ≤ given ∧ given ≤ maxInteger) : Lays (.value (some given)) "value" text
  | other {key : String} {text : List Char} (unknown : key ∉ ["name", "value"])
      (isValue : IsValue text) : Lays (.other key) key text

/-- What an entry does to the fields read so far. -/
def take (fields : MemberFields) : MemberEntry → Option MemberFields
  | name given => if fields.name.isSome then none else some { fields with name := some given }
  | value given => if fields.value.isSome then none else some { fields with value := some given }
  | other _ => some fields

end MemberEntry

/-- The reader of a member takes its entries as they come. -/
theorem readMemberEntry_follows : Follows readMemberEntry MemberEntry.Lays MemberEntry.take := by
  intro fields item key before after text rest laid isBlankBefore isBlankAfter stops
  cases laid with
  | name spells =>
    simp only [readMemberEntry, MemberEntry.take, if_true]
    exact readField_given "name" fields.name (fun given => { fields with name := some given })
      isBlankBefore (readText_spelled spells isBlankAfter rest)
  | null =>
    simp only [readMemberEntry, MemberEntry.take, String.reduceEq, if_true, if_false]
    exact readField_given "value" fields.value (fun given => { fields with value := some given })
      isBlankBefore (readConstant_null isBlankAfter rest)
  | value spells inRange =>
    simp only [readMemberEntry, MemberEntry.take, String.reduceEq, if_true, if_false]
    exact readField_given "value" fields.value (fun given => { fields with value := some given })
      isBlankBefore (readConstant_spelled spells inRange isBlankAfter stops)
  | other unknown isValue =>
    simp only [List.mem_cons, List.not_mem_nil, or_false, not_or] at unknown
    simp only [readMemberEntry, unknown, if_false]
    rw [skipped fields isValue isBlankBefore isBlankAfter stops]
    rfl

/-- The texts of a member with the given entries. -/
def LaysMember (entries : List MemberEntry) (text : List Char) : Prop :=
  ∃ inside, LaysFields MemberEntry.Lays true entries inside ∧ text = '\x7b' :: inside ++ ['\x7d']

/-- The member that entries give, if they give a name and no field twice. -/
def memberOf? (entries : List MemberEntry) : Option Member :=
  (entries.foldlM MemberEntry.take ⟨none, none⟩).bind fun fields =>
    fields.name.map fun name => ⟨name, fields.value.getD none⟩

/-- Reading a member is reading its entries. -/
theorem readMember_object (text : List Char) :
    (readMember ('\x7b' :: text)).toOption =
      (Json.entries readMemberEntry ⟨none, none⟩ text).toOption.bind fun result =>
        (result.1.member result.2).toOption := by
  rw [readMember, dropSpace_cons rfl]
  exact toOption_bind _ _

/-- A member is read from every layout of its entries. -/
theorem readMember_readsEach : ReadsEach readMember LaysMember memberOf? := by
  rintro entries _ rest ⟨inside, laid, rfl⟩
  refine ⟨⟨'\x7b', _, rfl, by decide⟩, fun _ => ?_⟩
  have isText : '\x7b' :: inside ++ ['\x7d'] ++ rest = '\x7b' :: (inside ++ '\x7d' :: rest) := by
    simp
  rw [isText, readMember_object, entries_laid readMemberEntry_follows laid, memberOf?]
  cases entries.foldlM MemberEntry.take ⟨none, none⟩ with
  | none => rfl
  | some fields =>
    simp only [Option.map_some, Option.bind_some, MemberFields.member]
    cases fields.name <;> rfl

/-! ## Declarations -/

/-- An entry of a declaration's object. Members are given by their entries. -/
inductive DeclarationEntry where
  | name (given : String)
  | typeName (given : String)
  | isFlags (given : Bool)
  | members (given : List (List MemberEntry))
  | other (key : String)

namespace DeclarationEntry

/-- The name that an entry of a declaration gives, if it gives one. -/
def name? : DeclarationEntry → Option String
  | name given => some given
  | _ => none

/-- The type name that an entry gives, if it gives one. -/
def typeName? : DeclarationEntry → Option String
  | typeName given => some given
  | _ => none

/-- What an entry says on whether the members are flags, if it says so. -/
def isFlags? : DeclarationEntry → Option Bool
  | isFlags given => some given
  | _ => none

/-- The members that an entry gives, each by its own entries, if it gives any. -/
def members? : DeclarationEntry → Option (List (List MemberEntry))
  | members given => some given
  | _ => none

/-- The key of an entry, if a declaration knows it. -/
def key? : DeclarationEntry → Option String
  | name _ => some "name"
  | typeName _ => some "underlying_type"
  | isFlags _ => some "is_flags"
  | members _ => some "members"
  | other _ => none

/-- The texts of an entry under its key. Other keys may have any value. -/
inductive Lays : DeclarationEntry → String → List Char → Prop where
  | name {given : String} {text : List Char} (spells : SpellsString given text) :
      Lays (.name given) "name" text
  | typeName {given : String} {text : List Char} (spells : SpellsString given text) :
      Lays (.typeName given) "underlying_type" text
  | isFlags (given : Bool) : Lays (.isFlags given) "is_flags" (truth given)
  | members {given : List (List MemberEntry)} {text : List Char}
      (laid : LaysItems LaysMember true given text) :
      Lays (.members given) "members" ('[' :: text ++ [']'])
  | other {key : String} {text : List Char}
      (unknown : key ∉ ["name", "underlying_type", "is_flags", "members"])
      (isValue : IsValue text) :
      Lays (.other key) key text

/-- What an entry does to the fields read so far. -/
def take (fields : Fields) : DeclarationEntry → Option Fields
  | name given => if fields.name.isSome then none else some { fields with name := some given }
  | typeName given =>
    if fields.typeName.isSome then none else some { fields with typeName := some given }
  | isFlags given =>
    if fields.isFlags.isSome then none else some { fields with isFlags := some given }
  | members given =>
    if fields.members.isSome then none
    else (given.mapM memberOf?).map fun members => { fields with members := some members }
  | other _ => some fields

end DeclarationEntry

/-- A list of members is read from every layout of each. -/
theorem readMembers_laid {given : List (List MemberEntry)} {text : List Char}
    (laid : LaysItems LaysMember true given text) (isBlank : Blank blank) (rest : List Char) :
    (readMembers (blank ++ ('[' :: text ++ [']']) ++ rest)).toOption =
      (given.mapM memberOf?).map (·, rest) := by
  have isText : blank ++ ('[' :: text ++ [']']) ++ rest =
      blank ++ '[' :: (text ++ ']' :: rest) := by simp
  rw [readMembers, isText, dropSpace_token isBlank rfl]
  exact elements_laid readMember_readsEach laid rest

/-- The reader of a declaration takes its entries as they come. -/
theorem readEntry_follows : Follows readEntry DeclarationEntry.Lays DeclarationEntry.take := by
  intro fields item key before after text rest laid isBlankBefore isBlankAfter stops
  cases laid with
  | name spells =>
    simp only [readEntry, DeclarationEntry.take, if_true]
    exact readField_given "name" fields.name (fun given => { fields with name := some given })
      isBlankBefore (readText_spelled spells isBlankAfter rest)
  | typeName spells =>
    simp only [readEntry, DeclarationEntry.take, String.reduceEq, if_true, if_false]
    exact readField_given "underlying_type" fields.typeName
      (fun given => { fields with typeName := some given })
      isBlankBefore (readText_spelled spells isBlankAfter rest)
  | isFlags given =>
    simp only [readEntry, DeclarationEntry.take, String.reduceEq, if_true, if_false]
    exact readField_given "is_flags" fields.isFlags
      (fun given => { fields with isFlags := some given }) isBlankBefore
      (readTruth_reads given after _ rest isBlankAfter (.boolean given) stops.ends)
  | members laid =>
    simp only [readEntry, DeclarationEntry.take, String.reduceEq, if_true, if_false]
    exact readField_laid "members" fields.members
      (fun members => { fields with members := some members }) isBlankBefore
      (readMembers_laid laid isBlankAfter rest)
  | other unknown isValue =>
    simp only [List.mem_cons, List.not_mem_nil, or_false, not_or] at unknown
    simp only [readEntry, unknown, if_false]
    rw [skipped fields isValue isBlankBefore isBlankAfter stops]
    rfl

/-- The texts of a document with the given entries. -/
def LaysDocument (entries : List DeclarationEntry) (text : List Char) : Prop :=
  ∃ before inside after, Blank before ∧ LaysFields DeclarationEntry.Lays true entries inside ∧
    Blank after ∧ text = before ++ ('\x7b' :: inside ++ ['\x7d']) ++ after

/-- The declaration that entries give, if they give a name and no field twice. -/
def declarationOf? (entries : List DeclarationEntry) : Option Declaration :=
  (entries.foldlM DeclarationEntry.take ⟨none, none, none, none⟩).bind fun fields =>
    fields.name.map fun name => build name fields

/-- Reading a record is reading its entries. -/
theorem readRecord_object (isBlank : Blank blank) (text : List Char) :
    (readRecord (blank ++ '\x7b' :: text)).toOption =
      (Json.entries readEntry ⟨none, none, none, none⟩ text).toOption.bind fun result =>
        (result.1.declaration result.2).toOption := by
  rw [readRecord, dropSpace_token isBlank rfl]
  exact toOption_bind _ _

/-- A document of any layout is read as the declaration that its entries give. -/
theorem read_laid {entries : List DeclarationEntry} {text : List Char}
    (laid : LaysDocument entries text) : (read text).toOption = declarationOf? entries := by
  obtain ⟨before, inside, after, isBlankBefore, laid, isBlankAfter, rfl⟩ := laid
  have finished : ∀ declaration : Declaration, finish declaration after = .ok declaration := by
    intro declaration
    have empty := dropSpace_blank isBlankAfter []
    rw [List.append_nil] at empty
    rw [finish, empty]
    rfl
  have isRead : (readRecord (before ++ ('\x7b' :: inside ++ ['\x7d']) ++ after)).toOption =
      (declarationOf? entries).map (·, after) := by
    have isText : before ++ ('\x7b' :: inside ++ ['\x7d']) ++ after =
        before ++ '\x7b' :: (inside ++ '\x7d' :: after) := by simp
    rw [isText, readRecord_object isBlankBefore, entries_laid readEntry_follows laid,
      declarationOf?]
    cases entries.foldlM DeclarationEntry.take ⟨none, none, none, none⟩ with
    | none => rfl
    | some fields =>
      simp only [Option.map_some, Option.bind_some, Fields.declaration]
      cases fields.name <;> rfl
  rw [read, toOption_bind, isRead]
  cases declarationOf? entries with
  | none => rfl
  | some declaration => simp only [Option.map_some, Option.bind_some, finished, Except.toOption]

/-- Loading a file is reading its text. -/
theorem loadDeclaration_text {disk : Disk} {path : Path} {text : List Char}
    (isFile : disk path = .file (String.ofList text).toUTF8) :
    (Program.loadDeclaration disk path).toOption = (read text).toOption := by
  rw [Program.loadDeclaration, Disk.readText, isFile]
  simp only [decodeText_toUTF8, Program.readDeclaration, ofText, String.toList_ofList]
  cases read text <;> rfl

/-! ## Each field once -/

/-- A field is given once, or left out where it has its default. -/
def GivenOnce {α : Type} (given : List α) (value fallback : α) : Prop :=
  given = [value] ∨ given = [] ∧ value = fallback

/-- Entries give a member: its name once, and its constant at most once. -/
structure Describes (entries : List MemberEntry) (member : Member) : Prop where
  name : entries.filterMap MemberEntry.name? = [member.name]
  value : GivenOnce (entries.filterMap MemberEntry.value?) member.value none

/-- Entries give a declaration: its name once, and every other field at most
once. -/
structure Declares (entries : List DeclarationEntry) (declaration : Declaration) : Prop where
  name : entries.filterMap DeclarationEntry.name? = [declaration.name]
  typeName : GivenOnce (entries.filterMap DeclarationEntry.typeName?) declaration.typeName "int"
  isFlags : GivenOnce (entries.filterMap DeclarationEntry.isFlags?) declaration.isFlags false
  members : (∃ given, entries.filterMap DeclarationEntry.members? = [given] ∧
      List.Forall₂ Describes given declaration.members) ∨
    entries.filterMap DeclarationEntry.members? = [] ∧ declaration.members = []

/-- A field that is still to come, and comes at most once, was not read before. -/
theorem eq_none_of_once {α : Type} {current : Option α} {given : α} {others : List α}
    (once : (current.toList ++ given :: others).length ≤ 1) : current = none := by
  cases current with
  | none => rfl
  | some value => simp at once

private theorem foldlM_take_member {entries : List MemberEntry} {fields : MemberFields}
    (names : (fields.name.toList ++ entries.filterMap MemberEntry.name?).length ≤ 1)
    (values : (fields.value.toList ++ entries.filterMap MemberEntry.value?).length ≤ 1) :
    entries.foldlM MemberEntry.take fields =
      some ⟨(fields.name.toList ++ entries.filterMap MemberEntry.name?).head?,
        (fields.value.toList ++ entries.filterMap MemberEntry.value?).head?⟩ := by
  induction entries generalizing fields with
  | nil =>
    obtain ⟨name, value⟩ := fields
    cases name <;> cases value <;> rfl
  | cons entry others inductionHypothesis =>
    cases entry with
    | name given =>
      have absent : fields.name = none := eq_none_of_once names
      rw [absent] at names
      have more := @inductionHypothesis { fields with name := some given } names values
      rw [List.foldlM_cons, MemberEntry.take, absent]
      exact more
    | value given =>
      have absent : fields.value = none := eq_none_of_once values
      rw [absent] at values
      have more := @inductionHypothesis { fields with value := some given } names values
      rw [List.foldlM_cons, MemberEntry.take, absent]
      exact more
    | other key => exact inductionHypothesis names values

private theorem GivenOnce.length_le {α : Type} {given : List α} {value fallback : α}
    (once : GivenOnce given value fallback) : given.length ≤ 1 := by
  rcases once with rfl | ⟨rfl, _⟩ <;> simp

private theorem GivenOnce.getD_head? {α : Type} {given : List α} {value fallback : α}
    (once : GivenOnce given value fallback) : given.head?.getD fallback = value := by
  rcases once with rfl | ⟨rfl, rfl⟩ <;> rfl

/-- Entries that give each field of a member once give the member. -/
theorem memberOf?_of_describes {entries : List MemberEntry} {member : Member}
    (describes : Describes entries member) : memberOf? entries = some member := by
  obtain ⟨name, value⟩ := describes
  have taken := @foldlM_take_member entries ⟨none, none⟩ (by simp [name]) value.length_le
  rw [memberOf?, taken]
  simp only [Option.toList_none, List.nil_append, name, Option.bind_some, List.head?_cons,
    Option.map_some, value.getD_head?]

private theorem mapM_memberOf? {given : List (List MemberEntry)} {members : List Member}
    (describe : List.Forall₂ Describes given members) : given.mapM memberOf? = some members := by
  induction describe with
  | nil => rfl
  | cons describes _ inductionHypothesis =>
    rw [List.mapM_cons, memberOf?_of_describes describes, inductionHypothesis]
    rfl

private theorem foldlM_take_declaration {entries : List DeclarationEntry} {fields : Fields}
    {members : List Member}
    (names : (fields.name.toList ++ entries.filterMap DeclarationEntry.name?).length ≤ 1)
    (typeNames :
      (fields.typeName.toList ++ entries.filterMap DeclarationEntry.typeName?).length ≤ 1)
    (marks : (fields.isFlags.toList ++ entries.filterMap DeclarationEntry.isFlags?).length ≤ 1)
    (lists : (fields.members.toList ++
      (entries.filterMap DeclarationEntry.members?).map fun _ => members).length ≤ 1)
    (describe : ∀ given ∈ entries.filterMap DeclarationEntry.members?,
      given.mapM memberOf? = some members) :
    entries.foldlM DeclarationEntry.take fields =
      some
        { name := (fields.name.toList ++ entries.filterMap DeclarationEntry.name?).head?
          typeName := (fields.typeName.toList ++ entries.filterMap DeclarationEntry.typeName?).head?
          isFlags := (fields.isFlags.toList ++ entries.filterMap DeclarationEntry.isFlags?).head?
          members := (fields.members.toList ++
            (entries.filterMap DeclarationEntry.members?).map fun _ => members).head? } := by
  induction entries generalizing fields with
  | nil =>
    obtain ⟨name, typeName, isFlags, members⟩ := fields
    cases name <;> cases typeName <;> cases isFlags <;> cases members <;> rfl
  | cons entry others inductionHypothesis =>
    -- An entry moves its value from the fields that are still to come to those that were read,
    -- so that together they give each field as often as before.
    cases entry with
    | name given =>
      have absent : fields.name = none := eq_none_of_once names
      rw [absent] at names
      have more := @inductionHypothesis { fields with name := some given } names typeNames marks
        lists describe
      rw [List.foldlM_cons, DeclarationEntry.take, absent]
      exact more
    | typeName given =>
      have absent : fields.typeName = none := eq_none_of_once typeNames
      rw [absent] at typeNames
      have more := @inductionHypothesis { fields with typeName := some given } names typeNames marks
        lists describe
      rw [List.foldlM_cons, DeclarationEntry.take, absent]
      exact more
    | isFlags given =>
      have absent : fields.isFlags = none := eq_none_of_once marks
      rw [absent] at marks
      have more := @inductionHypothesis { fields with isFlags := some given } names typeNames marks
        lists describe
      rw [List.foldlM_cons, DeclarationEntry.take, absent]
      exact more
    | members given =>
      have absent : fields.members = none := eq_none_of_once lists
      rw [absent] at lists
      have described : given.mapM memberOf? = some members := describe given List.mem_cons_self
      have more := @inductionHypothesis { fields with members := some members } names typeNames
        marks lists (fun other inside => describe other (List.mem_cons_of_mem _ inside))
      rw [List.foldlM_cons, DeclarationEntry.take, absent, described]
      exact more
    | other key => exact inductionHypothesis names typeNames marks lists describe

/-- Entries that give each field of a declaration once give the declaration. -/
theorem declarationOf?_of_declares {entries : List DeclarationEntry} {declaration : Declaration}
    (declares : Declares entries declaration) : declarationOf? entries = some declaration := by
  obtain ⟨name, typeName, isFlags, members⟩ := declares
  have once : GivenOnce
      ((entries.filterMap DeclarationEntry.members?).map fun _ => declaration.members)
      declaration.members [] := by
    rcases members with ⟨given, isGiven, _⟩ | ⟨none, empty⟩
    · exact .inl (by rw [isGiven]; rfl)
    · exact .inr ⟨by rw [none]; rfl, empty⟩
  have describe : ∀ given ∈ entries.filterMap DeclarationEntry.members?,
      given.mapM memberOf? = some declaration.members := by
    rcases members with ⟨given, isGiven, describe⟩ | ⟨none, _⟩
    · rw [isGiven]
      rintro _ (_ | ⟨_, ⟨⟩⟩)
      exact mapM_memberOf? describe
    · rw [none]
      rintro _ ⟨⟩
  have taken := @foldlM_take_declaration entries ⟨none, none, none, none⟩ declaration.members
    (by simp [name]) typeName.length_le isFlags.length_le once.length_le describe
  rw [declarationOf?, taken]
  simp only [Option.toList_none, List.nil_append, name, Option.bind_some, List.head?_cons,
    Option.map_some, build, typeName.getD_head?, isFlags.getD_head?, once.getD_head?]

/-! ## A known key twice -/

/-- Whether a field of a member was read. -/
def MemberFields.Has (key : String) (fields : MemberFields) : Prop :=
  key = "name" ∧ fields.name.isSome ∨ key = "value" ∧ fields.value.isSome

/-- A field that was read stays, and an entry with a known key is read. -/
theorem MemberFields.has_of_take (key : String) (fields : MemberFields) (entry : MemberEntry)
    (next : MemberFields) (taken : entry.take fields = some next)
    (given : fields.Has key ∨ entry.key? = some key) : next.Has key := by
  unfold MemberFields.Has at given ⊢
  cases entry with
  | name value | value value =>
    rw [MemberEntry.take] at taken
    split at taken
    · cases taken
    · cases taken
      grind [MemberEntry.key?]
  | other other =>
    cases taken
    exact given.resolve_right (by simp [MemberEntry.key?])

private theorem readMemberEntry_again (key : String) (fields : MemberFields) (input : List Char)
    (has : fields.Has key) : (readMemberEntry fields key input).toOption = none := by
  rcases has with ⟨rfl, isName⟩ | ⟨rfl, isValue⟩
  · simp only [readMemberEntry, readField, isName, if_true]
    rfl
  · simp only [readMemberEntry, readField, isValue, String.reduceEq, if_true, if_false]
    rfl

/-- A member with a known key twice is refused. -/
theorem readMember_repeated {text : List Char}
    (repeats : RepeatsKey MemberEntry.Lays MemberEntry.key? text) :
    Opens text ∧ (readMember text).toOption = none := by
  obtain ⟨rest, rfl⟩ : ∃ rest, text = '\x7b' :: rest := by
    obtain ⟨_, _, _, _, _, _, _, _, _, _, rfl⟩ := repeats
    exact ⟨_, rfl⟩
  refine ⟨⟨'\x7b', rest, rfl, by decide⟩, ?_⟩
  have refused := entries_repeated readMemberEntry_follows MemberFields.has_of_take
    readMemberEntry_again ⟨none, none⟩ repeats
  rw [readMember_object, refused]
  rfl

/-- Whether a field of a declaration was read. -/
def Fields.Has (key : String) (fields : Fields) : Prop :=
  key = "name" ∧ fields.name.isSome ∨ key = "underlying_type" ∧ fields.typeName.isSome ∨
    key = "is_flags" ∧ fields.isFlags.isSome ∨ key = "members" ∧ fields.members.isSome

/-- A field that was read stays, and an entry with a known key is read. -/
theorem Fields.has_of_take (key : String) (fields : Fields) (entry : DeclarationEntry)
    (next : Fields) (taken : entry.take fields = some next)
    (given : fields.Has key ∨ entry.key? = some key) : next.Has key := by
  unfold Fields.Has at given ⊢
  cases entry with
  | name value | typeName value | isFlags value =>
    rw [DeclarationEntry.take] at taken
    split at taken
    · cases taken
    · cases taken
      grind [DeclarationEntry.key?]
  | members value =>
    rw [DeclarationEntry.take] at taken
    split at taken
    · cases taken
    · obtain ⟨members, _, rfl⟩ := Option.map_eq_some_iff.mp taken
      grind [DeclarationEntry.key?]
  | other other =>
    cases taken
    exact given.resolve_right (by simp [DeclarationEntry.key?])

private theorem readEntry_again (key : String) (fields : Fields) (input : List Char)
    (has : fields.Has key) : (readEntry fields key input).toOption = none := by
  rcases has with ⟨rfl, isSome⟩ | ⟨rfl, isSome⟩ | ⟨rfl, isSome⟩ | ⟨rfl, isSome⟩ <;>
    simp only [readEntry, readField, isSome, String.reduceEq, if_true, if_false] <;> rfl

/-- The text of a document in which a known key comes again: in the declaration's
own object, or in that of a member. From that key on the text is arbitrary. -/
inductive RepeatsKnownKey : List Char → Prop where
  | ofDeclaration {blank text : List Char} (isBlank : Blank blank)
      (repeats : RepeatsKey DeclarationEntry.Lays DeclarationEntry.key? text) :
      RepeatsKnownKey (blank ++ text)
  | ofMember {entries : List DeclarationEntry} {members : List (List MemberEntry)}
      {blank inside mark keyText before after membersText memberMark text : List Char}
      (isBlank : Blank blank) (laid : LaysFields DeclarationEntry.Lays true entries inside)
      (separates : Separates entries.isEmpty mark)
      (spells : SpellsCharacters "members".toList keyText) (isBlankBefore : Blank before)
      (isBlankAfter : Blank after) (laidMembers : LaysItems LaysMember true members membersText)
      (separatesMember : Separates members.isEmpty memberMark)
      (repeats : RepeatsKey MemberEntry.Lays MemberEntry.key? text) :
      RepeatsKnownKey (blank ++ '\x7b' :: (inside ++ (mark ++ '\x22' :: keyText ++ '\x22' ::
        (before ++ ':' :: (after ++ '[' :: (membersText ++ (memberMark ++ text)))))))

private theorem read_refused {text : List Char} (isBlank : Blank blank)
    (refused : (Json.entries readEntry ⟨none, none, none, none⟩ text).toOption = none) :
    (read (blank ++ '\x7b' :: text)).toOption = none := by
  rw [read, toOption_bind, readRecord_object isBlank, refused]
  rfl

private theorem readMembers_refused {members : List (List MemberEntry)} {text mark rest : List Char}
    (isBlank : Blank blank) (laid : LaysItems LaysMember true members text)
    (separates : Separates members.isEmpty mark)
    (repeats : RepeatsKey MemberEntry.Lays MemberEntry.key? rest) :
    (readMembers (blank ++ '[' :: (text ++ (mark ++ rest)))).toOption = none := by
  obtain ⟨opens, refused⟩ := readMember_repeated repeats
  rw [readMembers, dropSpace_token isBlank rfl]
  exact elements_refused readMember_readsEach laid separates opens refused

/-- A document with a known key twice is refused. -/
theorem read_repeated {text : List Char} (repeats : RepeatsKnownKey text) :
    (read text).toOption = none := by
  cases repeats with
  | @ofDeclaration blank text isBlank repeats =>
    obtain ⟨rest, rfl⟩ : ∃ rest, text = '\x7b' :: rest := by
      obtain ⟨_, _, _, _, _, _, _, _, _, _, rfl⟩ := repeats
      exact ⟨_, rfl⟩
    exact read_refused isBlank (entries_repeated readEntry_follows Fields.has_of_take
      readEntry_again ⟨none, none, none, none⟩ repeats)
  | ofMember isBlank laid separates spells isBlankBefore isBlankAfter laidMembers separatesMember
      repeats =>
    refine read_refused isBlank (entries_refused readEntry_follows laid separates spells ?_)
    intro fields _
    have refused := readMembers_refused isBlankAfter laidMembers separatesMember repeats
    have stored := @readField_laid _ [] _ _ "members" fields.members _
      (fun members => { fields with members := some members }) _ none isBlankBefore refused
    simp only [readEntry, String.reduceEq, if_true, if_false]
    rw [stored]
    split <;> rfl

/-! ## Whole documents -/

/-- A declaration loads the same whatever the order of its keys, the blanks
between them, the escapes in its texts and the other keys that its objects hold.
A known key that comes twice is always refused. -/
theorem loads_any_layout :
    (∀ (entries : List DeclarationEntry) (declaration : Declaration) (text : List Char),
      LaysDocument entries text → Declares entries declaration →
        Loads (String.ofList text) declaration) ∧
    ∀ text : List Char, RepeatsKnownKey text → ∀ (disk : Disk) (path : Path),
      disk path = .file (String.ofList text).toUTF8 →
        ∃ error, Program.loadDeclaration disk path = .error error := by
  constructor
  · intro entries declaration text laid declares disk path isFile
    have loaded := loadDeclaration_text isFile
    rw [read_laid laid, declarationOf?_of_declares declares] at loaded
    cases result : Program.loadDeclaration disk path with
    | error error =>
      rw [result] at loaded
      cases loaded
    | ok other =>
      rw [result] at loaded
      cases loaded
      rfl
  · intro text repeats disk path isFile
    have loaded := loadDeclaration_text isFile
    rw [read_repeated repeats] at loaded
    cases result : Program.loadDeclaration disk path with
    | error error => exact ⟨error, rfl⟩
    | ok other =>
      rw [result] at loaded
      cases loaded

/-- A name that needs no escapes. -/
theorem spellsString_unescaped {value : String}
    (unescaped : value.toList.all (Unescaped ·) = true) :
    SpellsString value ('\x22' :: value.toList ++ ['\x22']) :=
  ⟨value.toList, spellsCharacters_unescaped unescaped, rfl⟩

/-- Members before the name, an escape in a key, a zero with a sign, an unknown
key with a nested value, and a type and a mark that are left out; and a member's
key that comes again. -/
theorem loads_any_layout_mixed :
    Loads ("\n\x7b \"m\\u0065mbers\" : [\x7b\"value\":-0,\"x\":[1.5e3, \x7b\x7d]," ++
        "\"name\":\"A\"\x7d],\"name\":\"E\"\x7d ")
      { name := "E", members := [⟨"A", some 0⟩] } ∧
    ∀ (disk : Disk) (path : Path),
      disk path = .file "\x7b\"members\":[\x7b\"value\":null,\"valu\\u0065\": ?".toUTF8 →
        ∃ error, Program.loadDeclaration disk path = .error error := by
  have comma : Separates false [','] := @Separates.later [] [] blank_nil blank_nil
  have oneDigit : ∀ digit, isDecimalDigit digit = true → IsDigits [digit] :=
    fun digit isDigit => ⟨List.cons_ne_nil _ _, by simpa using isDigit⟩
  have number : IsNumber "1.5e3".toList :=
    @IsNumber.mk [] ['1'] ['.', '5'] ['e', '3'] (.inl rfl) (.digits (by decide) (oneDigit '1' rfl))
      (.digits (oneDigit '5' rfl)) (@IsExponent.digits 'e' [] ['3'] (.inl rfl) (.inl rfl)
        (oneDigit '3' rfl))
  have nested : IsValue "[1.5e3, \x7b\x7d]".toList :=
    .array (@IsItems.next true [] _ _ (.first blank_nil) (.number number)
      (@IsItems.next false [',', ' '] ['\x7b', '\x7d'] []
        (@Separates.later [] [' '] blank_nil blank_space) (.object (.none blank_nil))
        (.none blank_nil)))
  have named : LaysFields MemberEntry.Lays false [.name "A"] ",\"name\":\"A\"".toList :=
    .cons comma (MemberEntry.Lays.name (spellsString_unescaped (by decide))) (.none blank_nil)
      (by decide)
  have unknown : LaysFields MemberEntry.Lays false [.other "x", .name "A"]
      ",\"x\":[1.5e3, \x7b\x7d],\"name\":\"A\"".toList :=
    .cons comma (MemberEntry.Lays.other (by decide) nested) named (by decide)
  have inside : LaysFields MemberEntry.Lays true [.value (some 0), .other "x", .name "A"]
      "\"value\":-0,\"x\":[1.5e3, \x7b\x7d],\"name\":\"A\"".toList :=
    .cons (.first blank_nil) (@MemberEntry.Lays.value 0 ['-', '0'] (.inr ⟨rfl, rfl⟩) (by decide))
      unknown (by decide)
  have onlyMember : LaysItems LaysMember true [[.value (some 0), .other "x", .name "A"]]
      "\x7b\"value\":-0,\"x\":[1.5e3, \x7b\x7d],\"name\":\"A\"\x7d".toList :=
    @LaysItems.next _ LaysMember true _ [] [] _ [] (.first blank_nil) ⟨_, inside, rfl⟩
      (.none blank_nil)
  have lastName : LaysFields DeclarationEntry.Lays false [.name "E"] ",\"name\":\"E\"".toList :=
    .cons comma (DeclarationEntry.Lays.name (spellsString_unescaped (by decide))) (.none blank_nil)
      (by decide)
  have escapedE : SpellsCharacter 'e' ['\x5c', 'u', '0', '0', '6', '5'] :=
    .unit (@CodeUnit.mk '0' '0' '6' '5' 0 0 6 5 ⟨by decide, .inl rfl⟩ ⟨by decide, .inl rfl⟩
      ⟨by decide, .inl rfl⟩ ⟨by decide, .inl rfl⟩)
  have escapedKey : SpellsCharacters "members".toList "m\\u0065mbers".toList :=
    @SpellsCharacters.next 'm' ('e' :: "mbers".toList) ['m'] _ (.plain (by decide))
      (.next escapedE (spellsCharacters_unescaped (by decide)))
  have all : LaysFields DeclarationEntry.Lays true
      [.members [[.value (some 0), .other "x", .name "A"]], .name "E"]
      (" \"m\\u0065mbers\" : [\x7b\"value\":-0,\"x\":[1.5e3, \x7b\x7d],\"name\":\"A\"\x7d]," ++
        "\"name\":\"E\"").toList :=
    @LaysFields.next _ _ true _ _ _ [' '] _ [' '] [' '] _ _ (.first blank_space) escapedKey
      blank_space blank_space (DeclarationEntry.Lays.members onlyMember) lastName
  have declares : Declares [.members [[.value (some 0), .other "x", .name "A"]], .name "E"]
      { name := "E", members := [⟨"A", some 0⟩] } :=
    ⟨rfl, .inr ⟨rfl, rfl⟩, .inr ⟨rfl, rfl⟩, .inl ⟨_, rfl, .cons ⟨rfl, .inl rfl⟩ .nil⟩⟩
  have escapedValue : SpellsCharacters "value".toList "valu\\u0065".toList :=
    @SpellsCharacters.next 'v' ['a', 'l', 'u', 'e'] ['v'] _ (.plain (by decide))
      (.next (.plain (by decide)) (.next (.plain (by decide)) (.next (.plain (by decide))
        (.next escapedE .none))))
  have nothing : LaysFields MemberEntry.Lays true [.value none] "\"value\":null".toList :=
    .cons (.first blank_nil) MemberEntry.Lays.null (.none blank_nil) (by decide)
  have repeats : RepeatsKnownKey
      "\x7b\"members\":[\x7b\"value\":null,\"valu\\u0065\": ?".toList :=
    @RepeatsKnownKey.ofMember [] [] [] [] [] "members".toList [] [] [] [] _ blank_nil
      (.none blank_nil) (.first blank_nil) (spellsCharacters_unescaped (by decide)) blank_nil
      blank_nil (.none blank_nil) (.first blank_nil)
      ⟨_, "value", _, _, _, ": ?".toList, nothing, comma, escapedValue, by decide, rfl⟩
  constructor
  · exact loads_any_layout.1 _ _ _ ⟨['\n'], _, [' '], blank_newLine 0, all, blank_space, rfl⟩
      declares
  · exact loads_any_layout.2 _ repeats

end Declaration

end FlagEnum
