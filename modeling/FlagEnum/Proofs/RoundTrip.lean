import FlagEnum.Program
import FlagEnum.Proofs.Document
import FlagEnum.Proofs.Scanning

/-!
# Declarations read back

A declaration is read back from every text of its JSON value, in the order of
fields of its own document and in that of reports. So it survives being saved,
and what a report gives as the updated declaration can be loaded as it stands.
-/

namespace FlagEnum

open Json

/-- The constant of a member is an integer of 128 bits. -/
def Member.InRange (member : Member) : Prop :=
  ∀ value, member.value = some value → minInteger ≤ value ∧ value ≤ maxInteger

namespace Declaration

/-- All constants of a declaration are integers of 128 bits. -/
def InRange (declaration : Declaration) : Prop :=
  ∀ member ∈ declaration.members, member.InRange

variable {rest : List Char}

/-! ## Values of fields -/

private theorem readText_reads (text : String) : Reads readText (.string text) text := by
  intro blank _ rest isBlank spells _
  cases spells with
  | string =>
    rw [readText, quoted, List.append_assoc, List.cons_append, List.cons_append,
      dropSpace_token isBlank rfl, List.append_assoc]
    exact quotedText_escaped text rest

/-- A truth value is read back. -/
theorem readTruth_reads (value : Bool) : Reads readTruth (.boolean value) value := by
  intro blank _ rest isBlank spells _
  cases spells with
  | boolean =>
    rw [readTruth, List.append_assoc]
    cases value with
    | true =>
      rw [show truth true ++ rest = 't' :: ('r' :: 'u' :: 'e' :: rest) from rfl,
        dropSpace_token isBlank rfl]
      rfl
    | false =>
      rw [show truth false ++ rest = 'f' :: ('a' :: 'l' :: 's' :: 'e' :: rest) from rfl,
        dropSpace_token isBlank rfl]
      rfl

/-- The digits of an integer of 128 bits are read back, with the sign before them.
-/
theorem readDigits_decimalDigits {negative : Bool} {number : Nat} {value : Int}
    (isValue : value = if negative then -(number : Int) else number)
    (inRange : minInteger ≤ value ∧ value ≤ maxInteger) (ends : Ends rest) :
    readDigits negative (decimalDigits number ++ rest) = .ok (value, rest) := by
  obtain ⟨taken, dropped⟩ := takeWhile_decimalDigits number ends
  have fits : (decide (value < minInteger) || decide (maxInteger < value)) = false := by
    simp [inRange.1, inRange.2]
  unfold readDigits
  rw [taken, dropped]
  split
  · next empty => exact absurd empty Nat.toDigits_ne_nil
  · next leading => exact absurd leading (decimalDigits_ne number _ _)
  · simp only [digitsValue_decimalDigits, ← isValue, fits, Bool.false_eq_true, if_false]

/-- An integer of 128 bits is read back as a constant. -/
theorem readConstant_reads {value : Int} (inRange : minInteger ≤ value ∧ value ≤ maxInteger) :
    Reads readConstant (.integer value) (some value) := by
  intro blank _ rest isBlank spells ends
  cases spells with
  | integer =>
    rw [readConstant, List.append_assoc, decimal]
    by_cases isNegative : value < 0
    · have isValue : value = if true then -(value.natAbs : Int) else value.natAbs := by
        simp only [if_true]
        omega
      rw [if_pos isNegative, List.cons_append, dropSpace_token isBlank rfl]
      simp only [readDigits_decimalDigits isValue inRange ends]
      rfl
    · have isValue : value = if false then -(value.natAbs : Int) else value.natAbs := by
        simp only [Bool.false_eq_true, if_false]
        omega
      have read := readDigits_decimalDigits isValue inRange ends
      obtain ⟨digit, others, isText, isDigit⟩ := decimalDigits_cons value.natAbs
      rw [isText, List.cons_append] at read
      rw [if_neg isNegative, isText, List.cons_append,
        dropSpace_token isBlank (isSpace_of_isDecimalDigit isDigit)]
      split
      · next empty => cases empty
      · next same =>
        cases same
        cases isDigit
      · next same =>
        cases same
        cases isDigit
      · rw [read]
        rfl

/-! ## Records -/

/-- An entry that stores the first value of a field takes the field, if the
scanner of its value reads it. -/
theorem takes_of_readField {σ α : Type} {entry : σ → String → Scanner σ} {name : String}
    {state : σ} (store : α → σ) {scanner : Scanner α} {json : Json} {value : α}
    (stores : ∀ input, entry state name input = do
      let (value, rest) ← readField name none scanner input
      return (store value, rest))
    (reads : Reads scanner json value) : Takes entry (name, json) state (store value) := by
  intro before isBlankBefore blank text rest isBlank spells ends
  have read := reads blank text rest isBlank spells ends
  rw [stores, readField, if_neg (by simp), colon_blank isBlankBefore]
  simp only [bind, Except.bind, read]
  rfl

/-- An object is opened past blanks. -/
theorem dropSpace_object {blank inside : List Char} (isBlank : Blank blank) :
    dropSpace (blank ++ ('\x7b' :: inside ++ ['\x7d']) ++ rest) =
      '\x7b' :: (inside ++ '\x7d' :: rest) := by
  have isText : blank ++ ('\x7b' :: inside ++ ['\x7d']) ++ rest =
      blank ++ '\x7b' :: (inside ++ '\x7d' :: rest) := by simp
  rw [isText, dropSpace_token isBlank rfl]

private theorem takes_memberName (fields : MemberFields) (name : String)
    (absent : fields.name = none) :
    Takes readMemberEntry ("name", .string name) fields { fields with name := some name } := by
  refine takes_of_readField (fun name => { fields with name := some name }) ?_
    (readText_reads name)
  intro input
  simp [readMemberEntry, absent]

private theorem takes_memberValue (fields : MemberFields) {value : Int}
    (inRange : minInteger ≤ value ∧ value ≤ maxInteger) (absent : fields.value = none) :
    Takes readMemberEntry ("value", .integer value) fields
      { fields with value := some (some value) } := by
  refine takes_of_readField (fun value => { fields with value := some value }) ?_
    (readConstant_reads inRange)
  intro input
  simp [readMemberEntry, absent]

/-- The fields of a member are its name and its constant, if it has one. -/
theorem member_takesAll {member : Member} (inRange : member.InRange) :
    ∃ fields, member.toJson = .object fields ∧
      TakesAll readMemberEntry fields ⟨none, none⟩ ⟨some member.name, member.value.map some⟩ := by
  obtain ⟨name, value⟩ := member
  cases value with
  | none => exact ⟨_, rfl, .next (takes_memberName _ name rfl) .none⟩
  | some value =>
    exact ⟨_, rfl, .next (takes_memberName _ name rfl)
      (.next (takes_memberValue _ (inRange value rfl) rfl) .none)⟩

/-- A member is read back. -/
theorem readMember_reads {member : Member} (inRange : member.InRange) :
    Reads readMember member.toJson member := by
  intro blank text rest isBlank spells _
  obtain ⟨fields, isObject, all⟩ := member_takesAll inRange
  rw [isObject] at spells
  cases spells with
  | object inside =>
    have same : (member.value.map some).getD none = member.value := by
      cases member.value <;> rfl
    rw [readMember, dropSpace_object isBlank]
    simp only [entries_spelled all inside, bind, Except.bind, MemberFields.member, same]

private theorem readMembers_reads {members : List Member}
    (inRange : ∀ member ∈ members, member.InRange) :
    Reads readMembers (.array (members.map Member.toJson)) members := by
  intro blank _ rest isBlank spells _
  cases spells with
  | @array _ text inside =>
    have isText : blank ++ ('[' :: text ++ [']']) ++ rest =
        blank ++ '[' :: (text ++ ']' :: rest) := by simp
    rw [readMembers, isText, dropSpace_token isBlank rfl]
    exact elements_spelled (fun member isMember => readMember_reads (inRange member isMember))
      inside rest

/-! ## Declarations -/

section Fields

variable (fields : Fields)

private theorem takes_name (name : String) (absent : fields.name = none) :
    Takes readEntry ("name", .string name) fields { fields with name := some name } := by
  refine takes_of_readField (fun name => { fields with name := some name }) ?_
    (readText_reads name)
  intro input
  simp [readEntry, absent]

private theorem takes_typeName (typeName : String) (absent : fields.typeName = none) :
    Takes readEntry ("underlying_type", .string typeName) fields
      { fields with typeName := some typeName } := by
  refine takes_of_readField (fun typeName => { fields with typeName := some typeName }) ?_
    (readText_reads typeName)
  intro input
  simp [readEntry, absent]

private theorem takes_isFlags (isFlags : Bool) (absent : fields.isFlags = none) :
    Takes readEntry ("is_flags", .boolean isFlags) fields
      { fields with isFlags := some isFlags } := by
  refine takes_of_readField (fun isFlags => { fields with isFlags := some isFlags }) ?_
    (readTruth_reads isFlags)
  intro input
  simp [readEntry, absent]

private theorem takes_members {members : List Member} (inRange : ∀ member ∈ members, member.InRange)
    (absent : fields.members = none) :
    Takes readEntry ("members", .array (members.map Member.toJson)) fields
      { fields with members := some members } := by
  refine takes_of_readField (fun members => { fields with members := some members }) ?_
    (readMembers_reads inRange)
  intro input
  simp [readEntry, absent]

end Fields

/-- All fields of a declaration, read. -/
def fieldsOf (declaration : Declaration) : Fields :=
  ⟨some declaration.name, some declaration.typeName, some declaration.isFlags,
    some declaration.members⟩

variable {declaration : Declaration}

private theorem readRecord_reads {fields : List (String × Json)}
    (all : TakesAll readEntry fields ⟨none, none, none, none⟩ declaration.fieldsOf) :
    Reads readRecord (.object fields) declaration := by
  intro blank _ rest isBlank spells _
  cases spells with
  | object inside =>
    rw [readRecord, dropSpace_object isBlank]
    simp only [entries_spelled all inside, bind, Except.bind, fieldsOf, Fields.declaration]
    rfl

/-- A declaration is read back from its own document. -/
theorem toJson_reads (inRange : declaration.InRange) :
    Reads readRecord declaration.toJson declaration :=
  readRecord_reads
    (.next (takes_name _ _ rfl) (.next (takes_typeName _ _ rfl)
      (.next (takes_isFlags _ _ rfl) (.next (takes_members _ inRange rfl) .none))))

/-- A declaration is read back from a report. -/
theorem toReport_reads (inRange : declaration.InRange) :
    Reads readRecord declaration.toReport declaration :=
  readRecord_reads
    (.next (takes_isFlags _ _ rfl) (.next (takes_members _ inRange rfl)
      (.next (takes_name _ _ rfl) (.next (takes_typeName _ _ rfl) .none))))

/-- Loading a file with this text gives the declaration, on every disk. -/
def Loads (text : String) (declaration : Declaration) : Prop :=
  ∀ (disk : Disk) (path : Path), disk path = .file text.toUTF8 →
    Program.loadDeclaration disk path = .ok declaration

/-- The bytes of a text are decoded to it. -/
theorem decodeText_toUTF8 (text : String) : decodeText text.toUTF8 = .ok text := by
  have decoded : String.fromUTF8? text.toUTF8 = some text := dif_pos text.isValidUTF8
  rw [decodeText, decoded]

/-- What a reader of the whole record reads can be loaded. -/
theorem loads_of_reads {json : Json} {text : List Char} (reads : Reads readRecord json declaration)
    (spells : Spells json text) : Loads (String.ofList text) declaration := by
  intro disk path isFile
  have read := reads [] text [] blank_nil spells ends_nil
  rw [List.nil_append, List.append_nil] at read
  have whole : Declaration.read text = .ok declaration := by
    rw [Declaration.read, read]
    rfl
  rw [Program.loadDeclaration, Disk.readText, isFile]
  simp only [decodeText_toUTF8, Program.readDeclaration, ofText, String.toList_ofList, whole]
  rfl

/-! ## Declarations inside reports -/

/-- The text of a declaration inside a report. -/
def reportText (declaration : Declaration) : String :=
  String.ofList (declaration.toReport.indentedChars 1)

/-- A declaration is loaded from its own document. -/
theorem loads_compact (inRange : declaration.InRange) :
    Loads declaration.toJson.compact declaration :=
  loads_of_reads (toJson_reads inRange) (spells_compactChars _)

/-- A declaration is loaded from its text inside a report. -/
theorem loads_reportText (inRange : declaration.InRange) :
    Loads declaration.reportText declaration :=
  loads_of_reads (toReport_reads inRange) (spells_indentedChars 1 _)

/-- What a document can hold is within 128 bits. -/
theorem inRange_of_holds (held : Report.holds declaration = true) : declaration.InRange := by
  intro member inside value isValue
  have storable := Report.holds_iff.mp held member inside value isValue
  obtain ⟨above, below⟩ := Report.isStorable_iff.mp storable
  have least : minInteger ≤ -2 ^ 63 := by decide
  have greatest : 2 ^ 64 ≤ maxInteger := by decide
  exact ⟨by omega, by omega⟩

private theorem indentedChars_object (depth : Nat) (field : String × Json)
    (fields : List (String × Json)) :
    indentedChars depth (.object (field :: fields)) =
      '\x7b' :: newLine (depth + 1) ++ indentedFields (depth + 1) (field :: fields) ++
        newLine depth ++ ['\x7d'] := by
  rw [indentedChars]

variable {policy : Policy} {format : Format} {report : Report}

/-- The document on a suggested member, around the two texts that vary. -/
theorem member_out {offer : NamedFlag} (json : format.json = true)
    (suggested : declaration.suggest Member.value policy = some offer)
    (written : Report.member declaration policy format = some report) :
    Report.holds (declaration.accept offer) = true ∧
      report.out = "\x7b\n  \"declaration\": " ++ (declaration.accept offer).reportText ++
        ",\n  \"member\": " ++ String.ofList (offer.toJson.indentedChars 1) ++
        ",\n  \"success\": true\n\x7d\n" := by
  simp only [Report.member, suggested, json, if_true] at written
  split at written
  · next held =>
    cases written
    refine ⟨held, String.toList_inj.mp ?_⟩
    simp only [Report.document, Json.indented, indentedChars_object, indentedFields, reportText,
      String.toList_append, String.toList_ofList, List.append_assoc, List.cons_append]
    rfl
  · cases written

/-- The document on assigned values, around the two texts that vary. -/
theorem assign_out {offers : List NamedFlag} (json : format.json = true)
    (assigned : declaration.assign Member.value policy = some offers)
    (written : Report.assign declaration policy format = some report) :
    Report.holds (declaration.record offers) = true ∧
      report.out = "\x7b\n  \"assigned\": " ++
        String.ofList ((Json.array (offers.map NamedFlag.toJson)).indentedChars 1) ++
        ",\n  \"declaration\": " ++ (declaration.record offers).reportText ++
        ",\n  \"success\": true\n\x7d\n" := by
  obtain ⟨domain, offered, _⟩ := assign_eq_some_iff.mp assigned
  simp only [Report.assign, assigned, offered, json, if_true] at written
  split at written
  · next held =>
    cases written
    refine ⟨held, String.toList_inj.mp ?_⟩
    simp only [Report.document, Json.indented, indentedChars_object, indentedFields, reportText,
      String.toList_append, String.toList_ofList, List.append_assoc, List.cons_append]
    rfl
  · cases written

/-- A declaration survives being written. Its own document loads as the same
declaration, and wherever a report gives the updated declaration, the text
of that field loads as exactly that. -/
theorem loads_back (declaration : Declaration) :
    (declaration.InRange → Loads declaration.toJson.compact declaration) ∧
    (∀ (policy : Policy) (format : Format) (offer : NamedFlag) (report : Report),
      format.json = true → declaration.suggest Member.value policy = some offer →
      Report.member declaration policy format = some report →
      report.out = "\x7b\n  \"declaration\": " ++ (declaration.accept offer).reportText ++
          ",\n  \"member\": " ++ String.ofList (offer.toJson.indentedChars 1) ++
          ",\n  \"success\": true\n\x7d\n" ∧
        Loads (declaration.accept offer).reportText (declaration.accept offer)) ∧
    (∀ (policy : Policy) (format : Format) (offers : List NamedFlag) (report : Report),
      format.json = true → declaration.assign Member.value policy = some offers →
      Report.assign declaration policy format = some report →
      report.out = "\x7b\n  \"assigned\": " ++
          String.ofList ((Json.array (offers.map NamedFlag.toJson)).indentedChars 1) ++
          ",\n  \"declaration\": " ++ (declaration.record offers).reportText ++
          ",\n  \"success\": true\n\x7d\n" ∧
        Loads (declaration.record offers).reportText (declaration.record offers)) := by
  refine ⟨loads_compact, ?_, ?_⟩
  · intro policy format offer report json suggested written
    obtain ⟨held, out⟩ := member_out json suggested written
    exact ⟨out, loads_reportText (inRange_of_holds held)⟩
  · intro policy format offers report json assigned written
    obtain ⟨held, out⟩ := assign_out json assigned written
    exact ⟨out, loads_reportText (inRange_of_holds held)⟩

/-- Names that need escapes, constants at both ends of the range, and for one
declaration both reports: one gives it with a value more, the other with a member
more. -/
theorem loads_back_extremes :
    let extremes : Declaration :=
      { name := "\"\\/\n\x01é😀", typeName := "", isFlags := true
        members := [⟨"\x7f", some minInteger⟩, ⟨"", some maxInteger⟩, ⟨"\t", none⟩] }
    let options : Declaration :=
      { name := "Options\x00", isFlags := true, members := [⟨"\r", some 1⟩, ⟨"\\u0041", none⟩] }
    let updated : Declaration := { options with members := [⟨"\r", some 1⟩, ⟨"\\u0041", some 2⟩] }
    let extended : Declaration :=
      { options with members := [⟨"\r", some 1⟩, ⟨"\\u0041", none⟩, ⟨"EnumMember", some 2⟩] }
    Loads extremes.toJson.compact extremes ∧
      (∃ report, Report.assign options .lowestFree { json := true } = some report) ∧
      Loads updated.reportText updated ∧
      (∃ report, Report.member options .aboveHighest { json := true } = some report ∧
        report.out = "\x7b\n  \"declaration\": " ++ extended.reportText ++ ",\n  \"member\": " ++
          String.ofList ((NamedFlag.mk "EnumMember" ⟨.int, 2⟩).toJson.indentedChars 1) ++
          ",\n  \"success\": true\n\x7d\n") ∧
      Loads extended.reportText extended := by
  intro extremes options updated extended
  have inRange : extremes.InRange := by
    intro member inside value isValue
    simp only [extremes, List.mem_cons, List.not_mem_nil, or_false] at inside
    rcases inside with rfl | rfl | rfl <;> cases isValue <;> decide
  have suggested : options.suggest Member.value .aboveHighest = some ⟨"EnumMember", .int, 2⟩ := by
    decide
  have assigned : options.assign Member.value .lowestFree = some [⟨"\\u0041", .int, 2⟩] := by decide
  cases added : Report.member options .aboveHighest { json := true } with
  | none => exact absurd added (by decide)
  | some memberReport =>
    cases written : Report.assign options .lowestFree { json := true } with
    | none => exact absurd written (by decide)
    | some report =>
      obtain ⟨_, read⟩ := (loads_back options).2.2 .lowestFree { json := true } _ report rfl assigned
        written
      obtain ⟨out, readMember⟩ := (loads_back options).2.1 .aboveHighest { json := true } _
        memberReport rfl suggested added
      exact ⟨(loads_back extremes).1 inRange, ⟨report, rfl⟩, read, ⟨memberReport, rfl, out⟩,
        readMember⟩

end Declaration

end FlagEnum
