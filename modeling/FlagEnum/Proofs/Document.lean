import FlagEnum.Proofs.Editing
import FlagEnum.Report

/-!
# Reports as documents

A report on an offer is plain text or a document. The plain one is always
there. The document holds integers of 64 bits only, while a declaration may
have constants of 128, and a constant that does not fit leaves the command
without a report. Offered values always fit, so the declaration alone decides.
-/

namespace FlagEnum

namespace Report

variable {declaration : Declaration} {policy : Policy}

/-- A document can store the integers that have 64 bits, with a sign or without.
-/
theorem isStorable_iff {value : Int} :
    isStorable value = true ↔ -2 ^ 63 ≤ value ∧ value < 2 ^ 64 := by
  simp [isStorable]

/-- No domain is wider than what a document can hold. -/
theorem isStorable_of_contains {domain : Domain} {value : Int}
    (inside : domain.contains value = true) : isStorable value = true := by
  obtain ⟨above, below⟩ := Domain.contains_iff.mp inside
  have least : -2 ^ 63 ≤ domain.minValue := by cases domain <;> decide
  have slots : domain.slots ≤ 64 := domain.slots_le_bits.trans domain.bits_le
  have widest : (2 : Int) ^ domain.slots ≤ 2 ^ 64 := pow_le_pow_right₀ (by norm_num) slots
  exact isStorable_iff.mpr ⟨least.trans above, below.trans_le widest⟩

/-- A document can hold a declaration if it can store each constant. -/
theorem holds_iff :
    holds declaration = true ↔
      ∀ member ∈ declaration.members, ∀ value, member.value = some value →
        isStorable value = true := by
  simp [holds, Option.all_eq_true]

/-- A suggested member fits, so accepting it changes nothing about the others. -/
theorem holds_accept {offer : NamedFlag}
    (suggested : declaration.suggest Member.value policy = some offer) :
    holds (declaration.accept offer) = holds declaration := by
  obtain ⟨domain, _, chosen, _⟩ := Declaration.suggest_eq_some_iff.mp suggested
  have fits := isStorable_of_contains (Policy.choose_fits chosen).contained
  simp [holds, Declaration.accept, Declaration.append, fits]

end Report

namespace Declaration

variable {declaration : Declaration} {policy : Policy} {offers : List NamedFlag}

/-- A document can hold the constants that are still there once values are
recorded. A constant is lost where another member of its name had none. -/
def StorableOnceRecorded (declaration : Declaration) : Prop :=
  ∀ member ∈ declaration.members, ∀ value, member.value = some value →
    Report.isStorable value = true ∨
      ∃ other ∈ declaration.members, other.name = member.name ∧ other.value = none

private theorem isStorable_of_offeredValue?
    (assigned : declaration.assign Member.value policy = some offers) {name : String} {value : Int}
    (offered : offeredValue? offers name = some value) : Report.isStorable value = true := by
  obtain ⟨index, offer, found, _, rfl⟩ := exists_offer_of_offeredValue? offered
  obtain ⟨domain, _, fits⟩ := assign_fits assigned
  exact Report.isStorable_of_contains (fits index offer found).contained

/-- Recorded values fit, so only constants that stay can be too wide. -/
theorem holds_record (assigned : declaration.assign Member.value policy = some offers) :
    Report.holds (declaration.record offers) = true ↔ declaration.StorableOnceRecorded := by
  rw [Report.holds_iff]
  constructor
  · intro storable member isMember value isValue
    obtain ⟨index, found⟩ := List.mem_iff_getElem?.mp isMember
    cases offered : offeredValue? offers member.name with
    | none =>
      have recorded := @record_getElem? declaration offers index member found
      rw [offered, Option.none_or] at recorded
      exact Or.inl (storable member (List.mem_of_getElem? recorded) value isValue)
    | some newValue =>
      have shared :=
        (@offeredValue?_eq_none_iff declaration policy offers assigned member.name).not.mp
          (by simp [offered])
      push Not at shared
      exact Or.inr shared
  · intro storable updated isUpdated value isValue
    obtain ⟨member, isMember, rfl⟩ := List.mem_map.mp isUpdated
    split at isValue
    · next newValue offered =>
      cases isValue
      exact isStorable_of_offeredValue? assigned offered
    · next unoffered =>
      rcases storable member isMember value isValue with fits | ⟨other, isOther, same, unvalued⟩
      · exact fits
      · exact absurd unvalued ((offeredValue?_eq_none_iff assigned).mp unoffered other isOther same)

end Declaration

namespace Report

/-- A document beside the plain report of the same command: there is one exactly
where everything fits, and it never says another outcome. -/
structure Accompanies (document plain : Option Report) (fits : Prop) : Prop where
  plain_exists : ∃ report, plain = some report
  document_exists : (∃ report, document = some report) ↔ fits
  same_outcome : ∀ written printed, document = some written → plain = some printed →
    written.produced = printed.produced

variable {declaration : Declaration} {policy : Policy}

/-- Where nothing is offered, both forms say so. -/
theorem declined_accompanies (declaration : Declaration) (format : Format) :
    Accompanies (some (declined declaration { format with json := true }))
      (some (declined declaration { format with json := false })) True where
  plain_exists := ⟨_, rfl⟩
  document_exists := by simp
  same_outcome := by
    rintro _ _ ⟨⟩ ⟨⟩
    rfl

/-- The plain report of an offer is always printed, and its document if it fits. -/
theorem offered_accompanies {written printed : Report} (fits : Bool)
    (produced : written.produced = printed.produced) :
    Accompanies (if fits then some written else none) (some printed) (fits = true) where
  plain_exists := ⟨_, rfl⟩
  document_exists := by cases fits <;> simp
  same_outcome := by
    intro document plain isDocument isPlain
    cases isPlain
    cases fits with
    | true =>
      cases isDocument
      exact produced
    | false => cases isDocument

private theorem Accompanies.congr {document plain : Option Report} {fits fits' : Prop}
    (accompanies : Accompanies document plain fits) (same : fits ↔ fits') :
    Accompanies document plain fits' :=
  ⟨accompanies.plain_exists, accompanies.document_exists.trans same, accompanies.same_outcome⟩

/-- On a new member there is a document if it can hold the declaration with it. -/
theorem member_accompanies (declaration : Declaration) (policy : Policy) (format : Format) :
    Accompanies (member declaration policy { format with json := true })
      (member declaration policy { format with json := false })
      (declaration.suggest Member.value policy = none ∨ holds declaration = true) := by
  unfold member
  cases suggested : declaration.suggest Member.value policy with
  | none => exact (declined_accompanies declaration format).congr (by simp)
  | some offer =>
    simp only [if_true, Bool.false_eq_true, if_false, holds_accept suggested]
    refine (offered_accompanies (holds declaration) ?_).congr (by simp)
    rfl

/-- On assigned values there is a document if it can hold the declaration with
them. -/
theorem assign_accompanies (declaration : Declaration) (policy : Policy) (format : Format) :
    Accompanies (assign declaration policy { format with json := true })
      (assign declaration policy { format with json := false })
      (declaration.assign Member.value policy = none ∨ declaration.StorableOnceRecorded) := by
  unfold assign
  cases assigned : declaration.assign Member.value policy with
  | none => exact (declined_accompanies declaration format).congr (by simp)
  | some offers =>
    obtain ⟨domain, offered, _⟩ := Declaration.assign_eq_some_iff.mp assigned
    simp only [offered, if_true, Bool.false_eq_true, if_false]
    refine (offered_accompanies (holds (declaration.record offers)) ?_).congr
      (by simp [Declaration.holds_record assigned])
    rfl

/-- For either command, any declaration and any way of writing: the document is
missing exactly where something is offered and a constant that it would have to
hold needs more than 64 bits. Otherwise its outcome is that of the plain report. -/
theorem document_missing_iff (declaration : Declaration) (policy : Policy) (format : Format) :
    Accompanies (member declaration policy { format with json := true })
        (member declaration policy { format with json := false })
        (declaration.suggest Member.value policy = none ∨ holds declaration = true) ∧
      Accompanies (assign declaration policy { format with json := true })
        (assign declaration policy { format with json := false })
        (declaration.assign Member.value policy = none ∨ declaration.StorableOnceRecorded) :=
  ⟨member_accompanies declaration policy format, assign_accompanies declaration policy format⟩

/-- The first constant beyond 64 bits leaves both commands without a document,
though both have something to report. -/
theorem document_missing_wide :
    let wide : Declaration :=
      { name := "E", isFlags := true, members := [⟨"X", some (2 ^ 64)⟩] }
    member wide .lowestFree { json := true } = none ∧
      (member wide .lowestFree {}).map Report.produced = some true ∧
      assign wide .lowestFree { json := true } = none ∧
      (assign wide .lowestFree {}).map Report.produced = some true := by
  decide

end Report

end FlagEnum
