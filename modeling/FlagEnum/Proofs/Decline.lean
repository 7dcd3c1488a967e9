import FlagEnum.Proofs.Output
import FlagEnum.Proofs.Selection

/-!
# The reason of a declined suggestion

A declined suggestion is reported with a reason that is worked out from the
declaration alone. For a declaration that is no flags enumeration, or whose type
is unknown, that is enough. Otherwise the report says that no flag is left,
whatever kept the policy from choosing one: under `lowestFree` this is so, under
`aboveHighest` it need not be.
-/

namespace FlagEnum

/-! ## Failing choices -/

namespace Domain

variable {domain : Domain} {values : List Int}

/-- No flag is free exactly when every flag is in use. -/
theorem freeFlags_eq_nil_iff :
    domain.freeFlags values = [] ↔ ∀ exponent < domain.slots, 2 ^ exponent ∈ values := by
  rw [List.eq_nil_iff_forall_not_mem]
  constructor
  · intro noneFree exponent inside
    by_contra unused
    exact noneFree ⟨domain, 2 ^ exponent⟩
      (mem_freeFlags.mpr ⟨rfl, two_pow_mem_powers.mpr inside, unused⟩)
  · intro allUsed flag isFree
    obtain ⟨_, isPower, unused⟩ := mem_freeFlags.mp isFree
    obtain ⟨exponent, inside, isValue⟩ := mem_powers.mp isPower
    exact unused (isValue ▸ allUsed exponent inside)

/-- Beside values that are no flags, every flag is free. -/
theorem freeFlags_of_no_flag (unused : ∀ exponent < domain.slots, 2 ^ exponent ∉ values) :
    domain.freeFlags values = domain.freeFlags [] := by
  refine freeFlags_congr fun power isPower => ?_
  obtain ⟨exponent, inside, rfl⟩ := mem_powers.mp isPower
  simp only [unused exponent inside, List.not_mem_nil]

/-- Where the last flag is in use, the others decide whether one is free. -/
theorem freeFlags_eq_nil_iff_of_last (last : 2 ^ (domain.slots - 1) ∈ values) :
    domain.freeFlags values = [] ↔ ∀ exponent < domain.slots - 1, 2 ^ exponent ∈ values := by
  rw [freeFlags_eq_nil_iff]
  constructor
  · exact fun allUsed exponent inside => allUsed exponent (by omega)
  · intro othersUsed exponent inside
    rcases Nat.lt_or_eq_of_le (Nat.le_sub_one_of_lt inside) with below | isLast
    · exact othersUsed exponent below
    · exact isLast ▸ last

end Domain

namespace Policy

variable {domain : Domain} {values : List Int}

/-- What keeps a policy from a choice beside some values: that all flags are in
use, or that there is no flag to double, or none above the highest. -/
def Blocked : Policy → Domain → List Int → Prop
  | .lowestFree, domain, values => ∀ exponent < domain.slots, 2 ^ exponent ∈ values
  | .aboveHighest, domain, values =>
    (∀ exponent < domain.slots, 2 ^ exponent ∉ values) ∨ 2 ^ (domain.slots - 1) ∈ values

private theorem lowestFree_error_iff (nonempty : values ≠ []) :
    (∃ failure, Policy.lowestFree.choose domain values = .error failure) ↔
      Policy.lowestFree.Blocked domain values := by
  rw [Blocked, ← Domain.freeFlags_eq_nil_iff, choose_lowestFree nonempty]
  cases domain.freeFlags values <;> simp

private theorem aboveHighest_error_iff (nonempty : values ≠ []) :
    (∃ failure, Policy.aboveHighest.choose domain values = .error failure) ↔
      Policy.aboveHighest.Blocked domain values := by
  rw [Blocked]
  rcases exists_greatest_power domain values with unused | ⟨power, isPower, isUsed, greatest⟩
  · have noFlag : ∀ exponent < domain.slots, 2 ^ exponent ∉ values :=
      fun exponent inside => unused _ (Domain.two_pow_mem_powers.mpr inside)
    rw [choose_aboveHighest_none nonempty unused]
    exact ⟨fun _ => Or.inl noFlag, fun _ => ⟨_, rfl⟩⟩
  · obtain ⟨exponent, inside, rfl⟩ := Domain.mem_powers.mp isPower
    rw [choose_aboveHighest_some isPower isUsed greatest, ← pow_succ']
    simp only [Domain.two_pow_mem_powers]
    constructor
    · rintro ⟨failure, failed⟩
      split at failed
      · cases failed
      · next last =>
        have isTop : exponent = domain.slots - 1 := by omega
        exact Or.inr (isTop ▸ isUsed)
    · rintro (noFlag | topUsed)
      · exact absurd isUsed (noFlag exponent inside)
      · -- The last flag is in use, so it is the greatest one, and its double is no flag.
        have top := domain.slots_pos
        have least := greatest _ (Domain.two_pow_mem_powers.mpr (by omega)) topUsed
        rw [pow_le_pow_iff_right₀ (by norm_num)] at least
        rw [if_neg (by omega)]
        exact ⟨_, rfl⟩

/-- A choice fails beside the values that block it, and only there. -/
theorem choose_error_iff {policy : Policy} :
    (∃ failure, policy.choose domain values = .error failure) ↔
      values ≠ [] ∧ policy.Blocked domain values := by
  by_cases empty : values = []
  · simp [empty]
  · cases policy with
    | lowestFree => simp only [lowestFree_error_iff empty, ne_eq, empty, not_false_iff, true_and]
    | aboveHighest => simp only [aboveHighest_error_iff empty, ne_eq, empty, not_false_iff, true_and]

end Policy

/-! ## Reasons and their texts -/

/-- What a report can give as the reason that nothing is offered. -/
inductive DeclineReason where
  | notFlags
  | unknownType
  | noneLeft (domain : Domain)
deriving DecidableEq, Repr

/-- What a reason says of a declaration, apart from what is left in its domain. -/
def DeclineReason.Applies (declaration : Declaration) : DeclineReason → Prop
  | notFlags => declaration.isFlags = false
  | unknownType => declaration.isFlags = true ∧ ∃ failure, declaration.domain = .error failure
  | noneLeft domain => declaration.isFlags = true ∧ declaration.domain = .ok domain

/-- The text of a reason in a report on a declaration. -/
def DeclineReason.text (declaration : Declaration) : DeclineReason → String
  | notFlags => declaration.name ++ " is not a flags enum"
  | unknownType => "unsupported underlying type: " ++ declaration.typeName
  | noneLeft domain =>
    "no free flag value left in " ++ declaration.name ++ " (" ++ domain.keyword ++ ")"

namespace DeclineReason

variable {declaration : Declaration}

@[simp] theorem text_notFlags :
    notFlags.text declaration = declaration.name ++ " is not a flags enum" :=
  rfl

@[simp] theorem text_unknownType :
    unknownType.text declaration = "unsupported underlying type: " ++ declaration.typeName :=
  rfl

@[simp] theorem text_noneLeft (domain : Domain) :
    (noneLeft domain).text declaration =
      "no free flag value left in " ++ declaration.name ++ " (" ++ domain.keyword ++ ")" :=
  rfl

/-- Only the reason that no flag is left ends in a bracket. -/
theorem text_notFlags_ne (domain : Domain) :
    notFlags.text declaration ≠ (noneLeft domain).text declaration := by
  intro same
  have lastCharacter := congrArg (fun text : String => text.toList.getLast?) same
  simp only [text_notFlags, text_noneLeft, String.toList_append] at lastCharacter
  rw [List.getLast?_append_of_ne_nil _ (by decide), List.getLast?_append_of_ne_nil _ (by decide)]
    at lastCharacter
  exact absurd lastCharacter (by decide)

/-- The reasons of an unknown type and of no flag left start with different
letters. -/
theorem text_unknownType_ne (domain : Domain) :
    unknownType.text declaration ≠ (noneLeft domain).text declaration := by
  intro same
  have firstCharacter := congrArg (fun text : String => text.toList.head?) same
  simp only [text_unknownType, text_noneLeft, String.toList_append, List.append_assoc]
    at firstCharacter
  rw [List.head?_append_of_ne_nil _ (by decide), List.head?_append_of_ne_nil _ (by decide)]
    at firstCharacter
  exact absurd firstCharacter (by decide)

end DeclineReason

/-- No two domains share a keyword. -/
theorem Domain.keyword_injective : Function.Injective Domain.keyword := by
  have distinct : ∀ left ∈ Domain.all, ∀ right ∈ Domain.all,
      left.keyword = right.keyword → left = right := by decide
  have listed : ∀ domain : Domain, domain ∈ Domain.all := by
    intro domain
    cases domain <;> decide
  exact fun left right same => distinct left (listed left) right (listed right) same

namespace Declaration

variable {declaration : Declaration}

/-- The name and the type are such that two reasons read the same. -/
def Ambiguous (declaration : Declaration) : Prop :=
  DeclineReason.notFlags.text declaration = DeclineReason.unknownType.text declaration

/-- The text tells the reason, but for that one coincidence. -/
theorem eq_of_text_eq {left right : DeclineReason}
    (same : left.text declaration = right.text declaration) :
    left = right ∨ declaration.Ambiguous := by
  cases left with
  | notFlags =>
    cases right with
    | notFlags => exact Or.inl rfl
    | unknownType => exact Or.inr same
    | noneLeft domain => exact absurd same (DeclineReason.text_notFlags_ne domain)
  | unknownType =>
    cases right with
    | notFlags => exact Or.inr same.symm
    | unknownType => exact Or.inl rfl
    | noneLeft domain => exact absurd same (DeclineReason.text_unknownType_ne domain)
  | noneLeft domain =>
    cases right with
    | notFlags => exact absurd same.symm (DeclineReason.text_notFlags_ne domain)
    | unknownType => exact absurd same.symm (DeclineReason.text_unknownType_ne domain)
    | noneLeft other =>
      rw [DeclineReason.text_noneLeft, DeclineReason.text_noneLeft, String.append_left_inj,
        String.append_right_inj] at same
      rw [Domain.keyword_injective same]
      exact Or.inl rfl

/-- The reason that a declaration gives, if anything keeps it from an offer. -/
def reason (declaration : Declaration) : DeclineReason :=
  if declaration.isFlags then
    match declaration.domain with
    | .error _ => .unknownType
    | .ok domain => .noneLeft domain
  else .notFlags

/-- The text in a report is that of the reason. -/
theorem declineReason_eq (declaration : Declaration) :
    declaration.declineReason = declaration.reason.text declaration := by
  unfold declineReason reason
  split
  · cases isDomain : declaration.domain with
    | ok domain => rfl
    | error failure =>
      have unknown : failure = .unsupportedType declaration.typeName := by
        unfold domain Domain.ofName at isDomain
        split at isDomain
        · cases isDomain
        · cases isDomain
          rfl
      rw [unknown]
      rfl
  · rfl

/-- The reason given is the one that applies. -/
theorem reason_eq_iff {reason : DeclineReason} :
    declaration.reason = reason ↔ reason.Applies declaration := by
  unfold Declaration.reason DeclineReason.Applies
  cases declaration.isFlags with
  | false => cases reason <;> simp
  | true => cases declaration.domain <;> cases reason <;> simp

/-- Where a declaration in a known domain is offered nothing, its constants block
the policy. -/
theorem blocked_of_suggest_eq_none {lookup : Lookup} {policy : Policy} {domain : Domain}
    (declined : declaration.suggest lookup policy = none)
    (offered : declaration.offerDomain? = some domain) :
    declaration.constants lookup ≠ [] ∧ policy.Blocked domain (declaration.constants lookup) := by
  rw [← Policy.choose_error_iff]
  cases chosen : policy.choose domain (declaration.constants lookup) with
  | error failure => exact ⟨failure, rfl⟩
  | ok flag =>
    have suggested : declaration.suggest lookup policy =
        some ⟨declaration.freshName newMemberBase, flag⟩ :=
      suggest_eq_some_iff.mpr ⟨domain, offered, chosen, rfl⟩
    rw [declined] at suggested
    cases suggested

end Declaration

/-! ## Reports -/

namespace Report

open Text

variable {declaration : Declaration} {policy : Policy} {format : Format} {report : Report}

/-- A report gives a reason: in its document, or in plain text on the error
channel. -/
def Gives (report : Report) (declaration : Declaration) (format : Format) (reason : String) :
    Prop :=
  if format.json then
    Prints report.out (.object
      [("enum", .string declaration.name), ("error", .string reason), ("success", .boolean false)])
  else
    report.out = "" ∧
      report.err = Style.yellowBold.paint format.color "Not offered:" ++ " " ++ reason ++ "\n"

/-- The report of a declined offer gives the reason of its declaration. -/
theorem declined_gives (declaration : Declaration) (format : Format) :
    (declined declaration format).Gives declaration format declaration.declineReason := by
  unfold Gives declined
  split
  · exact document_prints _ _
  · exact ⟨rfl, rfl⟩

/-- Where a report on a new member has produced nothing, there was no suggestion,
and the report is that of a declined offer. -/
theorem member_declined (reported : member declaration policy format = some report)
    (unproduced : report.produced = false) :
    declaration.suggest Member.value policy = none ∧ report = declined declaration format := by
  unfold member at reported
  split at reported
  · next suggested =>
    cases reported
    exact ⟨suggested, rfl⟩
  · split at reported
    · dsimp only at reported
      split at reported
      · cases reported
        cases unproduced
      · cases reported
    · cases reported
      cases unproduced

/-- What a report that declines a suggestion says, and what of it is true. -/
structure Explains (report : Report) (declaration : Declaration) (policy : Policy)
    (format : Format) (reason : DeclineReason) : Prop where
  given : report.Gives declaration format (reason.text declaration)
  /-- No other reason reads the same, unless name and type are written to that
  end. -/
  told : ∀ other : DeclineReason, other.text declaration = reason.text declaration →
    other = reason ∨ declaration.Ambiguous
  /-- It is given exactly where it applies. -/
  applies : ∀ other : DeclineReason, reason = other ↔ other.Applies declaration
  /-- Where the domain is known, what kept the policy from a choice is in the
  constants. -/
  blocked : ∀ domain, reason = .noneLeft domain →
    declaration.constants Member.value ≠ [] ∧
      policy.Blocked domain (declaration.constants Member.value)
  /-- That no flag is left is true under `lowestFree`. -/
  lowestFree : ∀ domain, reason = .noneLeft domain → policy = .lowestFree →
    domain.freeFlags (declaration.constants Member.value) = []
  /-- Under `aboveHighest` every flag is left, unless the last one is in use. -/
  aboveHighest : ∀ domain, reason = .noneLeft domain → policy = .aboveHighest →
    2 ^ (domain.slots - 1) ∉ declaration.constants Member.value →
    domain.freeFlags (declaration.constants Member.value) = domain.freeFlags []
  /-- If the last one is in use, that no flag is left depends on the others. -/
  aboveHighest_last : ∀ domain, reason = .noneLeft domain → policy = .aboveHighest →
    2 ^ (domain.slots - 1) ∈ declaration.constants Member.value →
    (domain.freeFlags (declaration.constants Member.value) = [] ↔
      ∀ exponent < domain.slots - 1, 2 ^ exponent ∈ declaration.constants Member.value)

/-- Every declined suggestion is explained: in either format the report gives the
one reason that applies to the declaration. If that is that no flag is left, it
is true under `lowestFree`. Under `aboveHighest` it stands for two other causes:
either no flag is in use, and all of them are left, or the last one is, and any
of the others may be left. -/
theorem member_declined_explained (reported : member declaration policy format = some report)
    (unproduced : report.produced = false) :
    ∃ reason : DeclineReason, report.Explains declaration policy format reason := by
  obtain ⟨suggested, rfl⟩ := member_declined reported unproduced
  have blocked : ∀ domain, declaration.reason = .noneLeft domain →
      declaration.constants Member.value ≠ [] ∧
        policy.Blocked domain (declaration.constants Member.value) := by
    intro domain isReason
    exact Declaration.blocked_of_suggest_eq_none suggested
      (Declaration.offerDomain?_eq_some_iff.mpr (Declaration.reason_eq_iff.mp isReason))
  refine ⟨declaration.reason, ?_, fun other => Declaration.eq_of_text_eq,
    fun other => Declaration.reason_eq_iff, blocked, ?_, ?_, ?_⟩
  · rw [← Declaration.declineReason_eq]
    exact declined_gives declaration format
  · rintro domain isReason rfl
    exact Domain.freeFlags_eq_nil_iff.mpr (blocked domain isReason).2
  · rintro domain isReason rfl lastUnused
    rcases (blocked domain isReason).2 with noFlag | lastUsed
    · exact Domain.freeFlags_of_no_flag noFlag
    · exact absurd lastUsed lastUnused
  · intro domain _ _ lastUsed
    exact Domain.freeFlags_eq_nil_iff_of_last lastUsed

/-- Under `lowestFree` all flags of a full domain are in use, and the report says
so. Under `aboveHighest` it says so as well where only the last flag is in use,
and where none is. -/
theorem member_declined_explained_full :
    let full : Declaration :=
      { name := "Full"
        typeName := "sbyte"
        isFlags := true
        members := [1, 2, 4, 8, 16, 32, 64].map fun value => ⟨"Bit", some value⟩ }
    let top : Declaration := { full with members := [⟨"Top", some 64⟩] }
    let odd : Declaration := { full with members := [⟨"Odd", some 3⟩] }
    (∃ report, member full .lowestFree {} = some report ∧ report.produced = false ∧
      (∃ reason, report.Explains full .lowestFree {} reason ∧ reason = .noneLeft .sbyte) ∧
      Domain.sbyte.freeFlags (full.constants Member.value) = []) ∧
    (∃ report, member top .aboveHighest {} = some report ∧ report.produced = false ∧
      (∃ reason, report.Explains top .aboveHighest {} reason ∧ reason = .noneLeft .sbyte) ∧
      Domain.sbyte.freeFlags (top.constants Member.value) ≠ []) ∧
    ∃ report, member odd .aboveHighest {} = some report ∧ report.produced = false ∧
      (∃ reason, report.Explains odd .aboveHighest {} reason ∧ reason = .noneLeft .sbyte) ∧
      Domain.sbyte.freeFlags (odd.constants Member.value) = Domain.sbyte.freeFlags [] := by
  intro full top odd
  refine ⟨?_, ?_, ?_⟩
  · have reported : member full .lowestFree {} = some (declined full {}) := by decide
    obtain ⟨reason, explained⟩ := member_declined_explained reported rfl
    have isReason : reason = .noneLeft .sbyte :=
      (explained.applies (.noneLeft .sbyte)).mpr ⟨rfl, by decide⟩
    exact ⟨_, reported, rfl, ⟨reason, explained, isReason⟩,
      explained.lowestFree .sbyte isReason rfl⟩
  · have reported : member top .aboveHighest {} = some (declined top {}) := by decide
    obtain ⟨reason, explained⟩ := member_declined_explained reported rfl
    have isReason : reason = .noneLeft .sbyte :=
      (explained.applies (.noneLeft .sbyte)).mpr ⟨rfl, by decide⟩
    refine ⟨_, reported, rfl, ⟨reason, explained, isReason⟩, fun noneFree => ?_⟩
    have others := (explained.aboveHighest_last .sbyte isReason rfl (by decide)).mp noneFree
    exact absurd (others 0 (by decide)) (by decide)
  · have reported : member odd .aboveHighest {} = some (declined odd {}) := by decide
    obtain ⟨reason, explained⟩ := member_declined_explained reported rfl
    have isReason : reason = .noneLeft .sbyte :=
      (explained.applies (.noneLeft .sbyte)).mpr ⟨rfl, by decide⟩
    exact ⟨_, reported, rfl, ⟨reason, explained, isReason⟩,
      explained.aboveHighest .sbyte isReason rfl (by decide)⟩

/-- Where nothing can be doubled, the report says that no flag is left although
every one of them is. -/
theorem member_declined_untrue :
    let odd : Declaration := { name := "E", isFlags := true, members := [⟨"X", some 3⟩] }
    member odd .aboveHighest {} =
        some { produced := false, err := "Not offered: no free flag value left in E (int)\n" } ∧
      (Domain.int.freeFlags (odd.constants Member.value)).length = 31 := by
  decide

end Report

end FlagEnum
