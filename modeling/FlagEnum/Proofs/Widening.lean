import FlagEnum.Proofs.Relevance

/-!
# Assignments in a wider domain

The flags of a domain are the first flags of every domain that contains it, so
what a policy can do in the narrow domain it does alike in the wide one. Gaps
are filled from below, where both domains agree. Above the highest, a constant
that only the wide domain can store would be the highest there and is excluded.
-/

namespace FlagEnum

/-! ## Domains inside one another -/

/-- The same value in another domain. -/
def Flag.recast (domain : Domain) (flag : Flag) : Flag :=
  ⟨domain, flag.value⟩

/-- The same name and value in another domain. -/
def NamedFlag.recast (domain : Domain) (offer : NamedFlag) : NamedFlag :=
  ⟨offer.name, offer.flag.recast domain⟩

namespace Domain

/-- A flag of one domain that another can store is a flag there too. -/
theorem mem_powers_of_contains {domain other : Domain} {power : Int}
    (isPower : power ∈ other.powers) (inside : domain.contains power = true) :
    power ∈ domain.powers := by
  obtain ⟨exponent, _, rfl⟩ := mem_powers.mp isPower
  exact two_pow_mem_powers.mpr (contains_two_pow.mp inside)

/-- Every value of the narrow domain is one of the wide domain. -/
def Within (narrow wide : Domain) : Prop :=
  ∀ value, narrow.contains value = true → wide.contains value = true

/-- It is enough to compare the least values and the numbers of flags. -/
theorem within_iff {narrow wide : Domain} :
    narrow.Within wide ↔ wide.minValue ≤ narrow.minValue ∧ narrow.slots ≤ wide.slots := by
  constructor
  · intro within
    have positive : (0 : Int) < 2 ^ narrow.slots := by positivity
    have least : narrow.contains narrow.minValue = true :=
      contains_iff.mpr ⟨le_refl _, narrow.minValue_nonpos.trans_lt positive⟩
    have last : narrow.contains (2 ^ (narrow.slots - 1)) = true :=
      contains_two_pow.mpr (Nat.sub_lt narrow.slots_pos Nat.one_pos)
    have inside := contains_two_pow.mp (within _ last)
    exact ⟨(contains_iff.mp (within _ least)).1, by omega⟩
  · rintro ⟨least, slots⟩ value inside
    obtain ⟨above, below⟩ := contains_iff.mp inside
    have bound : (2 : Int) ^ narrow.slots ≤ 2 ^ wide.slots := pow_le_pow_right₀ (by norm_num) slots
    exact contains_iff.mpr ⟨least.trans above, below.trans_le bound⟩

instance (narrow wide : Domain) : Decidable (narrow.Within wide) :=
  decidable_of_iff _ within_iff.symm

namespace Within

variable {narrow wide : Domain}

/-- A wider domain has further flags after the same ones. -/
theorem powers_isPrefix (within : narrow.Within wide) : narrow.powers <+: wide.powers := by
  have first : (List.range wide.slots).take narrow.slots = List.range narrow.slots := by
    rw [List.take_range, Nat.min_eq_left (within_iff.mp within).2]
  rw [powers, powers, ← first]
  exact (List.take_prefix _ _).map _

/-- What is free in the narrow domain comes first in the wide one. -/
theorem freeFlags_isPrefix (within : narrow.Within wide) (values : List Int) :
    (narrow.freeFlags values).map (Flag.recast wide) <+: wide.freeFlags values := by
  rw [freeFlags_eq, freeFlags_eq, List.map_map]
  exact (within.powers_isPrefix.filter _).map _

private theorem mem_powers (within : narrow.Within wide) {power : Int}
    (isPower : power ∈ narrow.powers) :
    power ∈ wide.powers :=
  within.powers_isPrefix.subset isPower

end Within

end Domain

/-! ## One step -/

namespace Policy

variable {policy : Policy} {narrow wide : Domain} {values : List Int}

/-- Where the policy looks for the highest, the domain can store all values. -/
def Stores (policy : Policy) (domain : Domain) (values : List Int) : Prop :=
  policy = .aboveHighest → ∀ value ∈ values, domain.contains value = true

private theorem Stores.append (stores : policy.Stores narrow values) {value : Int}
    (inside : narrow.contains value = true) : policy.Stores narrow (values ++ [value]) := by
  intro doubles
  exact List.forall_mem_append.mpr ⟨stores doubles, List.forall_mem_singleton.mpr inside⟩

private theorem lowestFree_widened (within : narrow.Within wide) (nonempty : values ≠ [])
    {flag : Flag} (chosen : Policy.lowestFree.choose narrow values = .ok flag) :
    Policy.lowestFree.choose wide values = .ok (flag.recast wide) := by
  have first := within.freeFlags_isPrefix values
  rw [choose_lowestFree nonempty] at chosen ⊢
  cases free : narrow.freeFlags values with
  | nil => simp [free] at chosen
  | cons lowest rest =>
    simp only [free, Except.ok.injEq] at chosen
    obtain ⟨later, isWide⟩ := first
    simp only [← isWide, free, List.map_cons, List.cons_append, chosen]

/-- The greatest flag in use is the same in both domains, since the narrow one
stores all values, and so is its double. -/
theorem aboveHighest_widened (within : narrow.Within wide) (nonempty : values ≠ [])
    (stored : ∀ value ∈ values, narrow.contains value = true) {flag : Flag}
    (chosen : Policy.aboveHighest.choose narrow values = .ok flag) :
    Policy.aboveHighest.choose wide values = .ok (flag.recast wide) := by
  rcases exists_greatest_power narrow values with unused | ⟨power, isPower, isUsed, greatest⟩
  · rw [choose_aboveHighest_none nonempty unused] at chosen
    cases chosen
  · have greatestWide : ∀ other ∈ wide.powers, other ∈ values → other ≤ power := by
      intro other otherPower otherUsed
      have inside := Domain.mem_powers_of_contains otherPower (stored other otherUsed)
      exact greatest other inside otherUsed
    rw [choose_aboveHighest_some isPower isUsed greatest] at chosen
    rw [choose_aboveHighest_some (within.mem_powers isPower) isUsed greatestWide]
    split at chosen
    · next doubled =>
      cases chosen
      rw [if_pos (within.mem_powers doubled)]
      rfl
    · cases chosen

/-- A choice in the narrow domain is the choice in the wide one. -/
theorem choose_widened (within : narrow.Within wide) (stores : policy.Stores narrow values)
    {flag : Flag} (chosen : policy.choose narrow values = .ok flag) :
    policy.choose wide values = .ok (flag.recast wide) := by
  by_cases empty : values = []
  · subst empty
    cases chosen
    rfl
  cases policy with
  | lowestFree => exact lowestFree_widened within empty chosen
  | aboveHighest => exact aboveHighest_widened within empty (stores rfl) chosen

end Policy

namespace Declaration

variable {policy : Policy} {narrow wide : Domain} {values : List Int}

/-- The next flag in the narrow domain is the next one in the wide one. -/
theorem nextFlag_widened (within : narrow.Within wide) (stores : policy.Stores narrow values)
    {flag : Flag} (next : nextFlag policy narrow values = .ok flag) :
    nextFlag policy wide values = .ok (flag.recast wide) := by
  by_cases stalls : policy.Stalls values
  · rw [stalls.nextFlag, Except.ok.injEq] at next
    rw [stalls.nextFlag, ← next]
    split <;> rfl
  · rw [nextFlag_eq_choose stalls] at next ⊢
    exact Policy.choose_widened within stores next

/-! ## The whole walk -/

/-- An assignment in the narrow domain is the assignment in the wide one. -/
theorem assignNames_widened (within : narrow.Within wide) (stores : policy.Stores narrow values)
    {names : List String} {offers : List NamedFlag}
    (assigned : assignNames policy narrow values names = some offers) :
    assignNames policy wide values names = some (offers.map (NamedFlag.recast wide)) := by
  induction names generalizing values offers with
  | nil =>
    cases assigned
    rfl
  | cons name rest inductionHypothesis =>
    obtain ⟨flag, others, next, restAssigned, rfl⟩ := assignNames_cons_eq_some_iff.mp assigned
    -- What the narrow domain offers it can store, so the next step finds all values stored again.
    have storesAfter := stores.append (nextFlag_fits next).contained
    exact assignNames_cons_eq_some_iff.mpr ⟨flag.recast wide, others.map (NamedFlag.recast wide),
      nextFlag_widened within stores next, inductionHypothesis storesAfter restAssigned, rfl⟩

variable {declaration : Declaration} {lookup : Lookup} {offers : List NamedFlag} {typeName : String}

/-- What is assigned in a domain is assigned alike under a type that contains
it. Above the highest, all known constants must be values of the domain. -/
theorem assign_widened (isNarrow : declaration.domain = .ok narrow)
    (isWide : Domain.ofName typeName = .ok wide)
    (within : ∀ value, narrow.contains value = true → wide.contains value = true)
    (stored : policy = .aboveHighest →
      ∀ value ∈ declaration.constants lookup, narrow.contains value = true)
    (assigned : declaration.assign lookup policy = some offers) :
    { declaration with typeName := typeName }.assign lookup policy =
      some (offers.map (NamedFlag.recast wide)) := by
  obtain ⟨domain, offered, named⟩ := assign_eq_some_iff.mp assigned
  obtain ⟨isFlags, isDomain⟩ := offerDomain?_eq_some_iff.mp offered
  obtain rfl : domain = narrow := Except.ok.inj (isDomain.symm.trans isNarrow)
  refine assign_eq_some_iff.mpr ⟨wide, offerDomain?_eq_some_iff.mpr ⟨isFlags, isWide⟩, ?_⟩
  exact assignNames_widened within stored named

/-- A constant past the narrow domain does not disturb the gaps below it, and the
least value of a signed domain is no flag in either. -/
theorem assign_widened_both :
    let gaps : Declaration :=
      { name := "Gaps"
        typeName := "byte"
        isFlags := true
        members := [⟨"One", some 1⟩, ⟨"Past", some 256⟩, ⟨"A", none⟩, ⟨"Top", some 128⟩,
          ⟨"B", none⟩] }
    let above : Declaration :=
      { name := "Above"
        typeName := "sbyte"
        isFlags := true
        members := [⟨"Least", some (-128)⟩, ⟨"A", none⟩, ⟨"High", some 16⟩, ⟨"B", none⟩] }
    gaps.assign Member.value .lowestFree = some [⟨"A", ⟨.byte, 2⟩⟩, ⟨"B", ⟨.byte, 4⟩⟩] ∧
      { gaps with typeName := "Int16" }.assign Member.value .lowestFree =
        some [⟨"A", ⟨.short, 2⟩⟩, ⟨"B", ⟨.short, 4⟩⟩] ∧
      above.assign Member.value .aboveHighest = some [⟨"A", ⟨.sbyte, 32⟩⟩, ⟨"B", ⟨.sbyte, 64⟩⟩] ∧
      { above with typeName := "System.Int64" }.assign Member.value .aboveHighest =
        some [⟨"A", ⟨.long, 32⟩⟩, ⟨"B", ⟨.long, 64⟩⟩] := by
  intro gaps above
  have byteShort : Domain.byte.Within .short := by decide
  have sbyteLong : Domain.sbyte.Within .long := by decide
  have gapsAssigned : gaps.assign Member.value .lowestFree =
      some [⟨"A", ⟨.byte, 2⟩⟩, ⟨"B", ⟨.byte, 4⟩⟩] := by decide
  have aboveAssigned : above.assign Member.value .aboveHighest =
      some [⟨"A", ⟨.sbyte, 32⟩⟩, ⟨"B", ⟨.sbyte, 64⟩⟩] := by decide
  refine ⟨gapsAssigned, ?_, aboveAssigned, ?_⟩
  · refine assign_widened (by decide) (by decide) byteShort ?_ gapsAssigned
    intro doubles
    cases doubles
  · refine assign_widened (by decide) (by decide) sbyteLong ?_ aboveAssigned
    decide

-- Above the highest, a constant that only the wide domain stores is the highest there.
example :
    let past : Declaration :=
      { name := "Past"
        typeName := "byte"
        isFlags := true
        members := [⟨"One", some 1⟩, ⟨"Past", some 256⟩, ⟨"A", none⟩] }
    past.assign Member.value .aboveHighest = some [⟨"A", ⟨.byte, 2⟩⟩] ∧
      { past with typeName := "short" }.assign Member.value .aboveHighest =
        some [⟨"A", ⟨.short, 512⟩⟩] := by
  decide

end Declaration

end FlagEnum
