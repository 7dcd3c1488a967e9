import FlagEnum.Proofs.Capacity
import FlagEnum.Proofs.Editing

/-!
# Which constants matter

An offer depends on little of what is known about a declaration. A policy asks
only which flags of the domain are in use, and whether anything is in use at
all (`Domain.SameUse`). So neither the order nor the repetition of constants
matters, nor where the members stand that have one.

A constant outside the domain is no flag, yet it is not without effect. Where
all other constants are zero, it alone decides whether an assignment above the
highest goes on with 1 (`Policy.Stalls`); `outside_matters_iff` says that it
matters nowhere else.
-/

namespace FlagEnum

/-! ## Nothing to double -/

namespace Policy

variable {policy : Policy} {domain : Domain} {values : List Int}

/-- The policy doubles, and no value in use is anything but zero. -/
def Stalls (policy : Policy) (values : List Int) : Prop :=
  policy = .aboveHighest ∧ ∀ value ∈ values, value = 0

/-- One more zero keeps a policy stalled, and nothing else does. -/
theorem stalls_append {value : Int} :
    policy.Stalls (values ++ [value]) ↔ policy.Stalls values ∧ value = 0 := by
  simp only [Stalls, List.forall_mem_append, List.forall_mem_singleton, and_assoc]

private theorem Stalls.noPower (stalls : policy.Stalls values) :
    ∀ power ∈ domain.powers, power ∉ values :=
  Domain.highestExponent?_eq_none_iff.mp (Domain.highestExponent?_of_zeros stalls.2)

/-- A stalled policy offers the zero of a first member and nothing else. -/
theorem Stalls.choose (stalls : policy.Stalls values) :
    policy.choose domain values =
      if values = [] then .ok (.zero domain) else .error (.noPowerOfTwo domain) := by
  obtain rfl := stalls.1
  by_cases empty : values = []
  · rw [if_pos empty, empty, choose_nil]
  · rw [if_neg empty, choose_aboveHighest_none empty stalls.noPower]

/-- An assignment goes on with 1 instead. -/
theorem Stalls.nextFlag (stalls : policy.Stalls values) :
    Declaration.nextFlag policy domain values =
      .ok (if values = [] then .zero domain else ⟨domain, 1⟩) := by
  obtain ⟨rfl, zeros⟩ := stalls
  by_cases empty : values = []
  · rw [if_pos empty, empty, Declaration.nextFlag_nil]
  · rw [if_neg empty, Declaration.nextFlag_of_no_exponent empty
      (Domain.highestExponent?_of_zeros zeros), if_pos zeros]

/-- Where a policy is stalled, there is room for every flag, and for zero if
nothing is in use yet. -/
theorem Stalls.capacity (stalls : policy.Stalls values) :
    policy.capacity domain values = if values = [] then domain.slots + 1 else domain.slots := by
  obtain ⟨rfl, zeros⟩ := stalls
  by_cases empty : values = []
  · rw [if_pos empty, empty, Declaration.capacity_nil]
  · rw [if_neg empty, Declaration.capacity_of_no_exponent empty
      (Domain.highestExponent?_of_zeros zeros), if_pos zeros]

end Policy

/-- Where the policy does not stall, the next flag is what it chooses. -/
theorem Declaration.nextFlag_eq_choose {policy : Policy} {domain : Domain} {values : List Int}
    (moves : ¬ policy.Stalls values) :
    nextFlag policy domain values = policy.choose domain values := by
  cases policy with
  | lowestFree =>
    by_cases empty : values = []
    · rw [empty, nextFlag_nil, Policy.choose_nil]
    · cases free : domain.freeFlags values with
      | nil => simp only [nextFlag_lowestFree empty, Policy.choose_lowestFree empty, free]
      | cons flag rest =>
        simp only [nextFlag_lowestFree empty, Policy.choose_lowestFree empty, free]
  | aboveHighest =>
    have other : ¬ ∀ value ∈ values, value = 0 := fun zeros => moves ⟨rfl, zeros⟩
    unfold nextFlag
    split
    · next offender failed => rw [if_neg (by simpa using other), failed]
    · rfl

/-! ## Values that a policy cannot tell apart -/

/-- The same flags of the domain are in use, and something is in use on both
sides or on neither. -/
structure Domain.SameUse (domain : Domain) (left right : List Int) : Prop where
  empty : left = [] ↔ right = []
  powers : ∀ power ∈ domain.powers, power ∈ left ↔ power ∈ right

namespace Domain.SameUse

variable {domain : Domain} {left right : List Int}

private theorem symm (same : domain.SameUse left right) : domain.SameUse right left where
  empty := same.empty.symm
  powers power isPower := (same.powers power isPower).symm

private theorem append (same : domain.SameUse left right) (value : Int) :
    domain.SameUse (left ++ [value]) (right ++ [value]) where
  empty := by simp
  powers power isPower := by simp only [List.mem_append, same.powers power isPower]

/-- Order and repetition make no difference to what is in use. -/
theorem of_mem_iff (same : ∀ value, value ∈ left ↔ value ∈ right) : domain.SameUse left right where
  empty := by simp only [List.eq_nil_iff_forall_not_mem, same]
  powers power _ := same power

/-- The same use leaves the same flags free. -/
theorem freeFlags (same : domain.SameUse left right) :
    domain.freeFlags left = domain.freeFlags right :=
  freeFlags_congr same.powers

/-- The same use gives the same choice. -/
theorem choose (same : domain.SameUse left right) (policy : Policy) :
    policy.choose domain left = policy.choose domain right := by
  by_cases empty : left = []
  · rw [empty, same.empty.mp empty]
  have rightNonempty := mt same.empty.mpr empty
  cases policy with
  | lowestFree =>
    rw [Policy.choose_lowestFree empty, Policy.choose_lowestFree rightNonempty, same.freeFlags]
  | aboveHighest =>
    rcases Policy.exists_greatest_power domain left with
      unused | ⟨power, isPower, isUsed, greatest⟩
    · rw [Policy.choose_aboveHighest_none empty unused,
        Policy.choose_aboveHighest_none rightNonempty]
      intro power isPower isUsed
      exact unused power isPower ((same.powers power isPower).mpr isUsed)
    · rw [Policy.choose_aboveHighest_some isPower isUsed greatest,
        Policy.choose_aboveHighest_some isPower ((same.powers power isPower).mp isUsed)]
      intro other otherPower otherUsed
      exact greatest other otherPower ((same.powers other otherPower).mpr otherUsed)

/-- An assignment also asks whether there is anything but zeros. -/
theorem nextFlag (same : domain.SameUse left right) {policy : Policy}
    (stalls : policy.Stalls left ↔ policy.Stalls right) :
    Declaration.nextFlag policy domain left = Declaration.nextFlag policy domain right := by
  by_cases stalled : policy.Stalls left
  · rw [stalled.nextFlag, (stalls.mp stalled).nextFlag]
    simp only [same.empty]
  · rw [Declaration.nextFlag_eq_choose stalled,
      Declaration.nextFlag_eq_choose (mt stalls.mpr stalled), same.choose]

/-- The same use gives the same assignment, if the policy is stalled by both or by
neither. -/
theorem assignNames (same : domain.SameUse left right) {policy : Policy}
    (stalls : policy.Stalls left ↔ policy.Stalls right) (names : List String) :
    Declaration.assignNames policy domain left names =
      Declaration.assignNames policy domain right names := by
  induction names generalizing left right with
  | nil => rfl
  | cons name rest inductionHypothesis =>
    rw [Declaration.assignNames, Declaration.assignNames, same.nextFlag stalls]
    cases Declaration.nextFlag policy domain right with
    | error failure => rfl
    | ok flag =>
      have stallsAfter : policy.Stalls (left ++ [flag.value]) ↔
          policy.Stalls (right ++ [flag.value]) := by
        simp only [Policy.stalls_append, stalls]
      simp only [inductionHypothesis (same.append flag.value) stallsAfter]

/-- Where one side alone stalls, the other has something that is neither zero
nor a flag, and so no capacity. -/
theorem capacity_of_moves (same : domain.SameUse left right) {policy : Policy}
    (stalled : policy.Stalls left) (moves : ¬ policy.Stalls right) :
    policy.capacity domain right = 0 := by
  have noPower : domain.highestExponent? right = none := by
    refine Domain.highestExponent?_eq_none_iff.mpr ?_
    intro power isPower isUsed
    exact stalled.noPower power isPower ((same.powers power isPower).mpr isUsed)
  obtain rfl := stalled.1
  have other : ¬ ∀ value ∈ right, value = 0 := fun zeros => moves ⟨rfl, zeros⟩
  have nonempty : right ≠ [] := by
    rintro rfl
    exact other (by simp)
  rw [Declaration.capacity_of_no_exponent nonempty noPower, if_neg other]

/-- One side stalls and goes on with every flag of the domain, the other is
declined at its first step: the results agree where both are declined, or where
nothing is asked for. -/
theorem assignNames_of_moves (same : domain.SameUse left right) (nonempty : left ≠ [])
    {policy : Policy} (stalled : policy.Stalls left) (moves : ¬ policy.Stalls right)
    {names : List String} :
    Declaration.assignNames policy domain left names =
        Declaration.assignNames policy domain right names ↔
      names = [] ∨ domain.slots < names.length := by
  have leftDeclined : Declaration.assignNames policy domain left names = none ↔
      domain.slots < names.length := by
    rw [Declaration.assignNames_eq_none_iff, stalled.capacity, if_neg nonempty]
  have rightDeclined : Declaration.assignNames policy domain right names = none ↔ names ≠ [] := by
    rw [Declaration.assignNames_eq_none_iff, same.capacity_of_moves stalled moves,
      List.length_pos_iff]
  constructor
  · intro agree
    by_cases nothing : names = []
    · exact Or.inl nothing
    · exact Or.inr (leftDeclined.mp (agree.trans (rightDeclined.mpr nothing)))
  · rintro (rfl | many)
    · rfl
    · have asked : names ≠ [] := by
        rintro rfl
        exact absurd many (Nat.not_lt_zero _)
      rw [leftDeclined.mpr many, rightDeclined.mpr asked]

/-- Assignments beside the same use are the same exactly when the policy is
stalled by both or by neither, or there is nothing to assign, or too much. -/
theorem assignNames_eq_iff (same : domain.SameUse left right) (nonempty : left ≠ [])
    {policy : Policy} {names : List String} :
    Declaration.assignNames policy domain left names =
        Declaration.assignNames policy domain right names ↔
      (policy.Stalls left ↔ policy.Stalls right) ∨ names = [] ∨ domain.slots < names.length := by
  by_cases leftStalls : policy.Stalls left <;> by_cases rightStalls : policy.Stalls right
  · simp [same.assignNames (iff_of_true leftStalls rightStalls), leftStalls, rightStalls]
  · simp [same.assignNames_of_moves nonempty leftStalls rightStalls, leftStalls, rightStalls]
  · rw [eq_comm, same.symm.assignNames_of_moves (mt same.empty.mpr nonempty) rightStalls leftStalls]
    simp [leftStalls, rightStalls]
  · simp [same.assignNames (iff_of_false leftStalls rightStalls), leftStalls, rightStalls]

end Domain.SameUse

/-! ## Declarations with the same constants -/

namespace Declaration

variable {declaration left right before after : Declaration}
  {lookup leftLookup rightLookup changed : Lookup} {policy : Policy} {domain : Domain}

/-- The flag of a suggestion is the choice beside the constants. -/
theorem suggest_flag (offered : declaration.offerDomain? = some domain) :
    (declaration.suggest lookup policy).map NamedFlag.flag =
      (policy.choose domain (declaration.constants lookup)).toOption := by
  simp only [suggest, offered, Option.bind_eq_bind, Option.bind_some]
  cases policy.choose domain (declaration.constants lookup) with
  | error failure => rfl
  | ok flag => rfl

/-- An assignment in a domain serves the names beside the constants. -/
theorem assign_of_offerDomain? (offered : declaration.offerDomain? = some domain) :
    declaration.assign lookup policy =
      assignNames policy domain (declaration.constants lookup)
        ((declaration.unknowns lookup).map Member.name) := by
  rw [assign, offered]
  rfl

/-- What is offered depends on the names of the members without a constant and
on the set of the constants: their order and repetition do not matter, nor
where their members stand among the others. -/
theorem offers_depend_on_constant_set (leftOffered : left.offerDomain? = some domain)
    (rightOffered : right.offerDomain? = some domain)
    (names : (left.unknowns leftLookup).map Member.name =
      (right.unknowns rightLookup).map Member.name)
    (constants : ∀ value,
      value ∈ left.constants leftLookup ↔ value ∈ right.constants rightLookup)
    (policy : Policy) :
    left.assign leftLookup policy = right.assign rightLookup policy ∧
      (left.suggest leftLookup policy).map NamedFlag.flag =
        (right.suggest rightLookup policy).map NamedFlag.flag := by
  have same : domain.SameUse (left.constants leftLookup) (right.constants rightLookup) :=
    .of_mem_iff constants
  have stalls : policy.Stalls (left.constants leftLookup) ↔
      policy.Stalls (right.constants rightLookup) := by
    simp only [Policy.Stalls, constants]
  constructor
  · rw [assign_of_offerDomain? leftOffered, assign_of_offerDomain? rightOffered, names,
      same.assignNames stalls]
  · rw [suggest_flag leftOffered, suggest_flag rightOffered, same.choose]

/-- One declaration lists its constants upwards with the greatest twice, the
other in reverse behind the members without one, under another spelling of the
type and with constants that only the lookup knows. -/
theorem offers_depend_on_constant_set_shuffled :
    let sorted : Declaration :=
      { name := "Sorted"
        typeName := "byte"
        isFlags := true
        members := [⟨"Low", some 1⟩, ⟨"Pair", some 3⟩, ⟨"First", none⟩, ⟨"Top", some 16⟩,
          ⟨"Again", some 16⟩, ⟨"Second", none⟩] }
    let shuffled : Declaration :=
      { name := "Shuffled"
        typeName := "System.Byte"
        isFlags := true
        members := [⟨"First", none⟩, ⟨"Second", none⟩, ⟨"c", none⟩, ⟨"b", some 3⟩,
          ⟨"a", some 0⟩] }
    let knows : Lookup := fun member =>
      if member.name = "c" then some 16 else if member.name = "a" then some 1 else member.value
    let offers : List NamedFlag := [⟨"First", ⟨.byte, 32⟩⟩, ⟨"Second", ⟨.byte, 64⟩⟩]
    sorted.assign Member.value .aboveHighest = some offers ∧
      shuffled.assign knows .aboveHighest = some offers ∧
      (sorted.suggest Member.value .aboveHighest).map NamedFlag.flag = some ⟨.byte, 32⟩ ∧
      (shuffled.suggest knows .aboveHighest).map NamedFlag.flag = some ⟨.byte, 32⟩ := by
  intro sorted shuffled knows offers
  have sortedOffered : sorted.offerDomain? = some .byte := by decide
  have shuffledOffered : shuffled.offerDomain? = some .byte := by decide
  have assigned : sorted.assign Member.value .aboveHighest = some offers := by decide
  have suggested : (sorted.suggest Member.value .aboveHighest).map NamedFlag.flag =
      some ⟨.byte, 32⟩ := by decide
  have names : (sorted.unknowns Member.value).map Member.name =
      (shuffled.unknowns knows).map Member.name := by decide
  have constants : ∀ value,
      value ∈ sorted.constants Member.value ↔ value ∈ shuffled.constants knows := by
    have sortedConstants : sorted.constants Member.value = [1, 3, 16, 16] := by decide
    have shuffledConstants : shuffled.constants knows = [16, 3, 1] := by decide
    intro value
    rw [sortedConstants, shuffledConstants]
    simp only [List.mem_cons, List.not_mem_nil, or_false]
    omega
  obtain ⟨sameAssigned, sameSuggested⟩ :=
    offers_depend_on_constant_set sortedOffered shuffledOffered names constants .aboveHighest
  exact ⟨assigned, sameAssigned ▸ assigned, suggested, sameSuggested ▸ suggested⟩

/-! ## Constants outside the domain -/

/-- What is known about the members, without those whose constant lies outside
the domain. -/
def insideEntries (declaration : Declaration) (lookup : Lookup) (domain : Domain) :
    List (String × Option Int) :=
  (declaration.members.map fun member => (member.name, lookup member)).filter
    fun entry => entry.2.all domain.contains

/-- Some known constant lies outside the domain. -/
def Exceeds (declaration : Declaration) (lookup : Lookup) (domain : Domain) : Prop :=
  ∃ value ∈ declaration.constants lookup, domain.contains value = false

private theorem unknowns_names_eq (declaration : Declaration) (lookup : Lookup) (domain : Domain) :
    (declaration.unknowns lookup).map Member.name =
      ((declaration.insideEntries lookup domain).filter fun entry => entry.2.isNone).map
        Prod.fst := by
  simp only [unknowns, insideEntries, List.filter_filter, List.filter_map, List.map_map]
  congr 1
  apply List.filter_congr
  intro member _
  cases known : lookup member <;> simp [known]

/-- The constants that the domain can store are those of the members that are
not left out. -/
theorem mem_constants_iff_of_contains {value : Int} (inside : domain.contains value = true) :
    value ∈ declaration.constants lookup ↔
      ∃ name, (name, some value) ∈ declaration.insideEntries lookup domain := by
  simp only [mem_constants, insideEntries, List.mem_filter, List.mem_map, Option.all_some, inside,
    and_true, Prod.mk.injEq]
  constructor
  · rintro ⟨member, isMember, known⟩
    exact ⟨member.name, member, isMember, rfl, known⟩
  · rintro ⟨name, member, isMember, _, known⟩
    exact ⟨member, isMember, known⟩

private theorem mem_constants_congr
    (same : before.insideEntries lookup domain = after.insideEntries changed domain)
    {value : Int} (inside : domain.contains value = true) :
    value ∈ before.constants lookup ↔ value ∈ after.constants changed := by
  rw [mem_constants_iff_of_contains inside, mem_constants_iff_of_contains inside, same]

/-- One constant inside the domain is enough to have something in use whatever
happens outside. -/
theorem sameUse_of_insideEntries
    (same : before.insideEntries lookup domain = after.insideEntries changed domain)
    {value : Int} (known : value ∈ before.constants lookup)
    (inside : domain.contains value = true) :
    domain.SameUse (before.constants lookup) (after.constants changed) where
  empty := iff_of_false (List.ne_nil_of_mem known)
    (List.ne_nil_of_mem ((mem_constants_congr same inside).mp known))
  powers _ isPower := mem_constants_congr same (Domain.contains_of_mem_powers isPower)

private theorem stalls_constants_iff (domain : Domain) :
    policy.Stalls (declaration.constants lookup) ↔
      policy = .aboveHighest ∧
        (∀ value ∈ declaration.constants lookup, domain.contains value = true → value = 0) ∧
        ¬ declaration.Exceeds lookup domain := by
  refine and_congr_right fun _ => ⟨?_, ?_⟩
  · intro zeros
    refine ⟨fun value known _ => zeros value known, ?_⟩
    rintro ⟨value, known, outside⟩
    rw [zeros value known, domain.contains_zero] at outside
    cases outside
  · rintro ⟨zerosInside, noneOutside⟩ value known
    refine zerosInside value known ?_
    by_contra outside
    exact noneOutside ⟨value, known, by simpa using outside⟩

/-- Members whose constants lie outside the domain may be added, removed or
changed without effect on a suggestion. An assignment may change only under
`aboveHighest`, where all constants inside the domain are zero and the first
such member comes or the last one goes; it does change there unless nothing is
to be assigned or more than the domain has flags. -/
theorem outside_matters_iff (offered : before.offerDomain? = some domain)
    (stillOffered : after.offerDomain? = some domain)
    (same : before.insideEntries lookup domain = after.insideEntries changed domain)
    (known : ∃ value ∈ before.constants lookup, domain.contains value = true)
    (policy : Policy) :
    (before.suggest lookup policy).map NamedFlag.flag =
        (after.suggest changed policy).map NamedFlag.flag ∧
      (before.assign lookup policy = after.assign changed policy ↔
        (policy = .aboveHighest →
          (∀ value ∈ before.constants lookup, domain.contains value = true → value = 0) →
          (before.Exceeds lookup domain ↔ after.Exceeds changed domain)) ∨
        before.unknowns lookup = [] ∨ domain.slots < (before.unknowns lookup).length) := by
  obtain ⟨constant, isKnown, isInside⟩ := known
  have sameUse := sameUse_of_insideEntries same isKnown isInside
  have names : (before.unknowns lookup).map Member.name =
      (after.unknowns changed).map Member.name := by
    rw [unknowns_names_eq before lookup domain, unknowns_names_eq after changed domain, same]
  have zeros : (∀ value ∈ after.constants changed, domain.contains value = true → value = 0) ↔
      ∀ value ∈ before.constants lookup, domain.contains value = true → value = 0 := by
    constructor
    · intro zeros value isConstant inside
      exact zeros value ((mem_constants_congr same inside).mp isConstant) inside
    · intro zeros value isConstant inside
      exact zeros value ((mem_constants_congr same inside).mpr isConstant) inside
  constructor
  · rw [suggest_flag offered, suggest_flag stillOffered, sameUse.choose]
  · rw [assign_of_offerDomain? offered, assign_of_offerDomain? stillOffered, ← names,
      sameUse.assignNames_eq_iff (List.ne_nil_of_mem isKnown), stalls_constants_iff domain,
      stalls_constants_iff domain, zeros, List.map_eq_nil_iff, List.length_map]
    -- Both sides now stall under the same conditions but for what lies outside.
    simp only [and_congr_right_iff, not_iff_not]

/-- Beside a flag, constants on both sides of the domain come and go freely. -/
theorem outside_matters_iff_beside_flag :
    let before : Declaration :=
      { name := "Access"
        typeName := "byte"
        isFlags := true
        members := [⟨"None", some 0⟩, ⟨"Below", some (-1)⟩, ⟨"Read", some 1⟩, ⟨"Write", none⟩] }
    let after : Declaration :=
      { before with
        members := [⟨"None", some 0⟩, ⟨"Read", some 1⟩, ⟨"Wide", some 256⟩, ⟨"Write", none⟩,
          ⟨"Wider", some 512⟩] }
    before.insideEntries Member.value .byte = after.insideEntries Member.value .byte ∧
      (∃ value ∈ before.constants Member.value, Domain.byte.contains value = true) ∧
      before.assign Member.value .aboveHighest = some [⟨"Write", ⟨.byte, 2⟩⟩] ∧
      after.assign Member.value .aboveHighest = some [⟨"Write", ⟨.byte, 2⟩⟩] := by
  intro before after
  have offered : before.offerDomain? = some .byte := by decide
  have stillOffered : after.offerDomain? = some .byte := by decide
  have same : before.insideEntries Member.value .byte =
      after.insideEntries Member.value .byte := by decide
  have known : ∃ value ∈ before.constants Member.value, Domain.byte.contains value = true := by
    decide
  have assigned : before.assign Member.value .aboveHighest = some [⟨"Write", ⟨.byte, 2⟩⟩] := by
    decide
  have unchanged : before.assign Member.value .aboveHighest =
      after.assign Member.value .aboveHighest := by
    refine (outside_matters_iff offered stillOffered same known .aboveHighest).2.mpr (Or.inl ?_)
    intro _ zeros
    exact absurd (zeros 1 (by decide) (by decide)) (by decide)
  exact ⟨same, known, assigned, unchanged ▸ assigned⟩

/-- Beside zero alone, a constant outside the domain keeps the next member from
its value. -/
theorem outside_blocks_one :
    let before : Declaration :=
      { name := "E"
        typeName := "byte"
        isFlags := true
        members := [⟨"None", some 0⟩, ⟨"A", none⟩] }
    let after := before.append ⟨"Wide", some 256⟩
    before.offerDomain? = some .byte ∧ after.offerDomain? = some .byte ∧
      before.insideEntries Member.value .byte = after.insideEntries Member.value .byte ∧
      (∃ value ∈ before.constants Member.value, Domain.byte.contains value = true) ∧
      before.assign Member.value .aboveHighest = some [⟨"A", ⟨.byte, 1⟩⟩] ∧
      after.assign Member.value .aboveHighest = none := by
  decide

end Declaration

end FlagEnum
