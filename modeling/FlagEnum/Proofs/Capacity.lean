import FlagEnum.Proofs.Assignment

/-!
# How many values can be assigned

An assignment gives all members a value or none of them, so it is declined as
soon as one step of its walk fails. `Policy.capacity` says beforehand how long
the walk can be. It is a count that every step lowers by one and that is zero
exactly where a step fails (`nextFlag_spends`); the length at which a whole
walk is declined follows by induction.
-/

namespace FlagEnum

namespace Domain

variable {domain : Domain} {values : List Int} {exponent : Nat}

/-- The exponent of the greatest power of two of the domain among the values. -/
def highestExponent? (domain : Domain) (values : List Int) : Option Nat :=
  ((List.range domain.slots).filter fun exponent => (2 : Int) ^ exponent ∈ values).max?

/-- The highest exponent is the greatest among the flags in use. -/
theorem highestExponent?_eq_some_iff :
    domain.highestExponent? values = some exponent ↔
      (exponent < domain.slots ∧ 2 ^ exponent ∈ values) ∧
        ∀ other < domain.slots, 2 ^ other ∈ values → other ≤ exponent := by
  simp [highestExponent?, List.max?_eq_some_iff]

/-- Only where no flag is in use is there no highest exponent. -/
theorem highestExponent?_eq_none_iff :
    domain.highestExponent? values = none ↔ ∀ power ∈ domain.powers, power ∉ values := by
  simp only [highestExponent?, List.max?_eq_none_iff, List.filter_eq_nil_iff, List.mem_range,
    decide_eq_true_eq, mem_powers]
  constructor
  · rintro unused power ⟨exponent, inside, rfl⟩
    exact unused exponent inside
  · intro unused exponent inside
    exact unused _ ⟨exponent, inside, rfl⟩

/-- Zeros have no highest exponent. -/
theorem highestExponent?_of_zeros (zeros : ∀ value ∈ values, value = 0) :
    domain.highestExponent? values = none := by
  refine highestExponent?_eq_none_iff.mpr ?_
  intro power isPower isUsed
  have positive := pos_of_mem_powers isPower
  have isZero := zeros power isUsed
  omega

/-- A power of two that is not below those in use becomes the greatest. -/
theorem highestExponent?_append (inside : exponent < domain.slots)
    (above : ∀ other < domain.slots, 2 ^ other ∈ values → other ≤ exponent) :
    domain.highestExponent? (values ++ [2 ^ exponent]) = some exponent := by
  refine highestExponent?_eq_some_iff.mpr ⟨⟨inside, by simp⟩, ?_⟩
  intro other otherInside isUsed
  rcases List.mem_append.mp isUsed with before | isLast
  · exact above other otherInside before
  · have same := List.mem_singleton.mp isLast
    exact (pow_right_injective₀ (by norm_num) (by norm_num) same).le

/-- A domain has one flag for each of its slots. -/
theorem length_powers (domain : Domain) : domain.powers.length = domain.slots := by
  simp [powers]

/-- Beside no values, every flag of the domain is free. -/
theorem length_freeFlags_nil (domain : Domain) : (domain.freeFlags []).length = domain.slots := by
  rw [freeFlags_eq, List.length_map, List.filter_eq_self.mpr (by simp), length_powers]

end Domain

/-- How many values a policy can assign in turn beside those in use. The first
value of all is zero and takes no flag; above the highest, what lies below it
is lost. -/
def Policy.capacity (policy : Policy) (domain : Domain) (values : List Int) : Nat :=
  if values = [] then domain.slots + 1
  else
    match policy with
    | .lowestFree => (domain.freeFlags values).length
    | .aboveHighest =>
      match domain.highestExponent? values with
      | some exponent => domain.slots - 1 - exponent
      | none => if ∀ value ∈ values, value = 0 then domain.slots else 0

namespace Declaration

variable {policy : Policy} {domain : Domain} {values : List Int} {exponent : Nat}

/-! ## The next flag, case by case -/

@[simp] theorem nextFlag_nil (policy : Policy) (domain : Domain) :
    nextFlag policy domain [] = .ok (.zero domain) :=
  rfl

/-- Under `lowestFree` the next flag is the first of the free ones. -/
theorem nextFlag_lowestFree (nonempty : values ≠ []) :
    nextFlag .lowestFree domain values =
      match domain.freeFlags values with
      | [] => .error (.exhausted domain)
      | flag :: _ => .ok flag := by
  rw [nextFlag, Policy.choose_lowestFree nonempty]
  cases domain.freeFlags values with
  | nil => rfl
  | cons flag rest => rfl

/-- Above a power of two, the next flag is the next power of two. -/
theorem nextFlag_of_exponent (highest : domain.highestExponent? values = some exponent) :
    nextFlag .aboveHighest domain values =
      if exponent + 1 < domain.slots then .ok ⟨domain, 2 ^ (exponent + 1)⟩
      else .error (.overflow (2 ^ exponent) domain) := by
  obtain ⟨⟨inside, isUsed⟩, greatest⟩ := Domain.highestExponent?_eq_some_iff.mp highest
  have chosen : Policy.aboveHighest.choose domain values =
      if exponent + 1 < domain.slots then .ok ⟨domain, 2 ^ (exponent + 1)⟩
      else .error (.overflow (2 ^ exponent) domain) := by
    rw [Policy.choose_aboveHighest_some (Domain.two_pow_mem_powers.mpr inside) isUsed]
    · simp only [← pow_succ', Domain.two_pow_mem_powers]
    · rintro other isPower otherUsed
      obtain ⟨otherExponent, otherInside, rfl⟩ := Domain.mem_powers.mp isPower
      exact pow_le_pow_right₀ (by norm_num) (greatest otherExponent otherInside otherUsed)
  rw [nextFlag, chosen]
  by_cases fits : exponent + 1 < domain.slots
  · simp only [if_pos fits]
  · simp only [if_neg fits]

/-- Without a power of two to double, only zeros can be followed. -/
theorem nextFlag_of_no_exponent (nonempty : values ≠ [])
    (noPower : domain.highestExponent? values = none) :
    nextFlag .aboveHighest domain values =
      if ∀ value ∈ values, value = 0 then .ok ⟨domain, 1⟩
      else .error (.noPowerOfTwo domain) := by
  rw [nextFlag, Policy.choose_aboveHighest_none nonempty
    (Domain.highestExponent?_eq_none_iff.mp noPower)]
  simp

/-! ## One step -/

/-- What a step does to the capacity: a value spends one, and a failure means
that there is none. -/
def Spends (policy : Policy) (domain : Domain) (values : List Int) :
    Except ChoiceError Flag → Prop
  | .ok flag =>
    policy.capacity domain (values ++ [flag.value]) + 1 = policy.capacity domain values
  | .error _ => policy.capacity domain values = 0

@[simp] theorem spends_ok {flag : Flag} :
    Spends policy domain values (.ok flag) ↔
      policy.capacity domain (values ++ [flag.value]) + 1 = policy.capacity domain values :=
  Iff.rfl

@[simp] theorem spends_error {failure : ChoiceError} :
    Spends policy domain values (.error failure) ↔ policy.capacity domain values = 0 :=
  Iff.rfl

/-- Beside no values there is room for zero and for every flag. -/
theorem capacity_nil (policy : Policy) (domain : Domain) :
    policy.capacity domain [] = domain.slots + 1 :=
  if_pos rfl

private theorem capacity_lowestFree (nonempty : values ≠ []) :
    Policy.lowestFree.capacity domain values = (domain.freeFlags values).length := by
  rw [Policy.capacity, if_neg nonempty]

private theorem capacity_of_exponent (highest : domain.highestExponent? values = some exponent) :
    Policy.aboveHighest.capacity domain values = domain.slots - 1 - exponent := by
  have isUsed := (Domain.highestExponent?_eq_some_iff.mp highest).1.2
  rw [Policy.capacity, if_neg (List.ne_nil_of_mem isUsed)]
  simp only [highest]

/-- Where no flag is in use, doubling has room for every flag beside zeros, and
for none beside anything else. -/
theorem capacity_of_no_exponent (nonempty : values ≠ [])
    (noPower : domain.highestExponent? values = none) :
    Policy.aboveHighest.capacity domain values =
      if ∀ value ∈ values, value = 0 then domain.slots else 0 := by
  rw [Policy.capacity, if_neg nonempty]
  simp only [noPower]

/-- The first value is zero; it leaves every flag of the domain to come. -/
theorem capacity_zero (policy : Policy) (domain : Domain) :
    policy.capacity domain [0] = domain.slots := by
  cases policy with
  | lowestFree =>
    rw [capacity_lowestFree (by simp), Policy.freeFlags_zero, Domain.length_freeFlags_nil]
  | aboveHighest =>
    have zeros : ∀ value ∈ [(0 : Int)], value = 0 := by simp
    rw [capacity_of_no_exponent (by simp) (Domain.highestExponent?_of_zeros zeros), if_pos zeros]

private theorem lowestFree_spends (nonempty : values ≠ []) :
    Spends .lowestFree domain values (nextFlag .lowestFree domain values) := by
  rw [nextFlag_lowestFree nonempty]
  cases free : domain.freeFlags values with
  | nil =>
    rw [spends_error, capacity_lowestFree nonempty, free, List.length_nil]
  | cons flag rest =>
    rw [spends_ok, capacity_lowestFree (by simp), capacity_lowestFree nonempty,
      Domain.freeFlags_append_head free, free, List.length_cons]

private theorem aboveHighest_spends (nonempty : values ≠ []) :
    Spends .aboveHighest domain values (nextFlag .aboveHighest domain values) := by
  cases highest : domain.highestExponent? values with
  | some exponent =>
    obtain ⟨_, greatest⟩ := Domain.highestExponent?_eq_some_iff.mp highest
    rw [nextFlag_of_exponent highest]
    split
    · next fits =>
      have next : domain.highestExponent? (values ++ [2 ^ (exponent + 1)]) =
          some (exponent + 1) := by
        refine Domain.highestExponent?_append fits ?_
        intro other inside isUsed
        have below := greatest other inside isUsed
        omega
      rw [spends_ok, capacity_of_exponent next, capacity_of_exponent highest]
      omega
    · next last =>
      rw [spends_error, capacity_of_exponent highest]
      omega
  | none =>
    have capacity := capacity_of_no_exponent nonempty highest
    rw [nextFlag_of_no_exponent nonempty highest]
    split
    · next zeros =>
      -- From here on there is a power of two to double.
      have slots := domain.slots_pos
      have next : domain.highestExponent? (values ++ [2 ^ 0]) = some 0 := by
        refine Domain.highestExponent?_append slots ?_
        intro other inside isUsed
        exact absurd isUsed (Domain.highestExponent?_eq_none_iff.mp highest _
          (Domain.two_pow_mem_powers.mpr inside))
      rw [if_pos zeros] at capacity
      change Policy.aboveHighest.capacity domain (values ++ [2 ^ 0]) + 1 = _
      rw [capacity_of_exponent next, capacity]
      omega
    · next other =>
      rw [spends_error, capacity, if_neg other]

/-- One step spends one of the capacity, or there was none. -/
theorem nextFlag_spends (policy : Policy) (domain : Domain) (values : List Int) :
    Spends policy domain values (nextFlag policy domain values) := by
  by_cases empty : values = []
  · subst empty
    rw [nextFlag_nil, spends_ok, capacity_nil, List.nil_append, Flag.zero, capacity_zero]
  · cases policy with
    | lowestFree => exact lowestFree_spends empty
    | aboveHighest => exact aboveHighest_spends empty

/-! ## The whole walk -/

/-- A walk is declined exactly where it is longer than the capacity. -/
theorem assignNames_eq_none_iff {names : List String} :
    assignNames policy domain values names = none ↔
      policy.capacity domain values < names.length := by
  induction names generalizing values with
  | nil => simp [assignNames]
  | cons name rest inductionHypothesis =>
    have spent := nextFlag_spends policy domain values
    rw [assignNames, List.length_cons]
    cases next : nextFlag policy domain values with
    | error failure =>
      rw [next, spends_error] at spent
      simp [spent]
    | ok flag =>
      rw [next, spends_ok] at spent
      simp only [Option.bind_eq_bind, Option.bind_eq_none_iff, Option.pure_def, reduceCtorEq,
        imp_false, ← Option.eq_none_iff_forall_ne_some, inductionHypothesis]
      omega

private theorem offerDomain?_eq (declaration : Declaration) :
    declaration.offerDomain? =
      if declaration.isFlags then Domain.ofName? declaration.typeName else none := by
  rw [offerDomain?, Declaration.domain, Domain.ofName]
  cases Domain.ofName? declaration.typeName with
  | none => rfl
  | some domain => rfl

/-- Values for the members without a constant are declined exactly where the
declaration is not one of flags, where its type stands for no domain, and where
more members are without a constant than the policy has capacity for. -/
theorem assign_declined_iff (declaration : Declaration) (lookup : Lookup) (policy : Policy) :
    declaration.assign lookup policy = none ↔
      declaration.isFlags = false ∨ Domain.ofName? declaration.typeName = none ∨
        ∃ domain, Domain.ofName? declaration.typeName = some domain ∧
          policy.capacity domain (declaration.constants lookup) <
            (declaration.unknowns lookup).length := by
  rw [assign, offerDomain?_eq]
  cases declaration.isFlags with
  | false => simp
  | true =>
    cases Domain.ofName? declaration.typeName with
    | none => simp
    | some domain => simp [assignNames_eq_none_iff]

end Declaration

end FlagEnum
