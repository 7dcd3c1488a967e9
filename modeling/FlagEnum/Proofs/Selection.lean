import FlagEnum.Proofs.Choice
import Mathlib.Order.Bounds.Basic

/-!
# The exact answer of each policy

Both policies are answered here in terms of integers alone: `lowestFree` gives
the least power of two of the domain that no value is, and `aboveHighest` twice
the greatest one that some value is. Failures are described as exactly, so each
policy has no answer beside those named. Values outside the domain appear in
neither set of powers.
-/

namespace FlagEnum

namespace Domain

variable {domain : Domain} {values : List Int}

/-- The powers of two of the domain that no value is. -/
def unusedPowers (domain : Domain) (values : List Int) : Set Int :=
  {power | (∃ exponent < domain.slots, power = 2 ^ exponent) ∧ power ∉ values}

/-- The values that are powers of two and lie in the positive half of the domain. -/
def usedPowers (domain : Domain) (values : List Int) : Set Int :=
  {value | value ∈ values ∧ 1 ≤ value ∧ value ≤ domain.maxValue ∧
    ∃ exponent : Nat, value = 2 ^ exponent}

private theorem mem_unusedPowers {power : Int} :
    power ∈ domain.unusedPowers values ↔ power ∈ domain.powers ∧ power ∉ values := by
  rw [mem_powers]
  rfl

/-- The greatest value bounds the powers of two of the domain and no others. -/
theorem two_pow_le_maxValue {exponent : Nat} :
    2 ^ exponent ≤ domain.maxValue ↔ exponent < domain.slots := by
  have bound : 2 ^ exponent ≤ domain.maxValue ↔ (2 : Int) ^ exponent < 2 ^ domain.slots := by
    rw [maxValue_eq]
    omega
  rw [bound, pow_lt_pow_iff_right₀ (by norm_num)]

/-- The used powers are the values that are flags of the domain. -/
theorem mem_usedPowers {value : Int} :
    value ∈ domain.usedPowers values ↔ value ∈ values ∧ value ∈ domain.powers := by
  constructor
  · rintro ⟨isUsed, _, bounded, exponent, rfl⟩
    exact ⟨isUsed, two_pow_mem_powers.mpr (two_pow_le_maxValue.mp bounded)⟩
  · rintro ⟨isUsed, isPower⟩
    have positive := pos_of_mem_powers isPower
    obtain ⟨exponent, inside, rfl⟩ := mem_powers.mp isPower
    exact ⟨isUsed, by omega, two_pow_le_maxValue.mpr inside, exponent, rfl⟩

/-- The double of a flag is a flag as long as it does not exceed the domain. -/
theorem double_mem_powers_iff {power : Int} (isPower : power ∈ domain.powers) :
    2 * power ∈ domain.powers ↔ 2 * power ≤ domain.maxValue := by
  obtain ⟨exponent, _, rfl⟩ := mem_powers.mp isPower
  rw [← pow_succ', two_pow_mem_powers, two_pow_le_maxValue]

end Domain

namespace Policy

variable {domain : Domain} {values : List Int}

/-! ## The lowest free flag -/

/-- The choice of `lowestFree` is the least power that is unused. -/
theorem lowestFree_isLeast (nonempty : values ≠ []) {flag : Flag}
    (chosen : Policy.lowestFree.choose domain values = .ok flag) :
    flag.domain = domain ∧ IsLeast (domain.unusedPowers values) flag.value := by
  obtain ⟨inDomain, isPower, unused⟩ :=
    Domain.mem_freeFlags.mp (lowestFree_mem_freeFlags nonempty chosen)
  refine ⟨inDomain, Domain.mem_unusedPowers.mpr ⟨isPower, unused⟩, ?_⟩
  intro power isFree
  obtain ⟨isPower, unused⟩ := Domain.mem_unusedPowers.mp isFree
  exact lowestFree_least nonempty chosen isPower unused

/-- `lowestFree` fails in one way only, and only where no power of two is left. -/
theorem lowestFree_error (nonempty : values ≠ []) {failure : ChoiceError}
    (failed : Policy.lowestFree.choose domain values = .error failure) :
    failure = .exhausted domain ∧ domain.unusedPowers values = ∅ := by
  rw [choose_lowestFree nonempty] at failed
  split at failed
  · next noneFree =>
    cases failed
    refine ⟨rfl, Set.eq_empty_iff_forall_notMem.mpr ?_⟩
    intro power isFree
    have listed : ⟨domain, power⟩ ∈ domain.freeFlags values :=
      Domain.mem_freeFlags.mpr ⟨rfl, Domain.mem_unusedPowers.mp isFree⟩
    rw [noneFree] at listed
    cases listed
  · cases failed

/-- Beside any values, `lowestFree` gives the least power of two of the domain
that is not among them, and fails as exhausted exactly where all of them are. -/
theorem lowestFree_exact (nonempty : values ≠ []) :
    (∀ flag : Flag, Policy.lowestFree.choose domain values = .ok flag ↔
      flag.domain = domain ∧ IsLeast (domain.unusedPowers values) flag.value) ∧
    (Policy.lowestFree.choose domain values = .error (.exhausted domain) ↔
      ∀ exponent < domain.slots, 2 ^ exponent ∈ values) ∧
    ((∃ flag, Policy.lowestFree.choose domain values = .ok flag) ∨
      Policy.lowestFree.choose domain values = .error (.exhausted domain)) := by
  cases answer : Policy.lowestFree.choose domain values with
  | ok flag =>
    obtain ⟨inDomain, least⟩ := lowestFree_isLeast nonempty answer
    refine ⟨?_, ?_, Or.inl ⟨flag, rfl⟩⟩
    · intro other
      constructor
      · rintro ⟨⟩
        exact ⟨inDomain, least⟩
      · rintro ⟨otherDomain, otherLeast⟩
        have sameDomain := inDomain.trans otherDomain.symm
        have sameValue := least.unique otherLeast
        cases flag
        cases other
        rw [Except.ok.injEq, Flag.mk.injEq]
        exact ⟨sameDomain, sameValue⟩
    · obtain ⟨⟨exponent, inside, isPower⟩, unused⟩ := least.1
      simp only [reduceCtorEq, false_iff, not_forall]
      exact ⟨exponent, inside, isPower ▸ unused⟩
  | error failure =>
    obtain ⟨rfl, noneFree⟩ := lowestFree_error nonempty answer
    refine ⟨?_, ?_, Or.inr rfl⟩
    · intro flag
      simp [noneFree, IsLeast]
    · simp only [true_iff]
      intro exponent inside
      by_contra unused
      have isFree : 2 ^ exponent ∈ domain.unusedPowers values := ⟨⟨exponent, inside, rfl⟩, unused⟩
      rw [noneFree] at isFree
      exact isFree

/-- The top bit of an unsigned domain is a flag like the others, and neither a
value past it nor a negative one is in the way. -/
theorem lowestFree_exact_top :
    let values : List Int := [64, 32, 16, 8, 4, 2, 1, 256, -128, 3]
    Policy.lowestFree.choose .byte values = .ok ⟨.byte, 128⟩ ∧
      IsLeast (Domain.byte.unusedPowers values) 128 := by
  intro values
  have chosen : Policy.lowestFree.choose .byte values = .ok ⟨.byte, 128⟩ := by decide
  exact ⟨chosen, (((lowestFree_exact (by simp [values])).1 _).mp chosen).2⟩

/-! ## The flag above the highest -/

/-- There is a greatest among the used powers, if there are any. -/
theorem exists_isGreatest (used : (domain.usedPowers values).Nonempty) :
    ∃ highest, IsGreatest (domain.usedPowers values) highest := by
  rcases exists_greatest_power domain values with unused | ⟨highest, isPower, isUsed, greatest⟩
  · obtain ⟨value, isUsedPower⟩ := used
    obtain ⟨isUsed, isPower⟩ := Domain.mem_usedPowers.mp isUsedPower
    exact absurd isUsed (unused value isPower)
  · refine ⟨highest, Domain.mem_usedPowers.mpr ⟨isUsed, isPower⟩, ?_⟩
    intro other isUsedPower
    obtain ⟨otherUsed, otherPower⟩ := Domain.mem_usedPowers.mp isUsedPower
    exact greatest other otherPower otherUsed

/-- The choice of `aboveHighest` is the double of the greatest used power, if the
domain has it. -/
theorem aboveHighest_of_isGreatest {highest : Int}
    (greatest : IsGreatest (domain.usedPowers values) highest) :
    Policy.aboveHighest.choose domain values =
      if 2 * highest ≤ domain.maxValue then .ok ⟨domain, 2 * highest⟩
      else .error (.overflow highest domain) := by
  obtain ⟨isUsed, isPower⟩ := Domain.mem_usedPowers.mp greatest.1
  rw [choose_aboveHighest_some isPower isUsed]
  · simp only [Domain.double_mem_powers_iff isPower]
  · intro other otherPower otherUsed
    exact greatest.2 (Domain.mem_usedPowers.mpr ⟨otherUsed, otherPower⟩)

/-- Without a used power there is no choice above the highest. -/
theorem aboveHighest_of_empty (nonempty : values ≠ []) (noneUsed : domain.usedPowers values = ∅) :
    Policy.aboveHighest.choose domain values = .error (.noPowerOfTwo domain) := by
  apply choose_aboveHighest_none nonempty
  intro power isPower isUsed
  have isUsedPower := Domain.mem_usedPowers.mpr ⟨isUsed, isPower⟩
  rw [noneUsed] at isUsedPower
  exact isUsedPower

/-- Beside any values, `aboveHighest` doubles the greatest power of two among
those of the domain. It fails where there is none, and where the double exceeds
the domain; what it gives is always a new flag. -/
theorem aboveHighest_exact (nonempty : values ≠ []) :
    (Policy.aboveHighest.choose domain values = .error (.noPowerOfTwo domain) ↔
      domain.usedPowers values = ∅) ∧
    ((domain.usedPowers values).Nonempty → ∃ highest,
      IsGreatest (domain.usedPowers values) highest ∧
      Policy.aboveHighest.choose domain values =
        if 2 * highest ≤ domain.maxValue then .ok ⟨domain, 2 * highest⟩
        else .error (.overflow highest domain)) ∧
    ∀ flag : Flag, Policy.aboveHighest.choose domain values = .ok flag →
      flag.domain = domain ∧ (∃ exponent : Nat, flag.value = 2 ^ exponent) ∧
        domain.contains flag.value = true ∧ flag.value ∉ values := by
  refine ⟨⟨?_, aboveHighest_of_empty nonempty⟩, ?_, ?_⟩
  · intro failed
    by_contra used
    obtain ⟨highest, greatest⟩ := exists_isGreatest (Set.nonempty_iff_ne_empty.mpr used)
    rw [aboveHighest_of_isGreatest greatest] at failed
    split at failed <;> cases failed
  · intro used
    obtain ⟨highest, greatest⟩ := exists_isGreatest used
    exact ⟨highest, greatest, aboveHighest_of_isGreatest greatest⟩
  · intro flag chosen
    have fits := choose_fits chosen
    obtain ⟨exponent, _, isPower⟩ := Domain.mem_powers.mp (fits.power nonempty)
    exact ⟨fits.inDomain, ⟨exponent, isPower⟩, fits.contained, fits.unused⟩

/-- The sign bit is no flag, so the last flag of a signed domain has no double;
neither the least value nor one past the domain takes its place. -/
theorem aboveHighest_exact_last :
    let values : List Int := [0, -128, 64, 128, 100]
    (∃ highest, IsGreatest (Domain.sbyte.usedPowers values) highest ∧
      Policy.aboveHighest.choose .sbyte values =
        if 2 * highest ≤ Domain.sbyte.maxValue then .ok ⟨.sbyte, 2 * highest⟩
        else .error (.overflow highest .sbyte)) ∧
      Policy.aboveHighest.choose .sbyte values = .error (.overflow 64 .sbyte) := by
  intro values
  have used : (Domain.sbyte.usedPowers values).Nonempty :=
    ⟨64, by simp [values], by decide, by decide, 6, by norm_num⟩
  exact ⟨(aboveHighest_exact (by simp [values])).2.1 used, by decide⟩

end Policy

end FlagEnum
