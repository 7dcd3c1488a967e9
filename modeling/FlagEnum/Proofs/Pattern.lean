import FlagEnum.Proofs.Selection
import Mathlib.Data.Finset.Card

/-!
# Patterns of words

The arithmetic of words works on bit patterns; here it is compared with that of
the integers they stand for. `Domain.setBits` reads the pattern of an integer in
two's complement off the integer itself, so the test for a single bit can be
stated without words. Doubling is the one value of the domain that is twice the
integer up to the word size.
-/

namespace FlagEnum

/-- The places of the bits that are set where the domain stores `value`, in two's
complement: division rounds down, so a negative value borrows from above. -/
def Domain.setBits (domain : Domain) (value : Int) : Finset Nat :=
  (Finset.range domain.bits).filter fun index => value / 2 ^ index % 2 = 1

/-- Multiples of a higher power of two do not reach a bit. -/
theorem ediv_two_pow_emod_two (value factor : Int) {index width : Nat} (inside : index < width) :
    (value + 2 ^ width * factor) / 2 ^ index % 2 = value / 2 ^ index % 2 := by
  have positive : (2 : Int) ^ index ≠ 0 := by positivity
  have split : (2 : Int) ^ width * factor = 2 ^ index * (2 * (2 ^ (width - index - 1) * factor)) := by
    have exponents : width = index + (1 + (width - index - 1)) := by omega
    conv_lhs => rw [exponents, pow_add, pow_add, pow_one]
    ring
  rw [split, Int.add_mul_ediv_left _ _ positive, Int.add_mul_emod_self_left]

/-- A number with at most one bit is zero or a power of two. -/
theorem testBit_subsingleton_iff {number : Nat} :
    (∀ left right, number.testBit left = true → number.testBit right = true → left = right) ↔
      number = 0 ∨ ∃ exponent, number = 2 ^ exponent := by
  constructor
  · intro unique
    by_cases empty : number = 0
    · exact Or.inl empty
    · obtain ⟨exponent, isSet⟩ := Nat.exists_testBit_of_ne_zero empty
      refine Or.inr ⟨exponent, Nat.eq_of_testBit_eq fun index => ?_⟩
      rw [Nat.testBit_two_pow, Bool.eq_iff_iff, decide_eq_true_eq]
      constructor
      · exact unique exponent index isSet
      · rintro rfl
        exact isSet
  · rintro (rfl | ⟨exponent, rfl⟩) left right leftSet rightSet
    · simp at leftSet
    · rw [Nat.testBit_two_pow, decide_eq_true_eq] at leftSet rightSet
      exact leftSet.symm.trans rightSet

namespace Word

variable {domain : Domain} {word : Word domain}

/-! ## The pattern of an integer -/

/-- The pattern is the integer up to the word size. -/
theorem pattern_toNat (word : Word domain) :
    (word.pattern.toNat : Int) = word.value % 2 ^ domain.bits := by
  have bounded : (word.pattern.toNat : Int) < 2 ^ domain.bits := by
    exact_mod_cast word.pattern.isLt
  rw [word.value_modEq, Int.emod_eq_of_lt (by positivity) bounded]

/-- The bits of a value are those of its pattern. -/
theorem mem_setBits {index : Nat} :
    index ∈ domain.setBits word.value ↔ word.pattern.toNat.testBit index = true := by
  rw [Domain.setBits, Finset.mem_filter, Finset.mem_range]
  by_cases inside : index < domain.bits
  · -- Value and pattern differ by whole words, which no bit below the width sees.
    have pattern : word.value =
        word.pattern.toNat + 2 ^ domain.bits * (word.value / 2 ^ domain.bits) := by
      rw [pattern_toNat, Int.emod_add_mul_ediv]
    rw [pattern, ediv_two_pow_emod_two _ _ inside, Nat.testBit_eq_decide_div_mod_eq,
      decide_eq_true_eq]
    simp only [inside, true_and]
    norm_cast
  · have small : word.pattern.toNat < 2 ^ index :=
      word.pattern.isLt.trans_le (Nat.pow_le_pow_right (by norm_num) (by omega))
    simp [inside, Nat.testBit_lt_two_pow small]

/-! ## Single bits -/

/-- Clearing the lowest bit leaves nothing exactly where no second one is set. -/
theorem hasAtMostOneBit_iff_card :
    word.hasAtMostOneBit = true ↔ (domain.setBits word.value).card ≤ 1 := by
  rw [hasAtMostOneBit_iff, ← testBit_subsingleton_iff, Finset.card_le_one]
  simp only [mem_setBits]
  exact ⟨fun unique left leftSet right rightSet => unique left right leftSet rightSet,
    fun unique left right leftSet rightSet => unique left leftSet right rightSet⟩

/-- A single bit is a flag of the domain, or the sign bit, which stands for the
least value. -/
theorem value_of_single_bit {exponent : Nat} (single : word.pattern.toNat = 2 ^ exponent) :
    word.value = 2 ^ exponent ∨ domain.signed = true ∧ word.value = domain.minValue := by
  have inside : exponent < domain.bits := by
    have bounded := word.pattern.isLt
    rwa [single, Nat.pow_lt_pow_iff_right (by norm_num)] at bounded
  have congruent : word.value ≡ 2 ^ exponent [ZMOD 2 ^ domain.bits] := by
    have pattern := word.value_modEq
    rw [single] at pattern
    exact_mod_cast pattern
  by_cases flag : exponent < domain.slots
  · exact Or.inl (Domain.eq_of_modEq word.contains_value (Domain.contains_two_pow.mpr flag) congruent)
  · obtain ⟨signed, isTop⟩ := Domain.signed_of_slots_le (Nat.not_lt.mp flag) inside
    rw [isTop] at congruent
    exact Or.inr ⟨signed, Domain.eq_of_modEq word.contains_value domain.contains_minValue
      (congruent.trans domain.minValue_modEq.symm)⟩

private theorem pattern_of_minValue (signed : domain.signed = true)
    (least : word.value = domain.minValue) :
    word.pattern.toNat = 2 ^ domain.slots := by
  have slots : domain.slots < domain.bits := by
    have positive := domain.bits_pos
    rw [Domain.slots, if_pos signed]
    omega
  have pattern : (word.pattern.toNat : Int) = 2 ^ domain.slots := by
    rw [pattern_toNat, least, domain.minValue_modEq]
    exact Int.emod_eq_of_lt (by positivity) (pow_lt_pow_right₀ (by norm_num) slots)
  exact_mod_cast pattern

/-- At most one bit is set in zero, in the powers of two and in the least value of
a signed domain. -/
theorem hasAtMostOneBit_iff_value :
    word.hasAtMostOneBit = true ↔
      word.value = 0 ∨ (∃ exponent : Nat, word.value = 2 ^ exponent) ∨
        domain.signed = true ∧ word.value = domain.minValue := by
  rw [hasAtMostOneBit_iff]
  constructor
  · rintro (empty | ⟨exponent, single⟩)
    · have congruent := word.value_modEq
      rw [empty, Nat.cast_zero] at congruent
      exact Or.inl (Domain.eq_of_modEq word.contains_value domain.contains_zero congruent)
    · exact Or.inr ((value_of_single_bit single).imp_left fun power => ⟨exponent, power⟩)
  · rintro (isZero | ⟨exponent, isPower⟩ | ⟨signed, least⟩)
    · left
      have pattern := word.pattern_toNat
      rw [isZero, Int.zero_emod] at pattern
      exact_mod_cast pattern
    · right
      have nonneg : 0 ≤ word.value := by
        rw [isPower]
        positivity
      have pattern := value_of_nonneg nonneg
      rw [isPower] at pattern
      exact ⟨exponent, by exact_mod_cast pattern.symm⟩
    · exact Or.inr ⟨domain.slots, pattern_of_minValue signed least⟩

/-! ## Doubling -/

/-- The doubled word stands for the one value of the domain that is twice the
value up to the word size. -/
theorem eq_double_value_iff {value : Int} :
    value = word.double.value ↔
      domain.contains value = true ∧ value ≡ 2 * word.value [ZMOD 2 ^ domain.bits] := by
  constructor
  · rintro rfl
    exact ⟨word.double.contains_value, word.double_modEq⟩
  · rintro ⟨inside, congruent⟩
    exact Domain.eq_of_modEq inside word.double.contains_value
      (congruent.trans word.double_modEq.symm)

/-- On every word of every domain, the test for a single bit and doubling agree
with integer arithmetic. The test accepts the patterns with at most one bit,
which are zero, the powers of two and the sign bit. Doubling is exact up to the
word size, and the double of a power of two is positive exactly as long as it
does not exceed the domain. -/
theorem arithmetic_exact (word : Word domain) :
    (word.hasAtMostOneBit = true ↔ (domain.setBits word.value).card ≤ 1) ∧
    (word.hasAtMostOneBit = true ↔
      word.value = 0 ∨ (∃ exponent : Nat, word.value = 2 ^ exponent) ∨
        domain.signed = true ∧ word.value = domain.minValue) ∧
    (∀ value : Int, value = word.double.value ↔
      domain.contains value = true ∧ value ≡ 2 * word.value [ZMOD 2 ^ domain.bits]) ∧
    ∀ exponent : Nat, word.value = 2 ^ exponent →
      (word.double.isPositive = true ↔ 2 * word.value ≤ domain.maxValue) ∧
      (2 * word.value ≤ domain.maxValue → word.double.value = 2 * word.value) := by
  refine ⟨hasAtMostOneBit_iff_card, hasAtMostOneBit_iff_value, fun _ => eq_double_value_iff, ?_⟩
  intro exponent isPower
  have flag : word.value ∈ domain.powers := by
    rw [isPower, Domain.two_pow_mem_powers, ← Domain.contains_two_pow, ← isPower]
    exact word.contains_value
  have fits := Domain.double_mem_powers_iff flag
  refine ⟨(double_isPositive_iff flag).trans fits, ?_⟩
  intro bounded
  exact double_value (Domain.contains_of_mem_powers (fits.mpr bounded))

/-- The last flag of a signed domain doubles into the sign bit, a single bit that
is not positive. -/
theorem arithmetic_exact_sign_bit :
    let word : Word .sbyte := .ofInt .sbyte 64
    word.value = 2 ^ 6 ∧ word.double.value = -128 ∧ word.double.hasAtMostOneBit = true ∧
      (word.double.isPositive = true ↔ 2 * word.value ≤ Domain.sbyte.maxValue) ∧
      ¬ 2 * word.value ≤ Domain.sbyte.maxValue := by
  intro word
  have isPower : word.value = 2 ^ 6 := by decide
  obtain ⟨_, _, _, doubling⟩ := arithmetic_exact word
  exact ⟨isPower, by decide, by decide, (doubling 6 isPower).1, by decide⟩

end Word

end FlagEnum
