import FlagEnum.Choice
import Mathlib.Data.Int.ModEq
import Mathlib.Tactic

/-!
# Words as integers

A word wraps, an integer does not. `Word.value` is injective into the range of
its domain, and `Domain.eq_of_modEq` lets a law that holds up to multiples of
the word size be read as an equation wherever both sides are in range. From
this come the two facts that a choice rests on: the flags of a domain are
exactly the powers of two below `2 ^ slots`, and doubling the last of them
gives the least value of the domain, which is not positive.
-/

namespace FlagEnum

namespace Domain

variable {domain : Domain}

/-- Every domain has bits. -/
theorem bits_pos (domain : Domain) : 0 < domain.bits := by
  cases domain <;> decide

/-- No domain has more than 64 bits. -/
theorem bits_le (domain : Domain) : domain.bits ≤ 64 := by
  cases domain <;> decide

/-- Every domain has a flag. -/
theorem slots_pos (domain : Domain) : 0 < domain.slots := by
  cases domain <;> decide

/-- There are no more flags than bits. -/
theorem slots_le_bits (domain : Domain) : domain.slots ≤ domain.bits := by
  unfold slots
  split
  · exact Nat.sub_le _ _
  · exact Nat.le_refl _

/-- Only the sign bit lies past the flags. -/
theorem signed_of_slots_le {index : Nat} (past : domain.slots ≤ index)
    (inside : index < domain.bits) : domain.signed = true ∧ index = domain.slots := by
  unfold slots at *
  split at past
  · next signed =>
    rw [if_pos signed]
    exact ⟨signed, by omega⟩
  · omega

/-- A word size is twice the size of one bit less. -/
theorem two_pow_bits (domain : Domain) : (2 : Int) ^ domain.bits = 2 * 2 ^ (domain.bits - 1) := by
  rw [← pow_succ', Nat.sub_add_cancel domain.bits_pos]

/-- The greatest value is one below the first power of two that is no flag. -/
theorem maxValue_eq (domain : Domain) : domain.maxValue = 2 ^ domain.slots - 1 := by
  unfold maxValue slots
  split <;> simp [Nat.one_shiftLeft]

/-- The least value lies one word size below that same power of two. -/
theorem minValue_eq (domain : Domain) :
    domain.minValue = 2 ^ domain.slots - 2 ^ domain.bits := by
  have size := domain.two_pow_bits
  unfold minValue slots
  split
  · rw [Nat.one_shiftLeft]
    push_cast
    omega
  · omega

/-- The least value of a domain is not positive. -/
theorem minValue_nonpos (domain : Domain) : domain.minValue ≤ 0 := by
  rw [minValue_eq]
  have smaller := pow_le_pow_right₀ (one_le_two : (1 : Int) ≤ 2) domain.slots_le_bits
  omega

/-- Up to the word size, the least value is the first power of two past the flags. -/
theorem minValue_modEq (domain : Domain) :
    domain.minValue ≡ 2 ^ domain.slots [ZMOD 2 ^ domain.bits] := by
  rw [minValue_eq]
  exact Int.sub_modulus_modEq_iff.mpr rfl

/-- A domain reaches from its least value to below the first power of two past the
flags. -/
theorem contains_iff {value : Int} :
    domain.contains value = true ↔ domain.minValue ≤ value ∧ value < 2 ^ domain.slots := by
  simp only [contains, maxValue_eq, Bool.and_eq_true, decide_eq_true_eq]
  omega

/-- A domain has its least value. -/
theorem contains_minValue (domain : Domain) : domain.contains domain.minValue = true := by
  have least := domain.minValue_nonpos
  have positive : (0 : Int) < 2 ^ domain.slots := by positivity
  exact contains_iff.mpr ⟨le_refl _, by omega⟩

/-- Every domain has zero. -/
theorem contains_zero (domain : Domain) : domain.contains 0 = true :=
  contains_iff.mpr ⟨domain.minValue_nonpos, by positivity⟩

/-- The powers of two in a domain are its flags. -/
theorem contains_two_pow {index : Nat} :
    domain.contains (2 ^ index) = true ↔ index < domain.slots := by
  rw [contains_iff, pow_lt_pow_iff_right₀ (by norm_num)]
  have least := domain.minValue_nonpos
  have positive : (0 : Int) < 2 ^ index := by positivity
  exact ⟨fun inside => inside.2, fun inside => ⟨by omega, inside⟩⟩

/-- A domain is no longer than its word size, so two of its values that agree up
to the word size are the same. -/
theorem eq_of_modEq {left right : Int} (leftIn : domain.contains left = true)
    (rightIn : domain.contains right = true) (same : left ≡ right [ZMOD 2 ^ domain.bits]) :
    left = right := by
  rw [contains_iff, minValue_eq] at leftIn rightIn
  have near : |right - left| < 2 ^ domain.bits := by
    rw [abs_lt]
    omega
  have equal := Int.eq_zero_of_abs_lt_dvd (Int.modEq_iff_dvd.mp same) near
  omega

/-- The flags of a domain as integers, from the lowest up. -/
def powers (domain : Domain) : List Int :=
  (List.range domain.slots).map fun index => 2 ^ index

@[simp] theorem mem_powers {value : Int} :
    value ∈ domain.powers ↔ ∃ index < domain.slots, value = 2 ^ index := by
  simp [powers, eq_comm]

/-- A power of two is a flag if its exponent is below the slots. -/
theorem two_pow_mem_powers {index : Nat} : 2 ^ index ∈ domain.powers ↔ index < domain.slots := by
  constructor
  · intro flag
    obtain ⟨other, inside, same⟩ := mem_powers.mp flag
    rw [← contains_two_pow, same, contains_two_pow]
    exact inside
  · intro inside
    exact mem_powers.mpr ⟨index, inside, rfl⟩

/-- The flags are listed from the lowest up. -/
theorem powers_increasing (domain : Domain) : domain.powers.Pairwise (· < ·) := by
  refine List.pairwise_map.mpr (List.pairwise_lt_range.imp ?_)
  intro low high less
  exact pow_lt_pow_right₀ (by norm_num) less

/-- Flags are positive. -/
theorem pos_of_mem_powers {value : Int} (flag : value ∈ domain.powers) : 0 < value := by
  obtain ⟨index, _, rfl⟩ := mem_powers.mp flag
  positivity

/-- Flags are values of their domain. -/
theorem contains_of_mem_powers {value : Int} (flag : value ∈ domain.powers) :
    domain.contains value = true := by
  obtain ⟨index, inside, rfl⟩ := mem_powers.mp flag
  exact contains_two_pow.mpr inside

/-- A flag whose double is no flag is the last of its domain. -/
theorem double_eq_top {value : Int} (flag : value ∈ domain.powers)
    (last : 2 * value ∉ domain.powers) : 2 * value = 2 ^ domain.slots := by
  obtain ⟨index, inside, rfl⟩ := mem_powers.mp flag
  rw [← pow_succ', two_pow_mem_powers] at last
  rw [← pow_succ']
  congr 1
  omega

end Domain

namespace Word

variable {domain : Domain}

/-- A word stands for its pattern, up to the word size. -/
theorem value_modEq (word : Word domain) :
    word.value ≡ word.pattern.toNat [ZMOD 2 ^ domain.bits] := by
  unfold value
  split
  · rw [BitVec.toInt_eq_toNat_bmod, Int.ModEq]
    simpa using Int.bmod_emod (x := word.pattern.toNat) (m := 2 ^ domain.bits)
  · rfl

/-- A word stands for a value of its domain. -/
theorem contains_value (word : Word domain) : domain.contains word.value = true := by
  have size := domain.two_pow_bits
  rw [Domain.contains_iff, Domain.minValue_eq]
  unfold value Domain.slots
  split
  · have low := word.pattern.le_toInt
    have high := word.pattern.toInt_lt
    omega
  · have high : (word.pattern.toNat : Int) < 2 ^ domain.bits := by
      exact_mod_cast word.pattern.isLt
    omega

/-- Different words stand for different integers. -/
theorem value_injective : Function.Injective (value : Word domain → Int) := by
  intro left right same
  have congruent : (left.pattern.toNat : Int) ≡ right.pattern.toNat [ZMOD 2 ^ domain.bits] :=
    left.value_modEq.symm.trans (same ▸ right.value_modEq)
  have patterns : left.pattern.toNat ≡ right.pattern.toNat [MOD 2 ^ domain.bits] := by
    exact_mod_cast congruent
  have equal := patterns.eq_of_lt_of_lt left.pattern.isLt right.pattern.isLt
  cases left
  cases right
  congr
  exact BitVec.eq_of_toNat_eq equal

/-- The word of an integer stands for it up to the word size. -/
theorem ofInt_modEq (domain : Domain) (number : Int) :
    (ofInt domain number).value ≡ number [ZMOD 2 ^ domain.bits] := by
  refine (value_modEq _).trans ?_
  have positive : (0 : Int) < 2 ^ domain.bits := by positivity
  simp only [ofInt, BitVec.toNat_ofInt]
  push_cast
  rw [Int.toNat_of_nonneg (Int.emod_nonneg _ positive.ne')]
  exact Int.mod_modEq _ _

/-- The word of a value of the domain stands for it. -/
theorem value_ofInt {number : Int} (fits : domain.contains number = true) :
    (ofInt domain number).value = number :=
  Domain.eq_of_modEq (contains_value _) fits (ofInt_modEq domain number)

/-- Every value of a domain has its word. -/
theorem exists_value_eq {number : Int} (fits : domain.contains number = true) :
    ∃ word : Word domain, word.value = number :=
  ⟨ofInt domain number, value_ofInt fits⟩

@[simp] theorem value_one (domain : Domain) : (one domain).value = 1 := by
  have fits : domain.contains (2 ^ 0) = true := Domain.contains_two_pow.mpr domain.slots_pos
  change (ofInt domain 1).value = 1
  exact value_ofInt fits

@[simp] theorem value_zero (domain : Domain) : (zero domain).value = 0 := by
  change (ofInt domain 0).value = 0
  apply value_ofInt
  rw [Domain.contains_iff]
  exact ⟨domain.minValue_nonpos, by positivity⟩

/-! ## Narrowing -/

/-- Narrowing is the partial inverse of `value`. -/
theorem narrow?_eq_some_iff {number : Int} {word : Word domain} :
    narrow? domain number = some word ↔ word.value = number := by
  unfold narrow?
  constructor
  · intro narrowed
    split at narrowed
    · next fits =>
      cases narrowed
      exact value_ofInt fits
    · cases narrowed
  · rintro rfl
    rw [if_pos word.contains_value]
    exact congrArg some (value_injective (value_ofInt word.contains_value))

/-- Narrowing a list loses no value that a word could clash with. -/
@[simp] theorem mem_usedWords {values : List Int} {word : Word domain} :
    word ∈ domain.usedWords values ↔ word.value ∈ values := by
  simp [Domain.usedWords, narrow?_eq_some_iff]

/-! ## Doubling -/

/-- The double of a word stands for twice its value, up to the word size. -/
theorem double_modEq (word : Word domain) :
    word.double.value ≡ 2 * word.value [ZMOD 2 ^ domain.bits] := by
  refine (value_modEq _).trans ?_
  simp only [double, BitVec.toNat_add]
  push_cast
  rw [← two_mul]
  exact (Int.mod_modEq _ _).trans ((value_modEq word).symm.mul_left 2)

/-- Doubling is exact where the result is in the domain. -/
theorem double_value {word : Word domain} (fits : domain.contains (2 * word.value) = true) :
    word.double.value = 2 * word.value :=
  Domain.eq_of_modEq (contains_value _) fits word.double_modEq

/-- The last flag doubles into the sign bit or out of the word; either way the
result is the least value of the domain. -/
theorem double_value_top {word : Word domain} (top : 2 * word.value = 2 ^ domain.slots) :
    word.double.value = domain.minValue := by
  apply Domain.eq_of_modEq (contains_value _) domain.contains_minValue
  refine word.double_modEq.trans ?_
  rw [top]
  exact domain.minValue_modEq.symm

/-- Doubling a flag gives a positive word exactly when it gives a flag. -/
theorem double_isPositive_iff {word : Word domain} (flag : word.value ∈ domain.powers) :
    word.double.isPositive = true ↔ 2 * word.value ∈ domain.powers := by
  simp only [isPositive, decide_eq_true_eq]
  by_cases fits : 2 * word.value ∈ domain.powers
  · have positive := Domain.pos_of_mem_powers fits
    rw [double_value (Domain.contains_of_mem_powers fits)]
    simp only [positive, fits]
  · have least := domain.minValue_nonpos
    rw [double_value_top (Domain.double_eq_top flag fits)]
    simp only [fits, iff_false]
    omega

/-! ## Single bits -/

/-- A word that is not negative stands for its pattern. -/
theorem value_of_nonneg {word : Word domain} (nonneg : 0 ≤ word.value) :
    word.value = word.pattern.toNat := by
  unfold value at *
  split
  · next signed =>
    rw [if_pos signed] at nonneg
    apply BitVec.toInt_eq_toNat_of_msb
    rw [BitVec.msb_eq_toInt]
    simpa using nonneg
  · rfl

/-- The test for at most one bit holds of zero and of the powers of two. -/
theorem hasAtMostOneBit_iff {word : Word domain} :
    word.hasAtMostOneBit = true ↔
      word.pattern.toNat = 0 ∨ ∃ index, word.pattern.toNat = 2 ^ index := by
  have one : 1 % 2 ^ domain.bits = 1 :=
    Nat.mod_eq_of_lt (Nat.one_lt_two_pow domain.bits_pos.ne')
  unfold hasAtMostOneBit
  rw [beq_iff_eq, ← BitVec.toNat_inj]
  by_cases empty : word.pattern.toNat = 0
  · simp [empty]
  · -- Only zero borrows, so the predecessor of any other pattern is that of its number.
    have less : (word.pattern - BitVec.ofNat domain.bits 1).toNat = word.pattern.toNat - 1 := by
      rw [BitVec.toNat_sub_of_le]
      · simp [one]
      · rw [BitVec.le_def]
        simp only [BitVec.toNat_ofNat, one]
        omega
    rw [BitVec.toNat_and, less]
    simp only [BitVec.toNat_ofNat, Nat.zero_mod, empty, false_or]
    exact Nat.and_sub_one_eq_zero_iff_isPowerOfTwo empty

/-- A word is a flag if its value is one of the powers. -/
theorem isFlag_iff {word : Word domain} :
    word.isFlag = true ↔ word.value ∈ domain.powers := by
  simp only [isFlag, isNonNegative, Bool.and_eq_true, decide_eq_true_eq, bne_iff_ne,
    hasAtMostOneBit_iff, Domain.mem_powers]
  constructor
  · rintro ⟨⟨nonneg, bits⟩, nonzero⟩
    have pattern := value_of_nonneg nonneg
    rcases bits with empty | ⟨index, power⟩
    · refine absurd (value_injective ?_) nonzero
      rw [pattern, empty, value_zero, Nat.cast_zero]
    · have isPower : word.value = 2 ^ index := by
        rw [pattern, power]
        push_cast
        rfl
      have inside := word.contains_value
      rw [isPower, Domain.contains_two_pow] at inside
      exact ⟨index, inside, isPower⟩
  · rintro ⟨index, _, isPower⟩
    have positive : 0 < word.value := by
      rw [isPower]
      positivity
    have pattern := value_of_nonneg positive.le
    rw [isPower] at pattern
    refine ⟨⟨positive.le, Or.inr ⟨index, by exact_mod_cast pattern.symm⟩⟩, ?_⟩
    rintro rfl
    simp at positive

/-- A climb that starts at a flag runs through the flags above it and stops at
the sign bit or past the top. -/
theorem climb_value (steps index : Nat) (word : Word domain) (power : word.value = 2 ^ index)
    (inside : index < domain.slots) (enough : domain.slots ≤ index + steps) :
    (climb steps word).map value =
      (List.range' index (domain.slots - index)).map fun index => (2 : Int) ^ index := by
  induction steps generalizing index word with
  | zero => omega
  | succ steps inductionHypothesis =>
    have positive : word.isPositive = true := by
      simp [isPositive, power]
    have doubled : 2 * word.value = 2 ^ (index + 1) := by
      rw [power, pow_succ']
    obtain ⟨rest, restEq⟩ : ∃ rest, domain.slots - index = rest + 1 :=
      ⟨domain.slots - index - 1, by omega⟩
    rw [climb, if_pos positive, List.map_cons, power, restEq, List.range'_succ, List.map_cons]
    congr 1
    have continues : word.double.isPositive = true ↔ index + 1 < domain.slots := by
      rw [double_isPositive_iff (power ▸ Domain.two_pow_mem_powers.mpr inside), doubled,
        Domain.two_pow_mem_powers]
    by_cases last : index + 1 = domain.slots
    · have stop : ¬ word.double.isPositive = true := by
        rw [continues]
        omega
      have empty : rest = 0 := by omega
      cases steps <;> simp [climb, stop, empty]
    · have next : word.double.value = 2 ^ (index + 1) := by
        rw [double_value, doubled]
        rw [doubled, Domain.contains_two_pow]
        omega
      rw [inductionHypothesis (index + 1) word.double next (by omega) (by omega)]
      congr 2
      omega

/-- Every climb from 1 with a step for each flag runs through all of them. -/
theorem climb_one_value {steps : Nat} (enough : domain.slots ≤ steps) :
    (climb steps (one domain)).map value = domain.powers := by
  have start : (one domain).value = 2 ^ 0 := value_one domain
  rw [climb_value steps 0 (one domain) start domain.slots_pos (by omega), Domain.powers,
    List.range_eq_range', Nat.sub_zero]

/-- The words tried as flags are the powers of two of the domain, in order. -/
theorem flags_value (domain : Domain) : (flags domain).map value = domain.powers :=
  climb_one_value domain.slots_le_bits

/-- The climb from 1 ends by itself: every bound that leaves a step for each flag
gives the same list. So the bound in `flags` hides nothing of the loop. -/
theorem climb_eq_flags {steps : Nat} (enough : domain.slots ≤ steps) :
    climb steps (one domain) = flags domain := by
  apply List.map_injective_iff.mpr value_injective
  rw [climb_one_value enough, flags_value]

/-! ## The greatest word -/

/-- Only the empty list has no greatest word. -/
theorem highest?_eq_none_iff {words : List (Word domain)} :
    highest? words = none ↔ words = [] := by
  cases words with
  | nil => simp [highest?]
  | cons word rest =>
    simp only [highest?, reduceCtorEq, iff_false]
    split
    · simp
    · split <;> simp

private theorem highest?_greatest {words : List (Word domain)} {best : Word domain}
    (found : highest? words = some best) :
    best ∈ words ∧ ∀ word ∈ words, word.value ≤ best.value := by
  induction words generalizing best with
  | nil => cases found
  | cons word rest inductionHypothesis =>
    rw [highest?] at found
    split at found
    · next alone =>
      cases found
      rw [highest?_eq_none_iff.mp alone]
      simp
    · next other isOther =>
      obtain ⟨otherMem, otherGreatest⟩ := inductionHypothesis isOther
      simp only [List.mem_cons, forall_eq_or_imp]
      split at found
      · next below =>
        cases found
        exact ⟨Or.inl rfl, le_refl _, fun candidate inRest =>
          (otherGreatest candidate inRest).trans below⟩
      · next above =>
        cases found
        exact ⟨Or.inr otherMem, (not_le.mp above).le, otherGreatest⟩

/-- The word found is the one of the list with the greatest value; words with
equal values are equal. -/
theorem highest?_eq_some_iff {words : List (Word domain)} {best : Word domain} :
    highest? words = some best ↔ best ∈ words ∧ ∀ word ∈ words, word.value ≤ best.value := by
  constructor
  · exact highest?_greatest
  · rintro ⟨bestMem, greatest⟩
    cases found : highest? words with
    | none =>
      rw [highest?_eq_none_iff.mp found] at bestMem
      cases bestMem
    | some other =>
      obtain ⟨otherMem, otherGreatest⟩ := highest?_greatest found
      have equal := le_antisymm (greatest other otherMem) (otherGreatest best bestMem)
      rw [value_injective equal]

end Word

end FlagEnum
