import FlagEnum.Proofs.Literal
import FlagEnum.Proofs.Word

/-!
# Texts of flags, read back

The writers of numbers and the reader of literals are tied together by the
number that a text of digits denotes: `magnitude` of what is written is the
number again, and zeros in front change nothing. Hexadecimal texts are written
in upper case and read in lower case; both have one digit for each place.
Decimal texts have a sign, and the range of what is read is not that of what is
written: it lacks the least integer.
-/

namespace FlagEnum

/-- Text without blanks is not trimmed. -/
theorem Text.trims_of_no_blank {text : List Char}
    (bare : ∀ character ∈ text, isBlank character = false) : Trims text text := by
  refine ⟨[], [], by simp, by simp, ?_, ?_⟩
  · exact fun character first => bare character (List.mem_of_head? first)
  · exact fun character last => bare character (List.mem_of_getLast? last)

namespace Literal

variable {base number : Nat} {character : Char} {digits : List Char}

/-! ## Written digits -/

private theorem alphabet_getElem? {digit : Nat} (small : digit < 16) :
    alphabet[digit]? = some (Nat.digitChar digit) := by
  interval_cases digit <;> rfl

private theorem idxOf_digitChar {digit : Nat} (small : digit < 16) :
    alphabet.idxOf (Nat.digitChar digit) = digit := by
  interval_cases digit <;> rfl

private theorem digitChar_mem_digitsOf {digit : Nat} (small : base ≤ 16) (inside : digit < base) :
    Nat.digitChar digit ∈ digitsOf base := by
  refine List.mem_iff_getElem?.mpr ⟨digit, ?_⟩
  rw [digitsOf, List.getElem?_take_of_lt inside, alphabet_getElem? (by omega)]

/-- A number is written with digits of its base. -/
theorem mem_digitsOf_of_mem_toDigits (large : 1 < base) (small : base ≤ 16)
    (written : character ∈ Nat.toDigits base number) : character ∈ digitsOf base := by
  induction number using Nat.strongRecOn with
  | ind number inductionHypothesis =>
    rw [Nat.toDigits_eq_if large] at written
    split at written
    · next single =>
      rw [List.mem_singleton.mp written]
      exact digitChar_mem_digitsOf small single
    · next more =>
      rcases List.mem_append.mp written with front | last
      · exact inductionHypothesis _ (Nat.div_lt_self (by omega) large) front
      · rw [List.mem_singleton.mp last]
        exact digitChar_mem_digitsOf small (Nat.mod_lt _ (by omega))

/-- What is written denotes the number. -/
theorem magnitude_toDigits (large : 1 < base) (small : base ≤ 16) (number : Nat) :
    magnitude base (Nat.toDigits base number) = number := by
  induction number using Nat.strongRecOn with
  | ind number inductionHypothesis =>
    rw [Nat.toDigits_eq_if large]
    split
    · next single =>
      rw [← List.nil_append [_], magnitude_concat, magnitude_nil, idxOf_digitChar (by omega),
        Nat.zero_mul, Nat.zero_add]
    · next more =>
      have last : number % base < base := Nat.mod_lt _ (by omega)
      rw [magnitude_concat, inductionHypothesis _ (Nat.div_lt_self (by omega) large),
        idxOf_digitChar (by omega), Nat.div_add_mod']

/-- Leading zeros do not count. -/
theorem magnitude_zeros (base count : Nat) (digits : List Char) :
    magnitude base (List.replicate count '0' ++ digits) = magnitude base digits := by
  have zero : alphabet.idxOf '0' = 0 := rfl
  rw [magnitude, List.reverse_append, List.reverse_replicate, List.map_append,
    List.map_replicate, zero, Nat.ofDigits_append_replicate_zero, magnitude]

/-- Filled up to a width that is not zero, a number takes its significant digits
or that width, whichever is more. -/
theorem max_length_toDigits (large : 1 < base) {width : Nat} (positive : 0 < width)
    (number : Nat) :
    max width (Nat.toDigits base number).length = max width (Nat.digits base number).length := by
  refine eq_of_forall_ge_iff fun bound => ?_
  simp only [max_le_iff]
  refine and_congr_right fun wide => ?_
  rw [Nat.length_toDigits_le_iff large (by omega), Nat.digits_length_le_iff large]

/-! ## Digits as characters -/

/-- The hexadecimal digits in upper case, in the order of their numbers. -/
def upperAlphabet : List Char :=
  ['0', '1', '2', '3', '4', '5', '6', '7', '8', '9', 'A', 'B', 'C', 'D', 'E', 'F']

private theorem isBlank_of_digit (digit : character ∈ alphabet ++ upperAlphabet) :
    Text.isBlank character = false := by
  have all : (alphabet ++ upperAlphabet).all (fun digit => !Text.isBlank digit) = true := by decide
  simpa using List.all_eq_true.mp all character digit

private theorem filter_separators (hexadecimal : ∀ character ∈ digits, character ∈ alphabet) :
    digits.filter (· != '_') = digits := by
  have noSeparator : '_' ∉ alphabet := by decide
  refine List.filter_eq_self.mpr ?_
  intro character digit
  simp only [bne_iff_ne]
  rintro rfl
  exact noSeparator (hexadecimal _ digit)

/-! ## Decimal literals -/

private theorem mem_digitsOf_of_mem_decimalDigits (written : character ∈ decimalDigits number) :
    character ∈ digitsOf 10 :=
  mem_digitsOf_of_mem_toDigits (by omega) (by omega) written

private theorem toLower_of_mem_alphabet (digit : character ∈ alphabet) :
    character.toLower = character := by
  have all : alphabet.all (fun digit => digit.toLower == digit) = true := by decide
  simpa using List.all_eq_true.mp all character digit

private theorem takesSign_digits (hexadecimal : ∀ character ∈ digits, character ∈ alphabet) :
    TakesSign digits false digits := by
  have noSign : '-' ∉ alphabet ∧ '+' ∉ alphabet := by decide
  refine .absent ?_ ?_
  · exact fun minus => noSign.1 (hexadecimal _ (List.mem_of_head? minus))
  · exact fun plus => noSign.2 (hexadecimal _ (List.mem_of_head? plus))

/-- No base mark is a decimal digit. -/
theorem takesBase_digits (decimal : ∀ character ∈ digits, character ∈ digitsOf 10) :
    TakesBase digits 10 digits := by
  have noMark : ['x', 'b', 'o'].all (fun mark => mark ∉ digitsOf 10) = true := by decide
  refine .decimal ?_
  intro mark isMark marked
  have noDigit : mark ∉ digitsOf 10 := by
    simpa using List.all_eq_true.mp noMark mark isMark
  exact noDigit (decimal mark (marked.subset (by simp)))

/-- Decimal digits, with or without a minus in front, are taken apart as they
are written. -/
theorem describes_decimal (negative : Bool)
    (decimal : ∀ character ∈ digits, character ∈ digitsOf 10) :
    Parts.Describes ⟨negative, 10, digits⟩ (if negative then '-' :: digits else digits) := by
  have hexadecimal : ∀ character ∈ digits, character ∈ alphabet :=
    fun character digit => List.mem_of_mem_take (decimal character digit)
  have noBlank : ∀ character ∈ digits, Text.isBlank character = false :=
    fun character digit => isBlank_of_digit (List.mem_append_left _ (hexadecimal character digit))
  have lower : digits.map Char.toLower = digits := by
    refine (List.map_congr_left ?_).trans (List.map_id digits)
    exact fun character digit => toLower_of_mem_alphabet (hexadecimal character digit)
  have base : TakesBase (digits.map Char.toLower) 10 digits := by
    rw [lower]
    exact takesBase_digits decimal
  cases negative with
  | true =>
    refine ⟨_, digits, digits, Text.trims_of_no_blank ?_, .minus digits, base,
      (filter_separators hexadecimal).symm⟩
    exact List.forall_mem_cons.mpr ⟨by decide, noBlank⟩
  | false =>
    exact ⟨_, digits, digits, Text.trims_of_no_blank noBlank, takesSign_digits hexadecimal, base,
      (filter_separators hexadecimal).symm⟩

/-! ## Hexadecimal literals -/

/-- The capital of a digit is a capital digit. -/
theorem toUpper_mem_upperAlphabet (digit : character ∈ alphabet) :
    character.toUpper ∈ upperAlphabet := by
  have upper : upperAlphabet = alphabet.map Char.toUpper := by decide
  rw [upper]
  exact List.mem_map_of_mem digit

private theorem toLower_toUpper (digit : character ∈ alphabet) :
    character.toUpper.toLower = character := by
  have all : alphabet.all (fun digit => digit.toUpper.toLower == digit) = true := by decide
  simpa using List.all_eq_true.mp all character digit

/-- Digits come back from their capitals. -/
theorem map_toLower_map_toUpper (hexadecimal : ∀ character ∈ digits, character ∈ alphabet) :
    (digits.map Char.toUpper).map Char.toLower = digits := by
  rw [List.map_map]
  refine (List.map_congr_left ?_).trans (List.map_id digits)
  intro character digit
  exact toLower_toUpper (hexadecimal character digit)

/-- Digits in upper case behind the mark are taken apart as they were in lower
case. -/
theorem describes_hexadecimal (hexadecimal : ∀ character ∈ digits, character ∈ alphabet) :
    Parts.Describes ⟨false, 16, digits⟩ ('0' :: 'x' :: digits.map Char.toUpper) := by
  have bare : ∀ character ∈ '0' :: 'x' :: digits.map Char.toUpper,
      Text.isBlank character = false := by
    simp only [List.forall_mem_cons, List.forall_mem_map]
    refine ⟨by decide, by decide, ?_⟩
    intro character digit
    exact isBlank_of_digit
      (List.mem_append_right _ (toUpper_mem_upperAlphabet (hexadecimal character digit)))
  refine ⟨_, _, digits, Text.trims_of_no_blank bare, .absent (by simp) (by simp), ?_, ?_⟩
  · rw [List.map_cons, List.map_cons, map_toLower_map_toUpper hexadecimal]
    exact .hexadecimal digits
  · exact (filter_separators hexadecimal).symm

/-- Hexadecimal capitals are read as the number that they write. -/
theorem ofString_hexadecimal (nonempty : digits ≠ [])
    (hexadecimal : ∀ character ∈ digits, character ∈ alphabet)
    (inRange : magnitude 16 digits < 2 ^ 127) :
    ofString (String.ofList ('0' :: 'x' :: digits.map Char.toUpper)) =
      .ok (magnitude 16 digits) := by
  have described : Parts.Describes ⟨false, 16, digits⟩
      (String.ofList ('0' :: 'x' :: digits.map Char.toUpper)).toList := by
    rw [String.toList_ofList]
    exact describes_hexadecimal hexadecimal
  exact (ofString_eq_ok_iff described).mpr ⟨nonempty, hexadecimal, inRange, rfl⟩

end Literal

namespace Flag

open Literal

/-! ## Values in decimal -/

/-- The decimal text of a flag is a literal of its value. -/
theorem toDecimal_describes (flag : Flag) :
    Parts.Describes ⟨decide (flag.value < 0), 10, decimalDigits flag.value.natAbs⟩
      flag.toDecimal.toList := by
  have described := @describes_decimal (decimalDigits flag.value.natAbs) (decide (flag.value < 0))
    fun _ => mem_digitsOf_of_mem_decimalDigits
  simp only [decide_eq_true_eq] at described
  rwa [toDecimal, String.toList_ofList, decimal]

/-- The value in decimal is read back unless its size needs more than 127 bits,
whatever its sign. -/
theorem ofString_toDecimal (flag : Flag) :
    ofString flag.toDecimal =
      if flag.value.natAbs < 2 ^ 127 then .ok flag.value else .error .tooLarge := by
  have size : magnitude 10 (decimalDigits flag.value.natAbs) = flag.value.natAbs :=
    magnitude_toDigits (by omega) (by omega) _
  have signed : Parts.signed ⟨decide (flag.value < 0), 10, decimalDigits flag.value.natAbs⟩
      flag.value.natAbs = flag.value := by
    simp only [Parts.signed, decide_eq_true_eq]
    split <;> omega
  rw [ofString_of_digits flag.toDecimal_describes Nat.toDigits_ne_nil
    fun _ => mem_digitsOf_of_mem_decimalDigits]
  simp only [size, signed]

/-- Over all integers of 128 bits, the value in decimal is read back as itself,
with one exception: the least integer is in range, but its size is not, and the
size is read before the sign is applied. -/
theorem toDecimal_readable_iff {flag : Flag} (above : minInteger ≤ flag.value)
    (below : flag.value ≤ maxInteger) :
    (answer flag.toDecimal = .ok flag.value ↔ flag.value ≠ minInteger) ∧
    (flag.value = minInteger →
      answer flag.toDecimal = .error ("invalid integer literal " ++ flag.toDecimal ++
        ": number too large to fit in target type")) := by
  have least : minInteger = -2 ^ 127 := rfl
  have greatest : maxInteger = 2 ^ 127 - 1 := rfl
  have size : flag.value.natAbs < 2 ^ 127 ↔ flag.value ≠ minInteger := by
    rw [least] at above ⊢
    rw [greatest] at below
    omega
  have read := flag.ofString_toDecimal
  constructor
  · rw [answer_eq_ok_iff, read, ← size]
    split
    · next inRange => simp only [inRange]
    · next outOfRange => simp only [outOfRange, reduceCtorEq]
  · intro isLeast
    rw [if_neg (by rw [size]; exact not_not.mpr isLeast)] at read
    exact answer_eq_message_iff.mpr read

/-- Both ends of the symmetric part of the range are read back. -/
theorem toDecimal_readable_iff_ends :
    let greatest : Flag := ⟨.ulong, maxInteger⟩
    let second : Flag := ⟨.ulong, minInteger + 1⟩
    answer greatest.toDecimal = .ok maxInteger ∧ answer second.toDecimal = .ok (minInteger + 1) := by
  intro greatest second
  have readsGreatest := @toDecimal_readable_iff greatest (by decide) (by decide)
  have readsSecond := @toDecimal_readable_iff second (by decide) (by decide)
  exact ⟨readsGreatest.1.mpr (by decide), readsSecond.1.mpr (by decide)⟩

/-- The least integer is written with its sign, and that text is refused. -/
theorem toDecimal_least_refused :
    let least : Flag := ⟨.int, minInteger⟩
    least.toDecimal = "-170141183460469231731687303715884105728" ∧
      ofString least.toDecimal = .error .tooLarge := by
  decide

/-! ## Values in hexadecimal -/

/-- The hexadecimal digits of a flag in lower case, filled with zeros up to the
width of its domain. -/
def paddedDigits (flag : Flag) : List Char :=
  List.leftpad (flag.domain.bits / 4) '0' (Nat.toDigits 16 (flag.value % 2 ^ 128).toNat)

variable {flag : Flag}

/-- The hexadecimal text of a flag is its padded digits in capitals, with the
mark. -/
theorem toHex_eq (flag : Flag) :
    flag.toHex = String.ofList ('0' :: 'x' :: flag.paddedDigits.map Char.toUpper) := by
  have size : ((1 <<< 128 : Nat) : Int) = 2 ^ 128 := rfl
  rw [toHex, hexDigits, paddedDigits, List.leftpad, List.leftpad, List.map_append,
    List.map_replicate, List.length_map, size]
  rfl

private theorem paddedDigits_ne_nil (flag : Flag) : flag.paddedDigits ≠ [] :=
  List.append_ne_nil_of_right_ne_nil _ Nat.toDigits_ne_nil

/-- Padded digits are hexadecimal digits. -/
theorem mem_paddedDigits {character : Char} (written : character ∈ flag.paddedDigits) :
    character ∈ alphabet := by
  rcases List.mem_append.mp written with filled | digit
  · rw [List.eq_of_mem_replicate filled]
    decide
  · exact mem_digitsOf_of_mem_toDigits (by omega) (by omega) digit

/-- The padded digits write the value, or its pattern of 128 bits if it is
negative. -/
theorem magnitude_paddedDigits (flag : Flag) :
    magnitude 16 flag.paddedDigits = (flag.value % 2 ^ 128).toNat := by
  rw [paddedDigits, List.leftpad, magnitude_zeros, magnitude_toDigits (by omega) (by omega)]

/-- The digits are padded to the width of the domain and are no fewer than needed.
-/
theorem length_paddedDigits (flag : Flag) :
    flag.paddedDigits.length =
      max (flag.domain.bits / 4) (Nat.digits 16 (flag.value % 2 ^ 128).toNat).length := by
  have positive : 0 < flag.domain.bits / 4 := by
    cases flag.domain <;> decide
  rw [paddedDigits, List.length_leftpad, max_length_toDigits (by omega) positive]

/-- A value that is not negative is its own 128-bit pattern. -/
theorem pattern_of_nonneg {value : Int} (nonneg : 0 ≤ value) (bounded : value < 2 ^ 127) :
    (value % 2 ^ 128).toNat = value.toNat := by
  rw [Int.emod_eq_of_lt nonneg (by omega)]

/-- A value of the domain has no more significant digits than its width. -/
theorem length_digits_le {domain : Domain} {value : Int} (inside : domain.contains value = true) :
    (Nat.digits 16 value.toNat).length ≤ domain.bits / 4 := by
  have width : (16 : Int) ^ (domain.bits / 4) = 2 ^ domain.bits := by
    cases domain <;> rfl
  have bounded := (Domain.contains_iff.mp inside).2
  have fits := pow_le_pow_right₀ (one_le_two : (1 : Int) ≤ 2) domain.slots_le_bits
  have positive : (0 : Int) < 2 ^ domain.bits := by positivity
  rw [Nat.digits_length_le_iff (by omega), Int.toNat_lt_of_ne_zero (by positivity)]
  push_cast
  omega

/-! ## Shift expressions -/

/-- The bit of a power of two is its exponent. -/
theorem bitIndex?_two_pow (domain : Domain) {exponent : Nat} (small : exponent < 128) :
    bitIndex? ⟨domain, 2 ^ exponent⟩ = some exponent := by
  have size : ((2 : Int) ^ exponent).natAbs = 2 ^ exponent := by
    rw [Int.natAbs_pow]
    rfl
  refine List.find?_range_eq_some.mpr ⟨?_, List.mem_range.mpr small, ?_⟩
  · simp only [size, Nat.testBit_two_pow, decide_true]
  · intro lower below
    simp only [size, Nat.testBit_two_pow, Bool.not_eq_true', decide_eq_false_iff_not]
    omega

private theorem toShift_of_bitIndex? {index : Nat} (found : flag.bitIndex? = some index) :
    flag.toShift = "1 << " ++ String.ofList (decimalDigits index) := by
  rw [toShift, found]

/-- The hexadecimal literal of a flag that is not negative reads back as its
value. Behind the mark it has the digits of the domain's width, or more where
the value needs them, which no value of the domain does. A power of two is shown
as 1 shifted by its exponent. -/
theorem toHex_exact (domain : Domain) {value : Int} (nonneg : 0 ≤ value)
    (bounded : value < 2 ^ 127) :
    let flag : Flag := ⟨domain, value⟩
    ofString flag.toHex = .ok value ∧
    (∃ digits : List Char, flag.toHex = String.ofList ('0' :: 'x' :: digits) ∧
      (∀ character ∈ digits, character ∈ upperAlphabet) ∧
      digits.length = max (domain.bits / 4) (Nat.digits 16 value.toNat).length ∧
      (domain.contains value = true → digits.length = domain.bits / 4)) ∧
    ∀ exponent : Nat, value = 2 ^ exponent →
      flag.toShift = "1 << " ++ String.ofList (decimalDigits exponent) ∧
        flag.bitIndex? = some exponent := by
  intro flag
  have pattern : (flag.value % 2 ^ 128).toNat = value.toNat := pattern_of_nonneg nonneg bounded
  have magnitude := flag.magnitude_paddedDigits
  have length := flag.length_paddedDigits
  rw [pattern] at magnitude length
  refine ⟨?_, ⟨_, flag.toHex_eq, ?_, ?_, ?_⟩, ?_⟩
  · rw [toHex_eq, ofString_hexadecimal flag.paddedDigits_ne_nil (fun _ => mem_paddedDigits)
      (by omega), magnitude, Int.toNat_of_nonneg nonneg]
  · rw [List.forall_mem_map]
    exact fun character written => toUpper_mem_upperAlphabet (mem_paddedDigits written)
  · rw [List.length_map, length]
  · intro inside
    rw [List.length_map, length, max_eq_left (length_digits_le inside)]
  · rintro exponent rfl
    have small : exponent < 127 := (pow_lt_pow_iff_right₀ (by norm_num)).mp bounded
    have found := @bitIndex?_two_pow domain exponent (by omega)
    exact ⟨toShift_of_bitIndex? found, found⟩

/-- The highest power of two in range needs eight times the digits of its domain
and keeps them all. -/
theorem toHex_exact_wide :
    let flag : Flag := ⟨.short, 2 ^ 126⟩
    0 ≤ flag.value ∧ flag.value < 2 ^ 127 ∧
      flag.toHex = "0x40000000000000000000000000000000" ∧ ofString flag.toHex = .ok (2 ^ 126) ∧
      flag.toShift = "1 << 126" ∧ flag.bitIndex? = some 126 := by
  intro flag
  have nonneg : 0 ≤ flag.value := by decide
  have bounded : flag.value < 2 ^ 127 := by decide
  obtain ⟨readsBack, _, shifted⟩ := toHex_exact .short nonneg bounded
  obtain ⟨shift, index⟩ := shifted 126 rfl
  exact ⟨nonneg, bounded, by decide, readsBack, shift, index⟩

end Flag

end FlagEnum
