import FlagEnum.Flag

/-!
# Binary floating-point numbers

Non-negative numbers of 53 significant bits, the arithmetic that rounds to
them, and the shortest decimal text that identifies one. Everything is exact
arithmetic on natural numbers, so each result can be computed in a proof.
-/

namespace FlagEnum

/-- The number `significand * 2 ^ exponent`. Results of the operations below
have a significand below `2 ^ 53` and an exponent from -1074 to 971. -/
structure Binary64 where
  significand : Nat
  exponent : Int
deriving DecidableEq, Repr

namespace Binary64

/-- The number as a fraction of natural numbers. -/
def ratio (number : Binary64) : Nat × Nat :=
  if 0 ≤ number.exponent then (number.significand <<< number.exponent.toNat, 1)
  else (number.significand, 1 <<< (-number.exponent).toNat)

/-- A quotient rounded to the nearest natural number, a half to the even one. -/
def roundQuotient (numerator denominator : Nat) : Nat :=
  let quotient := numerator / denominator
  let remainder := numerator % denominator
  if 2 * remainder < denominator then quotient
  else if denominator < 2 * remainder then quotient + 1
  else if quotient % 2 = 0 then quotient else quotient + 1

/-- A fraction divided by a power of two. -/
def scaleDown (numerator denominator : Nat) (exponent : Int) : Nat × Nat :=
  if 0 ≤ exponent then (numerator, denominator <<< exponent.toNat)
  else (numerator <<< (-exponent).toNat, denominator)

/-- The number nearest to a fraction, or `none` above the greatest number. -/
def ofRatio? (numerator denominator : Nat) : Option Binary64 :=
  if numerator = 0 then some ⟨0, -1074⟩
  else
    let guess : Int := (numerator.log2 : Int) - (denominator.log2 : Int) - 52
    let (top, bottom) := scaleDown numerator denominator guess
    let exponent := max (-1074) (if top / bottom < 1 <<< 52 then guess - 1 else guess)
    let (top, bottom) := scaleDown numerator denominator exponent
    let rounded := roundQuotient top bottom
    let result : Binary64 :=
      if rounded = 1 <<< 53 then ⟨1 <<< 52, exponent + 1⟩ else ⟨rounded, exponent⟩
    if 971 < result.exponent then none else some result

/-- The product of two numbers, rounded. -/
def mul? (left right : Binary64) : Option Binary64 :=
  let (leftTop, leftBottom) := left.ratio
  let (rightTop, rightBottom) := right.ratio
  ofRatio? (leftTop * rightTop) (leftBottom * rightBottom)

/-- The quotient of two numbers, rounded. -/
def div? (left right : Binary64) : Option Binary64 :=
  let (leftTop, leftBottom) := left.ratio
  let (rightTop, rightBottom) := right.ratio
  ofRatio? (leftTop * rightBottom) (leftBottom * rightTop)

/-- The number nearest to a power of ten. -/
def powerOfTen? (exponent : Nat) : Option Binary64 :=
  ofRatio? (Nat.pow 10 exponent) 1

/-- Divides by the power of ten `shift`, in steps of at most 308 digits. A
significand of 64 bits is zero after two full steps, so three are enough. -/
def shrink : (steps : Nat) → Binary64 → (shift : Nat) → Option Binary64
  | 0, number, _ => some number
  | steps + 1, number, shift =>
    if shift ≤ 308 then do number.div? (← powerOfTen? shift)
    else if number.significand = 0 then some number
    else do
      let smaller ← number.div? (← powerOfTen? 308)
      shrink steps smaller (shift - 308)

/-- The number that stands for `digits * 10 ^ exponent`: the digits are rounded
first and then scaled by one power of ten, which is rounded too. `none` is
above the greatest number. -/
def ofDecimal? (digits : Nat) (exponent : Int) : Option Binary64 := do
  let number ← ofRatio? digits 1
  if exponent < 0 then shrink 3 number exponent.natAbs
  else if exponent ≤ 308 then number.mul? (← powerOfTen? exponent.toNat)
  else if digits = 0 then some number
  else none

/-! ## Shortest text -/

/-- A decimal number `digits * 10 ^ exponent`. -/
structure Decimal where
  digits : Nat
  exponent : Int
deriving DecidableEq, Repr

/-- A decimal number as a fraction of natural numbers. -/
def Decimal.ratio (decimal : Decimal) : Nat × Nat :=
  if 0 ≤ decimal.exponent then (decimal.digits * Nat.pow 10 decimal.exponent.toNat, 1)
  else (decimal.digits, Nat.pow 10 (-decimal.exponent).toNat)

/-- Whether a decimal number lies among those that round to `number`. The ends
belong to them when the significand is even; below a power of two the lower end
is only half as far. -/
def identifies (number : Binary64) (decimal : Decimal) : Bool :=
  let quarter : Binary64 := ⟨1, number.exponent - 2⟩
  let (unitTop, unitBottom) := quarter.ratio
  let (top, bottom) := decimal.ratio
  let below := if number.significand = 1 <<< 52 && -1074 < number.exponent then 1 else 2
  let low := (4 * number.significand - below) * unitTop * bottom
  let high := (4 * number.significand + 2) * unitTop * bottom
  let middle := top * unitBottom
  if number.significand % 2 = 0 then low ≤ middle && middle ≤ high
  else low < middle && middle < high

/-- The exponent of ten of the first digit of a positive fraction. -/
def leadingExponent (numerator denominator : Nat) : Int :=
  if denominator ≤ numerator then
    ((decimalDigits (numerator / denominator)).length : Int) - 1
  else
    -((decimalDigits ((denominator - 1) / numerator)).length : Int)

/-- The decimal numbers of `count` digits on both sides of a fraction, the
nearer one first and the even one first where both are as near. -/
def neighbours (numerator denominator : Nat) (count : Nat) : List Decimal :=
  let exponent := leadingExponent numerator denominator - (count : Int) + 1
  let (top, bottom) :=
    if 0 ≤ exponent then (numerator, denominator * Nat.pow 10 exponent.toNat)
    else (numerator * Nat.pow 10 (-exponent).toNat, denominator)
  let lower := top / bottom
  let upper := lower + 1
  if roundQuotient top bottom = lower then [⟨lower, exponent⟩, ⟨upper, exponent⟩]
  else [⟨upper, exponent⟩, ⟨lower, exponent⟩]

/-- The decimal number of fewest digits that identifies a positive number, and
the nearest one of those. Seventeen digits always identify it. -/
def shortest (number : Binary64) : Decimal :=
  let (top, bottom) := number.ratio
  let candidates := (List.range 17).flatMap fun index => neighbours top bottom (index + 1)
  (candidates.find? number.identifies).getD ⟨0, 0⟩

/-- A decimal number without zeros at the end of its digits. -/
def Decimal.trimmed (decimal : Decimal) : Decimal :=
  let zeros := ((decimalDigits decimal.digits).reverse.takeWhile (· == '0')).length
  ⟨decimal.digits / Nat.pow 10 zeros, decimal.exponent + zeros⟩

/-- Lays out a positive decimal number: positional where the first digit is at
most fifteen places before the point or five after it, and with an exponent
elsewhere. Positional text always has a point. -/
def Decimal.layout (decimal : Decimal) : List Char :=
  let digits := decimalDigits decimal.digits
  let count : Int := digits.length
  let point := count + decimal.exponent
  if 0 ≤ decimal.exponent && point ≤ 16 then
    digits ++ List.replicate decimal.exponent.toNat '0' ++ ['.', '0']
  else if 0 < point && point ≤ 16 then
    digits.take point.toNat ++ '.' :: digits.drop point.toNat
  else if -5 < point && point ≤ 0 then
    '0' :: '.' :: List.replicate (-point).toNat '0' ++ digits
  else
    let exponent := point - 1
    let mark := if exponent < 0 then ['e', '-'] else ['e', '+']
    let tail := mark ++ decimalDigits exponent.natAbs
    match digits with
    | first :: second :: rest => first :: '.' :: second :: rest ++ tail
    | short => short ++ tail

/-- The shortest text that identifies a number. -/
def toText (number : Binary64) : List Char :=
  if number.significand = 0 then ['0', '.', '0'] else number.shortest.trimmed.layout

end Binary64

end FlagEnum
