/-
This file rounds fractions to binary numbers of 53 digits.
-/
namespace FeedCache.Decimal

/-- A finite magnitude is a mantissa below `2 ^ 53` times a power of two; magnitudes from
`2 ^ 1024` on are infinite. -/
inductive Magnitude where
  | finite (mantissa : Nat) (exponent : Int)
  | infinite
  deriving DecidableEq, Repr

/-- A number with a sign, or none at all. -/
inductive Number where
  | signed (negative : Bool) (magnitude : Magnitude)
  | notANumber
  deriving DecidableEq, Repr

/-- The least mantissa of 53 digits, `2 ^ 52`. -/
def leastMantissa : Nat := 0x10000000000000

/-- The least exponent of a magnitude. -/
def leastExponent : Int := -1074

/-- A fraction divided by a power of two. -/
def scaled (numerator denominator : Nat) (exponent : Int) : Nat × Nat :=
  if 0 ≤ exponent then (numerator, denominator * Nat.pow 2 exponent.toNat)
  else (numerator * Nat.pow 2 (-exponent).toNat, denominator)

/-- The exponent of the greatest power of two that a positive fraction reaches. -/
def binaryExponent (numerator denominator : Nat) : Int :=
  let estimate : Int := (numerator.log2 : Int) - denominator.log2
  let (above, below) := scaled numerator denominator estimate
  if above < below then estimate - 1 else estimate

/-- The nearest natural number; of two, the even one. -/
def roundHalfEven (numerator denominator : Nat) : Nat :=
  let quotient := numerator / denominator
  let twice := 2 * (numerator % denominator)
  if denominator < twice ∨ (denominator = twice ∧ quotient % 2 = 1) then quotient + 1 else quotient

/-- The nearest magnitude to a fraction; of two, the one with the even mantissa. -/
def nearest (numerator denominator : Nat) : Magnitude :=
  if numerator = 0 then .finite 0 leastExponent
  else
    let exponent := max (binaryExponent numerator denominator - 52) leastExponent
    let (above, below) := scaled numerator denominator exponent
    let mantissa := roundHalfEven above below
    let (mantissa, exponent) :=
      if mantissa = 2 * leastMantissa then (leastMantissa, exponent + 1) else (mantissa, exponent)
    if 971 < exponent then .infinite else .finite mantissa exponent

/-- The nearest magnitude to a natural number times a power of ten. Beyond four hundred places
from the point only zero and infinity are near. -/
def nearestDecimal (digits : Nat) (exponent : Int) : Magnitude :=
  let places : Int := (Nat.toDigits 10 digits).length + exponent
  if digits = 0 ∨ places < -400 then .finite 0 leastExponent
  else if 400 < places then .infinite
  else if 0 ≤ exponent then nearest (digits * Nat.pow 10 exponent.toNat) 1
  else nearest digits (Nat.pow 10 (-exponent).toNat)

end FeedCache.Decimal
