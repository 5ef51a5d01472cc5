import Rota.Decimal.Power

/-!
Finite double-precision numbers, in exact integer arithmetic. A magnitude is a significand
below 2^53 times a power of two from 2^-1074 upwards; `nearest` rounds a quotient to it.
-/

namespace Rota.Decimal

structure Binary64 where
  negative : Bool
  significand : Nat
  exponent : Int
deriving DecidableEq, Repr

namespace Binary64

def zero : Binary64 := { negative := false, significand := 0, exponent := -1074 }

def isZero (number : Binary64) : Bool := number.significand == 0

/-- The quotient rounded to a whole number; a half goes to the even neighbour. -/
def roundedQuotient (numerator denominator : Nat) : Nat :=
  let quotient := numerator / denominator
  let rest := 2 * (numerator % denominator)
  if rest > denominator || (rest == denominator && quotient % 2 == 1) then quotient + 1
  else quotient

def scaledRatio (numerator denominator : Nat) (exponent : Int) : Nat × Nat :=
  (numerator * twoTo (-exponent).toNat, denominator * twoTo exponent.toNat)

def nearest (numerator denominator : Nat) : Option Binary64 :=
  if numerator == 0 then some zero
  else
    let guess : Int := (numerator.log2 : Int) - denominator.log2 - 53
    let (above, below) := scaledRatio numerator denominator guess
    let fitted := if above / below < twoTo 53 then guess else guess + 1
    let exponent := max fitted (-1074)
    let (scaled, divisor) := scaledRatio numerator denominator exponent
    let rounded := roundedQuotient scaled divisor
    let (significand, exponent) :=
      if rounded == twoTo 53 then (twoTo 52, exponent + 1) else (rounded, exponent)
    if exponent > 971 then none
    else some { negative := false, significand, exponent }

def ratio (number : Binary64) : Nat × Nat :=
  (number.significand * twoTo number.exponent.toNat, twoTo (-number.exponent).toNat)

def timesMagnitude (left right : Binary64) : Option Binary64 :=
  let (leftNumerator, leftDenominator) := left.ratio
  let (rightNumerator, rightDenominator) := right.ratio
  nearest (leftNumerator * rightNumerator) (leftDenominator * rightDenominator)

/-- Division by a magnitude of at least one, which cannot exceed the largest number. -/
def overMagnitude (left right : Binary64) : Binary64 :=
  let (leftNumerator, leftDenominator) := left.ratio
  let (rightNumerator, rightDenominator) := right.ratio
  (nearest (leftNumerator * rightDenominator) (leftDenominator * rightNumerator)).getD zero

/-- A power of ten below 10^309, rounded. -/
def powerOfTen (power : Nat) : Binary64 := (nearest (tenTo power) 1).getD zero

/-- Scales a magnitude by a power of ten with one rounding per factor of at most 10^308;
nothing if the result is too large. -/
def scaledByTen (number : Binary64) (power : Int) : Option Binary64 :=
  if number.isZero then some number
  else if power > 308 then none
  else if power ≥ 0 then number.timesMagnitude (powerOfTen power.toNat)
  else if power ≥ -308 then some (number.overMagnitude (powerOfTen (-power).toNat))
  else scaledByTen (number.overMagnitude (powerOfTen 308)) (power + 308)
termination_by (-power).toNat
decreasing_by omega

end Binary64

end Rota.Decimal
