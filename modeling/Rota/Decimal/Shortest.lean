import Rota.Decimal.Binary64

/-!
The text of a double: the fewest decimal digits that read back to it, and of those the
nearest to it, laid out positionally for exponents from -5 to 15.
-/

namespace Rota.Decimal

structure Scaled where
  digits : Nat
  power : Int
deriving DecidableEq, Repr

namespace Binary64

/-- Compares `digits * 10^power` with `count * 2^exponent`. -/
def compareScaled (decimal : Scaled) (count : Nat) (exponent : Int) : Ordering :=
  compare (decimal.digits * tenTo decimal.power.toNat * twoTo (-exponent).toNat)
    (count * twoTo exponent.toNat * tenTo (-decimal.power).toNat)

/-- Whether a decimal lies among the reals that round to a magnitude. The interval ends halfway
to each neighbour, and contains its ends exactly when the significand is even. -/
def readsBack (number : Binary64) (decimal : Scaled) : Bool :=
  let atPower := number.significand == twoTo 52 && number.exponent > -1074
  let lower := if atPower then 4 * number.significand - 1 else 4 * number.significand - 2
  let upper := 4 * number.significand + 2
  let closed := number.significand % 2 == 0
  let fromLower := compareScaled decimal lower (number.exponent - 2)
  let fromUpper := compareScaled decimal upper (number.exponent - 2)
  (fromLower == .gt || (closed && fromLower == .eq)) &&
    (fromUpper == .lt || (closed && fromUpper == .eq))

/-- The decimal on a grid just below a magnitude. -/
def gridBelow (number : Binary64) (power : Int) : Scaled :=
  let (numerator, denominator) := number.ratio
  { digits := numerator * tenTo (-power).toNat / (denominator * tenTo power.toNat), power }

/-- Of a magnitude's two neighbours on a grid the nearer that reads back; of two equally near
ones the even one. -/
def onGrid (number : Binary64) (power : Int) : Option Scaled :=
  let below := number.gridBelow power
  let above := { below with digits := below.digits + 1 }
  let middle : Scaled := { digits := 2 * below.digits + 1, power }
  match number.readsBack below, number.readsBack above with
  | false, false => none
  | true, false => some below
  | false, true => some above
  | true, true =>
    match compareScaled middle number.significand (number.exponent + 1) with
    | .gt => some below
    | .lt => some above
    | .eq => some (if below.digits % 2 == 0 then below else above)

/-- The least power of ten above a magnitude, from an estimate that is at most two too small. -/
def leadingPower (number : Binary64) : Int :=
  let bits : Int := (number.significand.log2 : Int) + number.exponent
  let estimate := bits * 30103 / 100000
  let exceeds (power : Int) : Bool :=
    compareScaled { digits := 1, power } number.significand number.exponent == .gt
  if exceeds estimate then estimate
  else if exceeds (estimate + 1) then estimate + 1
  else estimate + 2

/-- The first grid with a hit, from one digit upwards; seventeen digits always suffice. -/
def shortest (number : Binary64) : Scaled :=
  let top := number.leadingPower
  let found := (List.range 17).findSome? fun (count : Nat) => number.onGrid (top - (count + 1))
  found.getD (number.gridBelow (top - 17))

end Binary64

/-- Moves the trailing zeros of the digits into the power. -/
def Scaled.stripped : Nat → Scaled → Scaled
  | 0, decimal => decimal
  | fuel + 1, decimal =>
    if decimal.digits != 0 && decimal.digits % 10 == 0 then
      Scaled.stripped fuel { digits := decimal.digits / 10, power := decimal.power + 1 }
    else decimal

/-- Digits with a point after the first `whole` of them. -/
def pointed (digits : List Char) (whole : Int) : List Char :=
  let count : Int := digits.length
  if whole ≤ 0 then ['0', '.'] ++ List.replicate (-whole).toNat '0' ++ digits
  else if whole < count then digits.take whole.toNat ++ ['.'] ++ digits.drop whole.toNat
  else digits ++ List.replicate (whole - count).toNat '0' ++ ['.', '0']

/-- Digits with a point after the first, and a signed exponent. -/
def exponential (digits : List Char) (exponent : Int) : List Char :=
  let mantissa := match digits with
    | [] => []
    | [digit] => [digit]
    | digit :: rest => digit :: '.' :: rest
  let sign := if exponent < 0 then '-' else '+'
  mantissa ++ ['e', sign] ++ Nat.toDigits 10 exponent.natAbs

/-- Writes a double, with an exponent if it is below -5 or above 15. -/
def Binary64.text (number : Binary64) : String :=
  let sign := if number.negative then ['-'] else []
  if number.isZero then String.ofList (sign ++ ['0', '.', '0'])
  else
    let decimal := number.shortest.stripped 17
    let digits := Nat.toDigits 10 decimal.digits
    let exponent := decimal.power + digits.length - 1
    let magnitude :=
      if -5 ≤ exponent && exponent ≤ 15 then pointed digits (exponent + 1)
      else exponential digits exponent
    String.ofList (sign ++ magnitude)

end Rota.Decimal
