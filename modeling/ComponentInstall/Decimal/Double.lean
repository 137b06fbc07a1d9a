/-!
# Doubles as exact numbers

A message about a misplaced number shows the double that the number denotes. A double is kept here
as what it is, a sign, a significand and a power of two, and its arithmetic is exact arithmetic
followed by one rounding to the nearest double, a tie going to the even significand.

Infinities and not-a-numbers are no values of the type: an operation whose result would be too
large has none. Addition and comparison are not needed, so they are not here.
-/

namespace ComponentInstall.Decimal

/-- The finite double `±significand · 2 ^ exponent`. -/
structure Double where
  negative : Bool
  significand : Nat
  exponent : Int
deriving DecidableEq, Repr

namespace Double

/-- The number of binary digits that a significand may have. -/
def precision : Nat := 53

/-- The exponent of the smallest double. -/
def leastExponent : Int := -1074

/-- The exponent of the largest double. -/
def greatestExponent : Int := 971

def zero (negative : Bool) : Double := ⟨negative, 0, leastExponent⟩

def isZero (x : Double) : Bool := x.significand == 0

/-- A ratio of naturals times a power of two, as a ratio of naturals. -/
def shift (numerator denominator : Nat) (exponent : Int) : Nat × Nat :=
  (numerator * Nat.pow 2 exponent.toNat, denominator * Nat.pow 2 (-exponent).toNat)

/-- The whole number nearest to a ratio, a tie going to the even one. -/
def nearest (numerator denominator : Nat) : Nat :=
  let quotient := numerator / denominator
  let twice := 2 * (numerator % denominator)
  if twice < denominator then quotient
  else if denominator < twice then quotient + 1
  else quotient + quotient % 2

/-- The exponent that leaves a positive ratio a significand of full precision, or the least one. -/
def exponentOf (numerator denominator : Nat) : Int :=
  let estimate : Int := (numerator.log2 : Int) - denominator.log2 - (precision - 1)
  let (scaled, scale) := shift numerator denominator (-estimate)
  let exact := if scaled < scale * Nat.pow 2 (precision - 1) then estimate - 1 else estimate
  max exact leastExponent

/-- The double nearest to a ratio, unless it is too large to have one. -/
def ofRatio (negative : Bool) (numerator denominator : Nat) : Option Double :=
  if numerator = 0 then some (zero negative)
  else
    let exponent := exponentOf numerator denominator
    let (scaled, scale) := shift numerator denominator (-exponent)
    let significand := nearest scaled scale
    let (significand, exponent) :=
      if significand = Nat.pow 2 precision then (Nat.pow 2 (precision - 1), exponent + 1)
      else (significand, exponent)
    if greatestExponent < exponent then none else some ⟨negative, significand, exponent⟩

/-- The size of a double as a ratio. -/
def ratio (x : Double) : Nat × Nat := shift x.significand 1 x.exponent

/-- The product of two sizes, with the sign of the first. -/
def mul (x y : Double) : Option Double :=
  let (numerator, denominator) := x.ratio
  let (factor, divisor) := y.ratio
  ofRatio x.negative (numerator * factor) (denominator * divisor)

/-- The quotient of two sizes, with the sign of the first; none for a zero divisor. -/
def div (x y : Double) : Option Double :=
  let (numerator, denominator) := x.ratio
  let (factor, divisor) := y.ratio
  if factor = 0 then none else ofRatio x.negative (numerator * divisor) (denominator * factor)

/-- The largest power of ten that is a double. -/
def greatestTenPower : Nat := 308

/-- The double nearest to a power of ten. -/
def tenPower (power : Nat) : Option Double := ofRatio false (Nat.pow 10 power) 1

/-- Divides by the largest power of ten as often as the exponent asks for it, then once by what is
left. A quotient that has become zero stays zero, so `fuel` bounds the steps. -/
def divByTenPower : Nat → Double → Nat → Option Double
  | 0, x, _ => some (zero x.negative)
  | fuel + 1, x, power =>
    if power ≤ greatestTenPower then (tenPower power).bind x.div
    else if x.isZero then some x
    else ((tenPower greatestTenPower).bind x.div).bind fun quotient =>
      divByTenPower fuel quotient (power - greatestTenPower)

/-- The double that a decimal `±significand · 10 ^ exponent` denotes when the significand is rounded
first and then scaled by powers of ten, each step rounding once. None if it is too large. -/
def ofDecimal (negative : Bool) (significand : Nat) (exponent : Int) : Option Double :=
  (ofRatio negative significand 1).bind fun x =>
    if exponent < 0 then divByTenPower 4 x exponent.natAbs
    else if exponent.natAbs ≤ greatestTenPower then (tenPower exponent.natAbs).bind x.mul
    else if x.isZero then some x
    else none

end Double

end ComponentInstall.Decimal
