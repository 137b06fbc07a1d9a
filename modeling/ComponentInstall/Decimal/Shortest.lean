import ComponentInstall.Decimal.Double
import ComponentInstall.Text.Numeral

/-!
# The shortest text of a double

A double is written with the fewest decimal digits that read back as the same double; of several
such digit runs the one nearest to it wins, and of two equally near ones the even one.

The digits are found on one grid after the other: with `n` digits only the two neighbours of the
double can be nearest, and if any point of the grid reads back, one of the two does. Seventeen
digits always suffice. All comparisons are between whole numbers.

`layout` then places the point. A number from `10 ^ -5` to below `10 ^ 16` is written out, with at
least one digit on either side of the point; any other has one digit before the point and an
exponent that always carries its sign.
-/

namespace ComponentInstall.Decimal

/-- A positive decimal `coefficient · 10 ^ exponent`. -/
structure Digits where
  coefficient : Nat
  exponent : Int
deriving DecidableEq, Repr

namespace Digits

/-- A ratio of naturals times a power of ten, as a ratio of naturals. -/
def shift (numerator denominator : Nat) (exponent : Int) : Nat × Nat :=
  (numerator * Nat.pow 10 exponent.toNat, denominator * Nat.pow 10 (-exponent).toNat)

/-- The place of the leading digit of a positive ratio: zero for the ones. -/
def leadingPlace (numerator denominator : Nat) : Int :=
  let length (n : Nat) : Int := (Nat.toDigits 10 n).length
  let estimate := length numerator - length denominator
  let (scaled, scale) := shift numerator denominator (-estimate)
  if scale ≤ scaled then estimate else estimate - 1

end Digits

/-- The reals that round to a positive double, four times as large so that their ends are whole
multiples of its last place: the lower end, the double and the upper end, over one denominator. -/
def Double.interval (x : Double) : Nat × Nat × Nat × Nat :=
  let below :=
    if x.significand = Nat.pow 2 (precision - 1) ∧ leastExponent < x.exponent then 1 else 2
  let (factor, denominator) := shift 1 4 x.exponent
  ((4 * x.significand - below) * factor, 4 * x.significand * factor,
    (4 * x.significand + 2) * factor, denominator)

/-- Whether a decimal reads back as the double: it lies between the ends, or on one of them if the
significand is even. -/
def Double.readsBack (x : Double) (decimal : Digits) : Bool :=
  let (lower, _, upper, denominator) := x.interval
  let (scaled, scale) := Digits.shift decimal.coefficient 1 decimal.exponent
  let point := scaled * denominator
  if x.significand % 2 = 0 then
    decide (lower * scale ≤ point) && decide (point ≤ upper * scale)
  else decide (lower * scale < point) && decide (point < upper * scale)

/-- The shortest digits among those with at least `17 - tries` of them. -/
def Double.shortestFrom (x : Double) : Nat → Digits
  | 0 => ⟨x.significand, 0⟩
  | tries + 1 =>
    let count := 17 - tries
    let (_, middle, _, denominator) := x.interval
    let place := Digits.leadingPlace middle denominator - (count - 1)
    let (scaled, scale) := Digits.shift middle denominator (-place)
    let below := scaled / scale
    let above := below + 1
    let gapBelow := scaled - below * scale
    let gapAbove := above * scale - scaled
    match x.readsBack ⟨below, place⟩, x.readsBack ⟨above, place⟩ with
    | true, false => ⟨below, place⟩
    | false, true => ⟨above, place⟩
    | true, true =>
      if gapBelow < gapAbove ∨ gapBelow = gapAbove ∧ below % 2 = 0 then ⟨below, place⟩
      else ⟨above, place⟩
    | false, false => x.shortestFrom tries

/-- The shortest digits of a positive double. -/
def Double.shortest (x : Double) : Digits := x.shortestFrom 17

/-- Digits with their point and exponent in place. -/
def Digits.layout (decimal : Digits) : List Char :=
  let written := Nat.toDigits 10 decimal.coefficient
  let exponent : Int := decimal.exponent + (written.length - 1 : Nat)
  let digits := match (written.reverse.dropWhile (· = '0')).reverse with
    | [] => ['0']
    | kept => kept
  if exponent < -5 ∨ 15 < exponent then
    let size := Nat.toDigits 10 exponent.natAbs
    let mantissa := match digits with
      | lead :: [] => [lead]
      | lead :: rest => lead :: '.' :: rest
      | [] => []
    mantissa ++ 'e' :: (if exponent < 0 then '-' else '+') :: size
  else if exponent < 0 then
    '0' :: '.' :: (List.replicate (exponent.natAbs - 1) '0' ++ digits)
  else
    let whole := exponent.toNat + 1
    if digits.length ≤ whole then
      digits ++ List.replicate (whole - digits.length) '0' ++ ['.', '0']
    else digits.take whole ++ '.' :: digits.drop whole

/-- The shortest text of a double. -/
def Double.text (x : Double) : String :=
  let size := if x.isZero then ['0', '.', '0'] else x.shortest.layout
  String.ofList (if x.negative then '-' :: size else size)

end ComponentInstall.Decimal
