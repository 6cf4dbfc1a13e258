import ChildProcess.Decimal.Binary64

/-!
# Shortest decimal texts

A number is written with the fewest decimal digits that read back as the same
number; of several texts with so few digits the nearest to the number is taken,
and the greater one of two equally near. There is no exponent: zeros fill up to
the point.
-/

namespace ChildProcess
namespace Decimal

/-- The real numbers that read back as a number, as multiples of `1 / unit`. -/
structure Interval where
  low : Nat
  value : Nat
  high : Nat
  unit : Nat
  /-- Whether the two ends belong to it. -/
  closed : Bool
  deriving Repr

/-- The interval of a positive finite number. Below a power of two the neighbour
is only half as far away. -/
def Interval.ofNumber (number : Binary64) : Interval :=
  let significand := number.significand
  let below := if number.fraction = 0 ∧ 1 < number.exponentField then 1 else 2
  let power := number.scale - 2
  let factor := Nat.pow 2 power.toNat
  { low := (4 * significand - below) * factor
    value := 4 * significand * factor
    high := (4 * significand + 2) * factor
    unit := Nat.pow 2 (-power).toNat
    closed := significand % 2 = 0 }

/-- A point of the grid of multiples of `10 ^ power`, as a multiple of
`1 / (unit · scaling)`, and that scaling. -/
def gridPoint (unit : Nat) (power : Int) (multiple : Nat) : Nat × Nat :=
  (multiple * Nat.pow 10 power.toNat * unit, Nat.pow 10 (-power).toNat)

/-- Whether a point of a grid lies in an interval. -/
def Interval.holds (interval : Interval) (power : Int) (multiple : Nat) : Bool :=
  let (point, scaling) := gridPoint interval.unit power multiple
  if interval.closed then
    interval.low * scaling ≤ point && point ≤ interval.high * scaling
  else
    interval.low * scaling < point && point < interval.high * scaling

/-- How far a point of a grid is from the number. -/
def Interval.distance (interval : Interval) (power : Int) (multiple : Nat) : Nat :=
  let (point, scaling) := gridPoint interval.unit power multiple
  max point (interval.value * scaling) - min point (interval.value * scaling)

/-- The multiple of `10 ^ power` next below the number. -/
def Interval.floor (interval : Interval) (power : Int) : Nat :=
  interval.value * Nat.pow 10 (-power).toNat / (interval.unit * Nat.pow 10 power.toNat)

/-- The nearest point of a grid within the interval, if there is one. -/
def Interval.nearest? (interval : Interval) (power : Int) : Option Nat :=
  let below := interval.floor power
  let above := below + 1
  match interval.holds power below, interval.holds power above with
  | false, false => none
  | true, false => some below
  | false, true => some above
  | true, true =>
      if interval.distance power below < interval.distance power above then
        some below
      else some above

/-- The number of digits in front of the point; it is negative or zero if zeros
follow the point. -/
def Interval.position (interval : Interval) : Int :=
  if interval.unit ≤ interval.value then
    Binary64.decimalLength (interval.value / interval.unit)
  else
    let quotient := (interval.unit + interval.value - 1) / interval.value
    1 - (Binary64.decimalLength (quotient - 1) : Int)

/-- Fewest digits: the first of the coming grids that has a point in the interval,
as a multiple of a power of ten. -/
def Interval.shortest (interval : Interval) : Nat → Int → Nat × Int
  | 0, power => (interval.floor power, power)
  | grids + 1, power =>
      match interval.nearest? power with
      | some multiple => (multiple, power)
      | none => interval.shortest grids (power - 1)

/-- Write `digits · 10 ^ power` without an exponent. -/
def positional (digits : Nat) (power : Int) : String :=
  let text := Nat.toDigits 10 digits
  if 0 ≤ power then String.ofList (text ++ List.replicate power.toNat '0')
  else
    let places := (-power).toNat
    let padded := List.replicate (places + 1 - text.length) '0' ++ text
    let whole := padded.take (padded.length - places)
    let fraction :=
      ((padded.drop (padded.length - places)).reverse.dropWhile (· == '0')).reverse
    String.ofList (if fraction.isEmpty then whole else whole ++ '.' :: fraction)

/-- The shortest text of a number. -/
def display (number : Binary64) : String :=
  let sign := if number.isSigned then "-" else ""
  if number.isNaN then "NaN"
  else if !number.isFinite then sign ++ "inf"
  else if number.significand = 0 then sign ++ "0"
  else
    let interval := Interval.ofNumber number
    let (digits, power) := interval.shortest 17 (interval.position - 1)
    sign ++ positional digits power

end Decimal
end ChildProcess
