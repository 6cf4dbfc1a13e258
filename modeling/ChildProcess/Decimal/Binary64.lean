/-!
# Binary floating point numbers

A `Binary64` is a number in the 64-bit interchange format, held as its bits. A
finite one has the exact value `significand · 2 ^ scale`. All arithmetic on it
is done on natural numbers: `Binary64.ofRatio` is the number nearest to a ratio,
with ties to the even significand.
-/

namespace ChildProcess

/-- Round a ratio to the nearest natural number, ties to the even one. -/
def roundHalfEven (numerator denominator : Nat) : Nat :=
  let quotient := numerator / denominator
  let remainder := numerator % denominator
  if 2 * remainder < denominator then quotient
  else if denominator < 2 * remainder then quotient + 1
  else quotient + quotient % 2

/-- A number in the 64-bit binary interchange format. -/
structure Binary64 where
  /-- Sign bit, eleven bits of exponent and 52 bits of fraction. -/
  bits : UInt64
  deriving DecidableEq, Repr, Inhabited

namespace Binary64

/-- Whether the sign bit is set. -/
def isSigned (number : Binary64) : Bool :=
  Nat.pow 2 63 ≤ number.bits.toNat

/-- The bits of the exponent. -/
def exponentField (number : Binary64) : Nat :=
  number.bits.toNat / Nat.pow 2 52 % Nat.pow 2 11

/-- The bits of the fraction. -/
def fraction (number : Binary64) : Nat :=
  number.bits.toNat % Nat.pow 2 52

/-- Whether the number is finite. -/
def isFinite (number : Binary64) : Bool :=
  number.exponentField != 2047

/-- Whether the bits stand for no number at all. -/
def isNaN (number : Binary64) : Bool :=
  number.exponentField == 2047 && number.fraction != 0

/-- The whole number that the power of two multiplies. -/
def significand (number : Binary64) : Nat :=
  if number.exponentField = 0 then number.fraction
  else number.fraction + Nat.pow 2 52

/-- The exponent of the power of two. -/
def scale (number : Binary64) : Int :=
  (max number.exponentField 1 : Nat) - 1075

/-- The number with given sign and with the other bits from a natural number. -/
def ofMagnitude (signed : Bool) (magnitude : Nat) : Binary64 :=
  ⟨UInt64.ofNat ((if signed then Nat.pow 2 63 else 0) + magnitude)⟩

/-- The bits, without sign, of the infinite number. -/
def infinityMagnitude : Nat := 2047 * Nat.pow 2 52

/-- The infinite number of a sign. -/
def infinity (signed : Bool) : Binary64 := ofMagnitude signed infinityMagnitude

/-- The zero of a sign. -/
def zero (signed : Bool) : Binary64 := ofMagnitude signed 0

/-- The bits of a sign that stand for no number. -/
def nan (signed : Bool) : Binary64 :=
  ofMagnitude signed (infinityMagnitude + Nat.pow 2 51)

/-- A ratio times a power of two, rounded to the nearest natural number. -/
def roundScaled (numerator denominator : Nat) (power : Int) : Nat :=
  if 0 ≤ power then roundHalfEven (numerator * Nat.pow 2 power.toNat) denominator
  else roundHalfEven numerator (denominator * Nat.pow 2 (-power).toNat)

/-- The exponent with which a positive ratio has a significand of 53 bits, or the
least exponent that there is. -/
def scaleOfRatio (numerator denominator : Nat) : Int :=
  let guess : Int := (Nat.log2 numerator : Int) - Nat.log2 denominator - 53
  let wide :=
    if 0 ≤ -guess then
      Nat.pow 2 53 * denominator ≤ numerator * Nat.pow 2 (-guess).toNat
    else Nat.pow 2 53 * (denominator * Nat.pow 2 guess.toNat) ≤ numerator
  max (if wide then guess + 1 else guess) (-1074)

/-- The number nearest to a ratio; too great a ratio gives the infinite one. A
significand that rounding carries to 54 bits moves on into the exponent. -/
def ofRatio (signed : Bool) (numerator denominator : Nat) : Binary64 :=
  if numerator = 0 then zero signed
  else
    let scale := scaleOfRatio numerator denominator
    let significand := roundScaled numerator denominator (-scale)
    let magnitude := (scale + 1074).toNat * Nat.pow 2 52 + significand
    if magnitude < infinityMagnitude then ofMagnitude signed magnitude
    else infinity signed

/-- The number nearest to a whole number. -/
def ofInt (number : Int) : Binary64 :=
  ofRatio (number < 0) number.natAbs 1

/-- How many decimal digits a natural number has. -/
def decimalLength (number : Nat) : Nat :=
  (Nat.toDigits 10 number).length

/-- The number nearest to `digits · 10 ^ power`. Powers beyond all finite numbers
are not computed. -/
def ofDecimal (signed : Bool) (digits : Nat) (power : Int) : Binary64 :=
  if digits = 0 then zero signed
  else if 400 < decimalLength digits + power then infinity signed
  else if decimalLength digits + power < -400 then zero signed
  else if 0 ≤ power then ofRatio signed (digits * Nat.pow 10 power.toNat) 1
  else ofRatio signed digits (Nat.pow 10 (-power).toNat)

end Binary64
end ChildProcess
