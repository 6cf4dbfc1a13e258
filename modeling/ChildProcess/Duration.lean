import ChildProcess.Decimal.Binary64

/-!
# Durations

A duration is a whole number of nanoseconds with fewer than `2 ^ 64` seconds. A
number of seconds in floating point is rounded to it exactly: to the nearest
nanosecond, and in the middle between two to the even one.
-/

namespace ChildProcess

/-- Nanoseconds in a second. -/
def nanosPerSecond : Nat := 1000000000

/-- A span of time that is not negative. -/
structure Duration where
  /-- The whole span in nanoseconds. -/
  nanoseconds : Nat
  deriving DecidableEq, Repr, Inhabited

namespace Duration

/-- The whole seconds. -/
def seconds (duration : Duration) : Nat :=
  duration.nanoseconds / nanosPerSecond

/-- The nanoseconds behind the whole seconds. -/
def subsecond (duration : Duration) : Nat :=
  duration.nanoseconds % nanosPerSecond

theorem subsecond_lt (duration : Duration) :
    duration.subsecond < nanosPerSecond :=
  Nat.mod_lt _ (by decide)

/-- From this number of nanoseconds on there is no duration. -/
def bound : Nat := Nat.pow 2 64 * nanosPerSecond

/-- The longest duration. -/
def max : Duration := ⟨bound - 1⟩

/-- So many seconds. -/
def ofSeconds (count : Nat) : Duration := ⟨count * nanosPerSecond⟩

/-- So many milliseconds. -/
def ofMilliseconds (count : Nat) : Duration := ⟨count * 1000000⟩

/-- A finite number of seconds in nanoseconds, rounded, without its sign. -/
def roundedNanoseconds (secs : Binary64) : Nat :=
  Binary64.roundScaled (secs.significand * nanosPerSecond) 1 secs.scale

/-- The duration of a number of seconds; there is none for what is negative, not
finite or too great. A negative zero is not negative. -/
def ofSeconds? (secs : Binary64) : Option Duration :=
  if !secs.isFinite then none
  else if secs.isSigned && secs.significand != 0 then none
  else if bound ≤ roundedNanoseconds secs then none
  else some ⟨roundedNanoseconds secs⟩

/-- A number with a fraction of so many places, without zeros at its end. -/
def withFraction (whole fraction places : Nat) : String :=
  let digits := Nat.toDigits 10 fraction
  let padded := List.replicate (places - digits.length) '0' ++ digits
  let trimmed := (padded.reverse.dropWhile (· == '0')).reverse
  toString whole
    ++ (if trimmed.isEmpty then "" else "." ++ String.ofList trimmed)

/-- The duration in the greatest unit of which it has one, as it is logged. -/
def display (duration : Duration) : String :=
  let nanoseconds := duration.subsecond
  if 0 < duration.seconds then
    withFraction duration.seconds nanoseconds 9 ++ "s"
  else if 1000000 ≤ nanoseconds then
    withFraction (nanoseconds / 1000000) (nanoseconds % 1000000) 6 ++ "ms"
  else if 1000 ≤ nanoseconds then
    withFraction (nanoseconds / 1000) (nanoseconds % 1000) 3 ++ "µs"
  else toString nanoseconds ++ "ns"

end Duration
end ChildProcess
