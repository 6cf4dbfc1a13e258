import ChildProcess.Proofs.Decimal.NearestEven
import ChildProcess.Runner.Options

/-!
# The time limits among the options of a run

A time limit is given as a number of seconds in floating point, by the arguments
or by the settings.  What is said here: which of the two counts, which numbers are
refused and under what name, and that every other number becomes the duration that
is nearest to its exact value, in whole nanoseconds and with ties to the even one.
-/

namespace ChildProcess

namespace Duration

/-! ## Seconds as durations -/

/-- The reasons why there is no duration of so many seconds.  A negative zero is
not below zero. -/
inductive IsRefused (secs : Binary64) : Prop
  /-- The bits stand for no number. -/
  | notANumber (isNaN : secs.isNaN = true)
  /-- The number is infinite. -/
  | infinite (signed : Bool) (isInfinite : secs = .infinity signed)
  /-- The number is negative. -/
  | negative (below : secs.toRat < 0)
  /-- The number is rounded to as many seconds as no duration has. -/
  | tooGreat
      (nanoseconds : Nat)
      (nearest : IsNearestEven (secs.toRat * 10 ^ 9) nanoseconds)
      (beyond : 2 ^ 64 * 10 ^ 9 ≤ nanoseconds)

/-- A duration is that of a number of seconds: exactly, but for the rounding to
the nearest nanosecond. -/
structure IsOf (secs : Binary64) (duration : Duration) : Prop where
  /-- The exact number of nanoseconds is rounded to the nearest, ties to even. -/
  nearest : IsNearestEven (secs.toRat * 10 ^ 9) duration.nanoseconds
  /-- Whole seconds that the rounding gives are counted as seconds. -/
  whole : duration.seconds * 10 ^ 9 + duration.subsecond = duration.nanoseconds
  /-- Less than a second is left in nanoseconds. -/
  subsecond_lt : duration.subsecond < 10 ^ 9
  /-- The seconds fit. -/
  seconds_lt : duration.seconds < 2 ^ 64

/-- Durations keep the order of the numbers they are made of. -/
theorem IsOf.le_of_le
    {shorter longer : Binary64}
    {short long : Duration}
    (shortIsOf : IsOf shorter short)
    (longIsOf : IsOf longer long)
    (ordered : shorter.toRat ≤ longer.toRat) :
    short.nanoseconds ≤ long.nanoseconds :=
  shortIsOf.nearest.le_of_le longIsOf.nearest (by linarith)

/-- Where durations are there exactly if numbers are, that of a number is there. -/
theorem exists_isOf
    {secs : Binary64}
    {secs? : Option Binary64}
    {duration? : Option Duration}
    (areOf : Option.Rel IsOf secs? duration?)
    (isNumber : secs ∈ secs?) :
    ∃ duration, duration? = some duration ∧ IsOf secs duration := by
  cases isNumber
  cases areOf with
  | some isOf => exact ⟨_, rfl, isOf⟩

/-- Without a sign that counts, the nanoseconds are rounded by the rule. -/
theorem isNearestEven_roundedNanoseconds
    {secs : Binary64}
    (nonnegative : 0 ≤ secs.toRat) :
    IsNearestEven (secs.toRat * 10 ^ 9) (roundedNanoseconds secs) := by
  have nearest := Binary64.isNearestEven_roundScaled
    (secs.significand * nanosPerSecond) Nat.one_pos secs.scale
  have value : secs.toRat * 10 ^ 9 =
      ((secs.significand * nanosPerSecond : Nat) : ℚ) / (1 : Nat) *
        2 ^ secs.scale := by
    rw [Binary64.toRat_eq_of_nonneg nonnegative, nanosPerSecond]
    push_cast
    ring
  rw [value]
  exact nearest

/-- Fewer nanoseconds than the bound make fewer seconds than 2 ^ 64. -/
theorem seconds_lt_of_lt_bound
    {duration : Duration}
    (below : duration.nanoseconds < bound) :
    duration.seconds < 2 ^ 64 :=
  Nat.div_lt_of_lt_mul (by rwa [bound, Nat.mul_comm] at below)

/-- A number of seconds is refused for one of the reasons, or it has a duration. -/
theorem ofSeconds?_cases
    (secs : Binary64) :
    IsRefused secs ∧ ofSeconds? secs = none ∨
      ¬ IsRefused secs ∧
        ∃ duration, ofSeconds? secs = some duration ∧ IsOf secs duration := by
  unfold ofSeconds?
  cases finite : secs.isFinite with
  | false =>
    refine .inl ⟨?_, rfl⟩
    rcases (Binary64.isFinite_eq_false_iff secs).mp finite with
      isNaN | ⟨signed, isInfinite⟩
    · exact .notANumber isNaN
    · exact .infinite signed isInfinite
  | true =>
    by_cases negative : secs.toRat < 0
    · refine .inl ⟨.negative negative, ?_⟩
      have signed := (Binary64.toRat_neg_iff secs).mp negative
      simp [signed]
    · have nearest := isNearestEven_roundedNanoseconds (not_lt.mp negative)
      have unsigned : (secs.isSigned && secs.significand != 0) = false := by
        simpa [Binary64.toRat_neg_iff] using negative
      simp only [unsigned, Bool.not_true, Bool.false_eq_true, if_false]
      by_cases beyond : bound ≤ roundedNanoseconds secs
      · exact .inl ⟨.tooGreat _ nearest beyond, if_pos beyond⟩
      · refine .inr ⟨fun refused => ?_, _, if_neg beyond, nearest, ?_, ?_, ?_⟩
        · cases refused with
          | notANumber isNaN =>
            rw [(Binary64.isFinite_eq_false_iff secs).mpr (.inl isNaN)] at finite
            cases finite
          | infinite signed isInfinite =>
            rw [(Binary64.isFinite_eq_false_iff secs).mpr
              (.inr ⟨signed, isInfinite⟩)] at finite
            cases finite
          | negative below => exact negative below
          | tooGreat nanoseconds isNearest isBeyond =>
            exact beyond ((isNearest.unique nearest) ▸ isBeyond)
        · exact Nat.div_add_mod' _ _
        · exact subsecond_lt _
        · exact seconds_lt_of_lt_bound (not_le.mp beyond)

end Duration

namespace Runner

/-! ## Which number counts -/

/-- The number of seconds after which the command is to be interrupted: that of
the arguments, or else that of the settings. -/
def chosenTimeout? (settings : Settings) (arguments : Arguments) : Option Binary64 :=
  arguments.timeout?.or settings.timeout?

/-- The number of seconds that the command has to end, once interrupted. -/
def chosenKillAfter? (settings : Settings) (arguments : Arguments) :
    Option Binary64 :=
  arguments.killAfter?.or settings.killAfter?

namespace RunOptions

/-- The number of an option is refused under the name of the option, or read. -/
theorem readDuration?_cases
    (name : String)
    (chosen? : Option Binary64) :
    (∃ secs ∈ chosen?, Duration.IsRefused secs ∧
      readDuration? name chosen? = .error (.duration name secs)) ∨
    (∀ secs ∈ chosen?, ¬ Duration.IsRefused secs) ∧
      ∃ duration?, readDuration? name chosen? = .ok duration? ∧
        Option.Rel Duration.IsOf chosen? duration? := by
  cases chosen? with
  | none => exact .inr ⟨by simp, none, rfl, .none⟩
  | some secs =>
    rcases Duration.ofSeconds?_cases secs with
      ⟨refused, none⟩ | ⟨accepted, duration, some, isOf⟩
    · refine .inl ⟨secs, rfl, refused, ?_⟩
      rw [readDuration?, readDuration, none]
      rfl
    · refine .inr ⟨by simpa using accepted, duration, ?_, .some isOf⟩
      rw [readDuration?, readDuration, some]
      rfl

/-- Options with the limits that were chosen, or with the defaults where none
was. -/
structure HasLimits
    (settings : Settings)
    (arguments : Arguments)
    (options : RunOptions) : Prop where
  /-- Without a number of seconds there is no timeout. -/
  timeout :
    Option.Rel Duration.IsOf (chosenTimeout? settings arguments) options.timeout?
  /-- Without a number of seconds the other limit is five of them. -/
  killAfter :
    ∃ killAfter?,
      Option.Rel Duration.IsOf (chosenKillAfter? settings arguments) killAfter? ∧
        options.killAfter = killAfter?.getD (.ofSeconds 5)

/-- The timeout is refused, or else the other limit, or else there are options. -/
theorem combine_cases
    (settings : Settings)
    (arguments : Arguments) :
    (∃ secs ∈ chosenTimeout? settings arguments, Duration.IsRefused secs ∧
      combine settings arguments = .error (.duration "timeout" secs)) ∨
    (∀ secs ∈ chosenTimeout? settings arguments, ¬ Duration.IsRefused secs) ∧
      ((∃ secs ∈ chosenKillAfter? settings arguments, Duration.IsRefused secs ∧
        combine settings arguments = .error (.duration "kill-after" secs)) ∨
      (∀ secs ∈ chosenKillAfter? settings arguments, ¬ Duration.IsRefused secs) ∧
        ∃ options, combine settings arguments = .ok options ∧
          HasLimits settings arguments options) := by
  unfold combine
  rw [← chosenTimeout?, ← chosenKillAfter?]
  rcases readDuration?_cases "timeout" (chosenTimeout? settings arguments) with
    ⟨secs, isChosen, refused, failed⟩ | ⟨accepted, timeout?, read, isOf⟩
  · exact .inl ⟨secs, isChosen, refused, by rw [failed]; rfl⟩
  rw [read]
  refine .inr ⟨accepted, ?_⟩
  rcases readDuration?_cases "kill-after" (chosenKillAfter? settings arguments) with
    ⟨secs, isChosen, refused, failed⟩ | ⟨nextAccepted, killAfter?, readNext, nextIsOf⟩
  · exact .inl ⟨secs, isChosen, refused, by rw [failed]; rfl⟩
  · rw [readNext]
    exact .inr ⟨nextAccepted, _, rfl, isOf, killAfter?, nextIsOf, rfl⟩

/-- Options that there are have the limits that were chosen. -/
theorem hasLimits_of_combine
    {settings : Settings}
    {arguments : Arguments}
    {options : RunOptions}
    (combined : combine settings arguments = .ok options) :
    HasLimits settings arguments options := by
  rcases combine_cases settings arguments with
    ⟨secs, -, -, failed⟩ | ⟨-, ⟨secs, -, -, failed⟩ | ⟨-, other, isOther, hasLimits⟩⟩
  · rw [failed] at combined
    cases combined
  · rw [failed] at combined
    cases combined
  · rw [isOther] at combined
    cases combined
    exact hasLimits

/-- How the options take the time limits from the arguments and the settings. -/
structure ReadsLimits (settings : Settings) (arguments : Arguments) : Prop where
  /-- A timeout that is refused is named first. -/
  timeoutRefused :
    ∀ secs ∈ chosenTimeout? settings arguments, Duration.IsRefused secs →
      combine settings arguments = .error (.duration "timeout" secs)
  /-- The other limit is refused next, with a timeout or without one. -/
  killAfterRefused :
    (∀ secs ∈ chosenTimeout? settings arguments, ¬ Duration.IsRefused secs) →
      ∀ secs ∈ chosenKillAfter? settings arguments, Duration.IsRefused secs →
        combine settings arguments = .error (.duration "kill-after" secs)
  /-- With nothing refused there are options, with the limits that were chosen or
  with the defaults. -/
  accepted :
    (∀ secs ∈ chosenTimeout? settings arguments, ¬ Duration.IsRefused secs) →
    (∀ secs ∈ chosenKillAfter? settings arguments, ¬ Duration.IsRefused secs) →
      ∃ options, combine settings arguments = .ok options ∧
        HasLimits settings arguments options
  /-- With a timeout among the arguments, that of the settings is not looked at. -/
  timeoutShields :
    arguments.timeout?.isSome → ∀ configured?,
      combine { settings with timeout? := configured? } arguments =
        combine settings arguments
  /-- The same holds for the other limit. -/
  killAfterShields :
    arguments.killAfter?.isSome → ∀ configured?,
      combine { settings with killAfter? := configured? } arguments =
        combine settings arguments
  /-- A greater number of seconds never gives a shorter timeout. -/
  timeoutMonotone :
    ∀ {others otherArguments options otherOptions},
      combine settings arguments = .ok options →
      combine others otherArguments = .ok otherOptions →
      ∀ shorter ∈ chosenTimeout? settings arguments,
      ∀ longer ∈ chosenTimeout? others otherArguments,
        shorter.toRat ≤ longer.toRat →
          ∃ short ∈ options.timeout?, ∃ long ∈ otherOptions.timeout?,
            short.nanoseconds ≤ long.nanoseconds
  /-- Nor does it shorten the other limit. -/
  killAfterMonotone :
    ∀ {others otherArguments options otherOptions},
      combine settings arguments = .ok options →
      combine others otherArguments = .ok otherOptions →
      ∀ shorter ∈ chosenKillAfter? settings arguments,
      ∀ longer ∈ chosenKillAfter? others otherArguments,
        shorter.toRat ≤ longer.toRat →
          options.killAfter.nanoseconds ≤ otherOptions.killAfter.nanoseconds

/-- Time limits are taken from the arguments before the settings and the defaults,
refused in a fixed order and under their own names, and otherwise read to the
nearest nanosecond. -/
theorem readsLimits_of_combine
    (settings : Settings)
    (arguments : Arguments) :
    ReadsLimits settings arguments where
  timeoutRefused secs isChosen refused := by
    rcases combine_cases settings arguments with
      ⟨other, isOther, -, failed⟩ | ⟨accepted, -⟩
    · rw [Option.mem_unique isChosen isOther]
      exact failed
    · exact absurd refused (accepted secs isChosen)
  killAfterRefused accepted secs isChosen refused := by
    rcases combine_cases settings arguments with
      ⟨other, isOther, otherRefused, -⟩ |
        ⟨-, ⟨other, isOther, -, failed⟩ | ⟨nextAccepted, -⟩⟩
    · exact absurd otherRefused (accepted other isOther)
    · rw [Option.mem_unique isChosen isOther]
      exact failed
    · exact absurd refused (nextAccepted secs isChosen)
  accepted accepted nextAccepted := by
    rcases combine_cases settings arguments with
      ⟨other, isOther, refused, -⟩ | ⟨-, ⟨other, isOther, refused, -⟩ | ⟨-, combined⟩⟩
    · exact absurd refused (accepted other isOther)
    · exact absurd refused (nextAccepted other isOther)
    · exact combined
  timeoutShields given configured? := by
    obtain ⟨secs, isGiven⟩ := Option.isSome_iff_exists.mp given
    simp only [combine, isGiven, Option.some_or]
  killAfterShields given configured? := by
    obtain ⟨secs, isGiven⟩ := Option.isSome_iff_exists.mp given
    simp only [combine, isGiven, Option.some_or]
  timeoutMonotone := by
    intro others otherArguments options otherOptions combined otherCombined
      shorter isShorter longer isLonger ordered
    obtain ⟨short, isShort, shortIsOf⟩ :=
      Duration.exists_isOf (hasLimits_of_combine combined).timeout isShorter
    obtain ⟨long, isLong, longIsOf⟩ :=
      Duration.exists_isOf (hasLimits_of_combine otherCombined).timeout isLonger
    exact ⟨short, isShort, long, isLong, shortIsOf.le_of_le longIsOf ordered⟩
  killAfterMonotone := by
    intro others otherArguments options otherOptions combined otherCombined
      shorter isShorter longer isLonger ordered
    obtain ⟨_, limits, isShort⟩ := (hasLimits_of_combine combined).killAfter
    obtain ⟨short, rfl, shortIsOf⟩ := Duration.exists_isOf limits isShorter
    obtain ⟨_, otherLimits, isLong⟩ := (hasLimits_of_combine otherCombined).killAfter
    obtain ⟨long, rfl, longIsOf⟩ := Duration.exists_isOf otherLimits isLonger
    rw [isShort, isLong]
    exact shortIsOf.le_of_le longIsOf ordered

/-- A timeout of one second shields an infinite one in the settings. -/
example :
    timeout? <$> combine
      { timeout? := some (.infinity false) } { timeout? := some (.ofInt 1) } =
        .ok (some (.ofSeconds 1)) := by
  decide +kernel

end RunOptions
end Runner
end ChildProcess
