import CreoBench.Library.Binary64

/-!
# Times of a load test

`Duration` and `Instant` are counted in nanoseconds.  The seconds that travel
as binary64 numbers are converted the way the standard library does: to the
nearest number in one direction and to the nearest nanosecond, ties to even, in
the other.  Whole seconds below `2 ^ 53` survive both conversions unchanged.
-/

namespace CreoBench

/-- `std::time::Duration` in nanoseconds. -/
abbrev Duration := Nat

/-- A reading of the monotonic clock in nanoseconds. -/
abbrev Instant := Nat

namespace Duration

def nanosPerSec : Nat := 1000000000

def fromSecs (secs : Nat) : Duration := secs * nanosPerSec

def fromMillis (millis : Nat) : Duration := millis * 1000000

def asMillis (duration : Duration) : Nat := duration / 1000000

/-- `Duration::as_secs_f64`: whole seconds plus the fraction, each rounded. -/
def asSecsF64 (duration : Duration) : Binary64 :=
  Binary64.add (Binary64.ofNat (duration / nanosPerSec))
    (Binary64.div (Binary64.ofNat (duration % nanosPerSec))
      (Binary64.ofNat nanosPerSec))

/-- `Duration::from_secs_f64`; `none` where it panics, which is for negative,
non-finite and too large values.  Negative zero is not below zero. -/
def fromSecsF64 (secs : Binary64) : Option Duration :=
  if secs.isNegative ∧ secs.numerator ≠ 0 then none
  else if ¬ secs.isFinite then none
  else if 2 ^ 64 * secs.denominator ≤ secs.numerator then none
  else some (Binary64.roundHalfEven (secs.numerator * nanosPerSec) secs.denominator)

@[simp]
theorem fromSecs_div (secs : Nat) : fromSecs secs / nanosPerSec = secs :=
  Nat.mul_div_cancel secs (by decide)

@[simp]
theorem fromSecs_mod (secs : Nat) : fromSecs secs % nanosPerSec = 0 :=
  Nat.mul_mod_left secs nanosPerSec

/-- Whole seconds are converted exactly. -/
theorem asSecsF64_fromSecs {secs : Nat} (small : secs < 2 ^ 53) :
    asSecsF64 (fromSecs secs) = Binary64.ofNat secs := by
  have divisorPos :
      0 < (Binary64.ofNat 0).denominator * (Binary64.ofNat nanosPerSec).numerator := by
    rw [Binary64.numerator_ofNat (by decide)]
    exact Nat.mul_pos (Binary64.denominator_pos _)
      (Nat.mul_pos (by decide) (Binary64.denominator_pos _))
  have noFraction :
      Binary64.div (Binary64.ofNat 0) (Binary64.ofNat nanosPerSec) = ⟨0⟩ := by
    have numeratorZero : (Binary64.ofNat 0).numerator = 0 := by simp
    rw [Binary64.div, numeratorZero, Nat.zero_mul]
    exact Binary64.ofFraction_zero divisorPos
  rw [asSecsF64, fromSecs_div, fromSecs_mod, noFraction]
  exact Binary64.ofNat_add_zero small

theorem fromSecsF64_ofNat {secs : Nat} (small : secs < 2 ^ 53) :
    fromSecsF64 (Binary64.ofNat secs) = some (fromSecs secs) := by
  have denominatorPos := Binary64.denominator_pos (Binary64.ofNat secs)
  have inRange : ¬ 2 ^ 64 * (Binary64.ofNat secs).denominator ≤
      secs * (Binary64.ofNat secs).denominator := by
    rw [Nat.mul_le_mul_right_iff denominatorPos]
    omega
  have exact : Binary64.roundHalfEven
      (secs * (Binary64.ofNat secs).denominator * nanosPerSec)
        (Binary64.ofNat secs).denominator = fromSecs secs := by
    rw [Nat.mul_right_comm]
    exact Binary64.roundHalfEven_mul_left denominatorPos (secs * nanosPerSec)
  rw [fromSecsF64, Binary64.numerator_ofNat small, if_neg inRange, exact]
  simp [Binary64.ofNat_isNegative small, Binary64.ofNat_isFinite small]

/-- A whole number of seconds returns from the wire as it was sent. -/
theorem fromSecsF64_asSecsF64_fromSecs {secs : Nat} (small : secs < 2 ^ 53) :
    fromSecsF64 (asSecsF64 (fromSecs secs)) = some (fromSecs secs) := by
  rw [asSecsF64_fromSecs small, fromSecsF64_ofNat small]

end Duration

/-- A time relative to the start of a phase. -/
structure RelativeLoadTestTime where
  duration : Duration
  deriving DecidableEq

/-- An absolute moment of a load test. -/
structure LoadTestTime where
  instant : Instant
  deriving DecidableEq

namespace LoadTestTime

def add (time : LoadTestTime) (offset : RelativeLoadTestTime) : LoadTestTime :=
  ⟨time.instant + offset.duration⟩

/-- `Instant::duration_since` saturates at zero. -/
def durationSince (time earlier : LoadTestTime) : RelativeLoadTestTime :=
  ⟨time.instant - earlier.instant⟩

/-- The time since `time` when the clock shows `now`. -/
def elapsed (time : LoadTestTime) (now : Instant) : RelativeLoadTestTime :=
  ⟨now - time.instant⟩

@[simp]
theorem add_durationSince (time : LoadTestTime) (offset : RelativeLoadTestTime) :
    (time.add offset).durationSince time = offset := by
  simp [add, durationSince]

end LoadTestTime

inductive ServiceTimeMarker
  deriving DecidableEq

inductive ResponseTimeMarker
  deriving DecidableEq

/-- A measured duration; `Kind` keeps different measurements apart. -/
structure DurationMeasurement (Kind : Type) where
  inner : Duration
  deriving DecidableEq

/-- `as_millis` truncates to whole milliseconds and then to 64 bits. -/
def DurationMeasurement.asMillis {Kind : Type}
    (measurement : DurationMeasurement Kind) : UInt64 :=
  UInt64.ofNat (Duration.asMillis measurement.inner)

abbrev ServiceTime := DurationMeasurement ServiceTimeMarker
abbrev ResponseTime := DurationMeasurement ResponseTimeMarker

/-- The start of a transaction, as a moment and relative to its phase. -/
structure StartTime where
  instant : LoadTestTime
  relativeToStart : RelativeLoadTestTime
  deriving DecidableEq

namespace StartTime

/-- A start at a scheduled arrival rather than at the current time. -/
def scheduled (timeZero : LoadTestTime) (offset : RelativeLoadTestTime) : StartTime where
  instant := timeZero.add offset
  relativeToStart := offset

def elapsed (start : StartTime) (now : Instant) : ResponseTime :=
  ⟨(start.instant.elapsed now).duration⟩

/-- `instant` relative to the phase; moments before the start are clamped to it. -/
def relativeToStartOf (start : StartTime) (instant : Instant) : RelativeLoadTestTime :=
  ⟨start.relativeToStart.duration + (instant - start.instant.instant)⟩

end StartTime

/-- When a request was sent and how long it took to receive its response. -/
structure RequestTiming where
  sentAt : Instant
  serviceTime : ServiceTime
  deriving DecidableEq

end CreoBench
