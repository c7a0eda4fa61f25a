import CreoBench.AllOrNothing
import CreoBench.ArrivalSampling
import CreoBench.Library.Binary64Error
import Mathlib.Tactic.NormNum.Pow

/-!
# How far a time can travel

A relative time is rounded three times on its way: the fraction of a second, its sum
with the whole seconds, and the nanosecond that is nearest to the number received.
Below `2 ^ 23` seconds, which are 97 days, the three errors together are less than a
nanosecond, and every time arrives as it was sent.
-/

namespace CreoBench

namespace Duration

theorem nanosPerSec_pos : (0 : ℚ) < nanosPerSec := by
  exact_mod_cast (by decide : 0 < nanosPerSec)

theorem magnitude_nanosPerSec : (Binary64.ofNat nanosPerSec).magnitude = nanosPerSec :=
  Binary64.magnitude_ofNat (by decide)

/-- The fraction of a second is rounded by at most `2 ^ -54`. -/
theorem abs_magnitude_fraction_sub_le {nanos : Nat} (small : nanos < nanosPerSec) :
    |(Binary64.div (.ofNat nanos) (.ofNat nanosPerSec)).magnitude - nanos / nanosPerSec| ≤
      1 / 2 ^ 54 := by
  have nanosSmall : nanos < 2 ^ 53 := small.trans (by decide)
  have quotient : (Binary64.ofNat nanos).magnitude / (Binary64.ofNat nanosPerSec).magnitude =
      nanos / nanosPerSec := by
    rw [Binary64.magnitude_ofNat nanosSmall, magnitude_nanosPerSec]
  have below : (nanos : ℚ) / nanosPerSec < 2 ^ 0 := by
    rw [pow_zero, div_lt_one nanosPerSec_pos]
    exact_mod_cast small
  have rounded := Binary64.abs_magnitude_div_sub_le (.ofNat nanos) (.ofNat nanosPerSec) 0
    (magnitude_nanosPerSec ▸ nanosPerSec_pos) (quotient ▸ below) (by decide)
  rw [quotient, pow_zero] at rounded
  exact rounded

/-- The seconds that a time of less than `2 ^ exponent` seconds travels as. -/
theorem abs_magnitude_asSecsF64_sub_le {duration exponent : Nat} (range : exponent ≤ 53)
    (below : duration < fromSecs (2 ^ exponent)) :
    |(asSecsF64 duration).magnitude - duration / nanosPerSec| ≤ (2 ^ exponent + 1) / 2 ^ 54 := by
  have wholeBelow : duration / nanosPerSec < 2 ^ exponent :=
    Nat.div_lt_of_lt_mul (by rwa [fromSecs, Nat.mul_comm] at below)
  have nanosBelow : duration % nanosPerSec < nanosPerSec := Nat.mod_lt _ (by decide)
  have whole : (Binary64.ofNat (duration / nanosPerSec)).magnitude =
      (duration / nanosPerSec : Nat) :=
    Binary64.magnitude_ofNat (wholeBelow.trans_le (Nat.pow_le_pow_right (by decide) range))
  have split : (duration : ℚ) / nanosPerSec = (duration / nanosPerSec : Nat) +
      (duration % nanosPerSec : Nat) / nanosPerSec := by
    rw [div_eq_iff nanosPerSec_pos.ne', add_mul, div_mul_cancel₀ _ nanosPerSec_pos.ne']
    exact_mod_cast (Nat.div_add_mod' duration nanosPerSec).symm
  have fraction := abs_magnitude_fraction_sub_le nanosBelow
  have fractionBelow :
      ((duration % nanosPerSec : Nat) : ℚ) / nanosPerSec ≤ 1 - 1 / nanosPerSec := by
    have next : ((duration % nanosPerSec : Nat) : ℚ) + 1 ≤ nanosPerSec := by
      exact_mod_cast nanosBelow
    rw [le_sub_iff_add_le, ← add_div, div_le_one nanosPerSec_pos]
    exact next
  have wholeBelow' : ((duration / nanosPerSec : Nat) : ℚ) + 1 ≤ 2 ^ exponent := by
    exact_mod_cast wholeBelow
  -- a rounded fraction of a second is still less than one second
  have lessThanOne : (1 : ℚ) / 2 ^ 54 < 1 / nanosPerSec := by
    norm_num [nanosPerSec]
  have sum := Binary64.abs_magnitude_add_sub_le (.ofNat (duration / nanosPerSec))
    (.div (.ofNat (duration % nanosPerSec)) (.ofNat nanosPerSec)) exponent
    (by rw [whole]; linarith [(abs_le.mp fraction).2]) (by omega)
  rw [whole] at sum
  rw [asSecsF64, split, add_div]
  calc |(Binary64.add (.ofNat (duration / nanosPerSec))
          (.div (.ofNat (duration % nanosPerSec)) (.ofNat nanosPerSec))).magnitude -
        ((duration / nanosPerSec : Nat) + (duration % nanosPerSec : Nat) / nanosPerSec)|
      ≤ _ := abs_sub_le _ _ _
    _ ≤ 2 ^ exponent / 2 ^ 54 + 1 / 2 ^ 54 := by
        apply add_le_add sum
        rwa [add_sub_add_left_eq_sub]

theorem asSecsF64_isNegative (duration : Duration) :
    (asSecsF64 duration).isNegative = false :=
  Binary64.ofFraction_isNegative _ _

/-- No time below `2 ^ 53` seconds is refused, and it is the nearest nanosecond that arrives. -/
theorem fromSecsF64_asSecsF64 {duration : Duration} (below : duration < fromSecs (2 ^ 53)) :
    fromSecsF64 (asSecsF64 duration) = some (nearest (asSecsF64 duration)) := by
  rw [fromSecsF64_eq_some_iff (asSecsF64_isNegative duration)]
  refine ⟨?_, rfl⟩
  have close := abs_magnitude_asSecsF64_sub_le (Nat.le_refl 53) below
  have seconds : (duration : ℚ) / nanosPerSec ≤ 2 ^ 53 := by
    rw [div_le_iff₀ nanosPerSec_pos]
    exact_mod_cast below.le
  have upper : (asSecsF64 duration).magnitude < 2 ^ 64 := by
    have error : ((2 : ℚ) ^ 53 + 1) / 2 ^ 54 < 2 ^ 64 - 2 ^ 53 := by norm_num
    linarith [(abs_le.mp close).2]
  have denominatorPos : (0 : ℚ) < (asSecsF64 duration).denominator :=
    Nat.cast_pos.mpr (Binary64.denominator_pos _)
  rw [Binary64.magnitude, div_lt_iff₀ denominatorPos] at upper
  exact_mod_cast upper

/-- The error of the number received, in nanoseconds. -/
theorem abs_nanoseconds_sub_le {duration exponent : Nat} (range : exponent ≤ 53)
    (below : duration < fromSecs (2 ^ exponent)) :
    |(asSecsF64 duration).magnitude * nanosPerSec - duration| ≤
      (2 ^ exponent + 1) / 2 ^ 54 * nanosPerSec := by
  have close := abs_magnitude_asSecsF64_sub_le range below
  have scaled : (asSecsF64 duration).magnitude * nanosPerSec - duration =
      ((asSecsF64 duration).magnitude - duration / nanosPerSec) * nanosPerSec := by
    rw [sub_mul, div_mul_cancel₀ _ nanosPerSec_pos.ne']
  rw [scaled, abs_mul, abs_of_pos nanosPerSec_pos]
  exact mul_le_mul_of_nonneg_right close nanosPerSec_pos.le

/-- Less than `2 ^ 23` seconds are less than half a nanosecond off. -/
theorem nearest_asSecsF64 {duration : Duration} (below : duration < fromSecs (2 ^ 23)) :
    nearest (asSecsF64 duration) = duration := by
  apply Binary64.roundHalfEven_eq_of_abs_lt
  refine (abs_nanoseconds_sub_le (by decide) below).trans_lt ?_
  norm_num [nanosPerSec]

/-- Below `2 ^ 53` seconds, the whole seconds are exact and rounding keeps the order. -/
theorem units_asSecsF64_mono {earlier later : Duration} (ordered : earlier ≤ later)
    (below : later < fromSecs (2 ^ 53)) :
    (asSecsF64 earlier).units ≤ (asSecsF64 later).units := by
  have divisorPos : 0 < (Binary64.ofNat nanosPerSec).units := by decide +kernel
  have wholes : earlier / nanosPerSec ≤ later / nanosPerSec := Nat.div_le_div_right ordered
  have exact : later / nanosPerSec < 2 ^ 53 :=
    Nat.div_lt_of_lt_mul (by rwa [fromSecs, Nat.mul_comm] at below)
  rcases Nat.lt_or_eq_of_le wholes with less | same
  · -- the fraction of the earlier time is rounded to one at most
    calc (asSecsF64 earlier).units
        ≤ (Binary64.add (.ofNat (earlier / nanosPerSec)) (.ofNat 1)).units := by
          apply Binary64.units_add_mono (Nat.le_refl _)
          rw [Binary64.units_ofNat (by decide : 1 < 2 ^ 53), Nat.one_mul]
          exact Binary64.units_div_ofNat_le (by decide) (Nat.mod_lt _ (by decide)).le (by decide)
      _ = (Binary64.add (.ofNat (earlier / nanosPerSec + 1)) (.ofNat 0)).units := by
          rw [Binary64.add_ofNat (Nat.lt_of_le_of_lt less exact),
            Binary64.add_ofNat (Nat.lt_of_le_of_lt less exact), Nat.add_zero]
      _ ≤ (asSecsF64 later).units := by
          apply Binary64.units_add_mono (Binary64.units_ofNat_mono less)
          rw [Binary64.units_ofNat (by decide), Nat.zero_mul]
          exact Nat.zero_le _
  · have nanos : earlier % nanosPerSec ≤ later % nanosPerSec := by
      have early := Nat.div_add_mod earlier nanosPerSec
      have late := Nat.div_add_mod later nanosPerSec
      rw [← same] at late
      exact Nat.le_of_add_le_add_left (early.trans_le (ordered.trans_eq late.symm))
    exact Binary64.units_add_mono (Binary64.units_ofNat_mono wholes)
      (Binary64.units_div_mono (Binary64.units_ofNat_mono nanos) (Nat.le_refl _) divisorPos)

/-- A time below `2 ^ exponent` seconds and what arrives of it.  The seconds are rounded by at
most `(2 ^ exponent + 1) / 2 ^ 54`, and then to a nanosecond. -/
def Near (exponent : Nat) (sent arrived : Duration) : Prop :=
  2 ^ 54 * arrived ≤ 2 ^ 54 * sent + ((2 ^ exponent + 1) * nanosPerSec + 2 ^ 53) ∧
    2 ^ 54 * sent ≤ 2 ^ 54 * arrived + ((2 ^ exponent + 1) * nanosPerSec + 2 ^ 53)

theorem near_nearest {exponent : Nat} (range : exponent ≤ 53) {duration : Duration}
    (below : duration < fromSecs (2 ^ exponent)) :
    Near exponent duration (nearest (asSecsF64 duration)) := by
  have close := abs_le.mp (abs_nanoseconds_sub_le range below)
  have rounded := Binary64.abs_roundHalfEven_sub_le (asSecsF64 duration) nanosPerSec
  rw [← nearest] at rounded
  have rounded := abs_le.mp rounded
  have scale : (2 : ℚ) ^ 54 * ((2 ^ exponent + 1) / 2 ^ 54 * nanosPerSec) =
      (2 ^ exponent + 1) * nanosPerSec := by
    rw [← mul_assoc, mul_div_cancel₀ _ (by positivity)]
  have half : (2 : ℚ) ^ 54 * (1 / 2) = 2 ^ 53 := by norm_num
  have upper : (2 : ℚ) ^ 54 * nearest (asSecsF64 duration) ≤
      2 ^ 54 * duration + ((2 ^ exponent + 1) * nanosPerSec + 2 ^ 53) := by
    linarith [close.2, rounded.2]
  have lower : (2 : ℚ) ^ 54 * duration ≤ 2 ^ 54 * nearest (asSecsF64 duration) +
      ((2 ^ exponent + 1) * nanosPerSec + 2 ^ 53) := by
    linarith [close.1, rounded.1]
  constructor
  · exact_mod_cast upper
  · exact_mod_cast lower

/-- Times below `2 ^ 53` seconds arrive in their order, and each arrives near its own. -/
theorem arrive_in_order {exponent : Nat} (range : exponent ≤ 53) {earlier later : Duration}
    (ordered : earlier ≤ later) (below : later < fromSecs (2 ^ exponent)) :
    ∃ earlier' later', fromSecsF64 (asSecsF64 earlier) = some earlier' ∧
      fromSecsF64 (asSecsF64 later) = some later' ∧ earlier' ≤ later' ∧
        Near exponent earlier earlier' ∧ Near exponent later later' := by
  have range' : fromSecs (2 ^ exponent) ≤ fromSecs (2 ^ 53) :=
    Nat.mul_le_mul_right _ (Nat.pow_le_pow_right (by decide) range)
  have laterBelow : later < fromSecs (2 ^ 53) := Nat.lt_of_lt_of_le below range'
  have arrives : ∀ duration ≤ later,
      fromSecsF64 (asSecsF64 duration) = some (nearest (asSecsF64 duration)) ∧
        Near exponent duration (nearest (asSecsF64 duration)) := by
    intro duration le
    exact ⟨fromSecsF64_asSecsF64 (Nat.lt_of_le_of_lt le laterBelow),
      near_nearest range (Nat.lt_of_le_of_lt le below)⟩
  exact ⟨_, _, (arrives earlier ordered).1, (arrives later (Nat.le_refl _)).1,
    nearest_mono (units_asSecsF64_mono ordered laterBelow), (arrives earlier ordered).2,
    (arrives later (Nat.le_refl _)).2⟩

theorem arrive_in_order_oneDay :
    ∃ earlier' later', fromSecsF64 (asSecsF64 1) = some earlier' ∧
      fromSecsF64 (asSecsF64 (fromSecs 86400)) = some later' ∧ earlier' ≤ later' ∧
        Near 17 1 earlier' ∧ Near 17 (fromSecs 86400) later' :=
  arrive_in_order (by decide) (by decide) (by decide)

end Duration

namespace RelativeLoadTestTime

theorem returns_of_lt {time : RelativeLoadTestTime}
    (below : time.duration < Duration.fromSecs (2 ^ 23)) : time.Returns := by
  have range : Duration.fromSecs (2 ^ 23) ≤ Duration.fromSecs (2 ^ 53) := by decide
  rw [Returns, Duration.fromSecsF64_asSecsF64 (Nat.lt_of_lt_of_le below range),
    Duration.nearest_asSecsF64 below]

/-- `2 ^ 23` seconds are the longest range of times that all arrive as they were sent: one
nanosecond later there is a time that does not. -/
theorem returns_below_iff (exponent : Nat) :
    (∀ time : RelativeLoadTestTime, time.duration < Duration.fromSecs (2 ^ exponent) →
      time.Returns) ↔ exponent ≤ 23 := by
  constructor
  · intro returning
    by_contra wide
    have wider : 2 ^ 24 ≤ 2 ^ exponent := Nat.pow_le_pow_right (by decide) (Nat.lt_of_not_le wide)
    have reached : Duration.fromSecs (2 ^ 23) + 1 < Duration.fromSecs (2 ^ exponent) :=
      Nat.lt_of_lt_of_le (by decide) (Nat.mul_le_mul_right Duration.nanosPerSec wider)
    have lost : ¬ (⟨Duration.fromSecs (2 ^ 23) + 1⟩ : RelativeLoadTestTime).Returns := by
      unfold Returns
      decide +kernel
    exact lost (returning _ reached)
  · intro narrow time below
    exact returns_of_lt (Nat.lt_of_lt_of_le below (Nat.mul_le_mul_right _
      (Nat.pow_le_pow_right (by decide) narrow)))

end RelativeLoadTestTime

/-! ## Updates of short tests -/

open SerdeCodec

/-- The measured durations of a result that is written fit into 64 bits. -/
theorem TransactionResult.millisFit_of_writes {result : TransactionResult}
    (written : codec.Writes result) : result.MillisFit := by
  cases result with
  | success metadata responseTime serviceTime =>
      have fields := Variant.writes_of.mp ((writes_enum rfl).mp written)
      simp only [Option.some.injEq, exists_eq_left', variantField, Codec.writes_pair,
        Codec.writes_mapFailures, DurationMeasurement.writes_iff] at fields
      exact fields.2
  | failed | timeout =>
      have fields := Variant.writes_of.mp ((writes_enum rfl).mp written)
      simp only [Option.some.injEq, exists_eq_left', variantField, Codec.writes_pair,
        Codec.writes_mapFailures, DurationMeasurement.writes_iff] at fields
      exact ⟨fields.2.1, fields.2.2.1⟩
  | dropped metadata responseTime code =>
      have fields := Variant.writes_of.mp ((writes_enum rfl).mp written)
      simp only [Option.some.injEq, exists_eq_left', variantField, Codec.writes_pair,
        Codec.writes_mapFailures, DurationMeasurement.writes_iff] at fields
      exact fields.2.1

theorem IntervalReport.millisFit_of_writes {report : IntervalReport}
    (written : codec.Writes report) : report.MillisFit := by
  simp only [codec, IntervalStatistics.codec, Codec.writes_imap, Codec.writes_pair, field,
    Codec.writes_mapFailures] at written
  obtain ⟨-, -, ⟨-, -, -, -, -, -, results⟩, -⟩ := written
  exact fun result member =>
    TransactionResult.millisFit_of_writes ((writes_sequence.mp results).2 result member)

namespace GeneratorUpdate

open MessageFramer

theorem millisFit_of_writes {update : GeneratorUpdate} (written : codec.Writes update) :
    update.MillisFit := by
  cases update with
  | intervalReport report =>
      have content := Variant.writes_newtype.mp ((writes_enum rfl).mp written)
      simp only [Option.some.injEq, exists_eq_left'] at content
      exact IntervalReport.millisFit_of_writes content
  | finished => exact trivial

/-- What a generator sends about the first `2 ^ 23` seconds of a phase is decoded as it was
sent, apart from the fractions of a millisecond in measured durations. -/
theorem decode_of_short_phase {update : GeneratorUpdate} {dst dst' : List UInt8}
    (short : ∀ time ∈ update.relativeTimes, time.duration < Duration.fromSecs (2 ^ 23))
    (encoded : encode codec update dst = (.ok (), dst'))
    (allocated : dst'.length ≤ isizeMax) (rest : List UInt8) :
    decode codec (dst'.drop dst.length ++ rest) = .frame update.truncateMillis rest := by
  obtain ⟨succeeds, -, rfl⟩ := encode_ok encoded
  have returning : ∀ time ∈ update.relativeTimes, time.Returns := fun time member =>
    RelativeLoadTestTime.returns_of_lt (short time member)
  have frameFits : 12 + (codec.write update).bytes.length ≤ isizeMax := by
    have sizeEq : MessageHeader.size = 12 := rfl
    simp only [List.length_append, length_headerBytes] at allocated
    omega
  rw [List.drop_left]
  exact decode_frame succeeds (delivers returning (millisFit_of_writes succeeds)) frameFits rest

/-- A report of a request that was sent in the last nanosecond of the range. -/
def lastNanosecond : GeneratorUpdate :=
  let last : RelativeLoadTestTime := ⟨Duration.fromSecs (2 ^ 23) - 1⟩
  .intervalReport
    { targetTime := last
      loadLevel := 1
      stats :=
        { successfulTransactions := 1, failedTransactions := 0, timeoutTransactions := 0,
          droppedTransactions := 0, responseTimeSum := 3, responseTimeCount := 1,
          transactionResults := [.success
            { specId := ⟨0⟩, virtualUserId := ⟨0⟩, loadgeneratorId := ⟨0⟩, startTime := last,
              sendTime := last, targetTime := last }
            ⟨Duration.fromMillis 3 + 1⟩ ⟨Duration.fromMillis 3⟩] }
      finalBatchTime := some last }

theorem decode_of_short_phase_lastNanosecond :
    ∃ dst', encode codec lastNanosecond [7] = (.ok (), dst') ∧
      ∀ rest, decode codec (dst'.drop 1 ++ rest) = .frame lastNanosecond.truncateMillis rest := by
  have small : ∀ length ∈ lastNanosecond.lengths, length < 2 ^ 64 := by decide
  have fits : Duration.asMillis (Duration.fromMillis 3 + 1) < 2 ^ 64 ∧
      Duration.asMillis (Duration.fromMillis 3) < 2 ^ 64 := by decide
  have written : codec.Writes lastNanosecond :=
    (writes_iff small).mpr (List.forall_mem_singleton.mpr fits)
  have fitting : (encode codec lastNanosecond [7]).2.length ≤ isizeMax := by decide +kernel
  have encoded := encode_of_writes written fitting
  have allocated : ([7] ++ (headerBytes (codec.write lastNanosecond).bytes.length ++
      (codec.write lastNanosecond).bytes)).length ≤ isizeMax := by decide +kernel
  have short : ∀ time ∈ lastNanosecond.relativeTimes,
      time.duration < Duration.fromSecs (2 ^ 23) := by
    unfold relativeTimes
    decide
  have decoded := decode_of_short_phase short encoded allocated
  rw [List.length_singleton] at decoded
  exact ⟨_, encoded, decoded⟩

end GeneratorUpdate

end CreoBench
