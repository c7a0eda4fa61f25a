import CreoBench.ScheduleRoom

/-!
# Bounds of rates and gaps

Every operation between a deadline and a gap is monotone, so the rate of a step
is bounded by the rate of the longest step, and a gap by the one that the
smallest number of the generator leads to at the smallest rate.
-/

namespace CreoBench

/-! ## Rates -/

namespace Duration

theorem nearest_le_fromSecs {secs : Binary64} {whole : Nat}
    (le : secs.numerator ≤ whole * secs.denominator) : nearest secs ≤ fromSecs whole := by
  have exact : Binary64.roundHalfEven (fromSecs whole) 1 = fromSecs whole := by
    simpa using Binary64.roundHalfEven_mul_left Nat.one_pos (fromSecs whole)
  rw [← exact]
  apply Binary64.roundHalfEven_mono (Binary64.denominator_pos _) Nat.one_pos
  calc secs.numerator * nanosPerSec * 1
      ≤ whole * secs.denominator * nanosPerSec * 1 :=
        Nat.mul_le_mul_right _ (Nat.mul_le_mul_right _ le)
    _ = fromSecs whole * secs.denominator := by
        rw [fromSecs]
        ring

theorem units_asSecsF64_le {duration : Duration} {whole : Nat} (le : duration ≤ fromSecs whole) :
    (asSecsF64 duration).units ≤ (Binary64.add (.ofNat whole) (.ofNat 1)).units := by
  have seconds : duration / nanosPerSec ≤ whole := Nat.div_le_of_le_mul (by
    rw [Nat.mul_comm]
    exact le)
  apply Binary64.units_add_mono (Binary64.units_ofNat_mono seconds)
  rw [Binary64.units_ofNat (by decide : 1 < 2 ^ 53), Nat.one_mul]
  exact Binary64.units_div_ofNat_le (by decide) (Nat.mod_lt _ (by decide)).le (by decide)

/-- A nanosecond is more than `2 ^ -30` seconds. -/
theorem le_units_asSecsF64 {duration : Duration} (positive : 0 < duration) :
    (Binary64.ofFraction 1 (2 ^ 30)).units ≤ (asSecsF64 duration).units := by
  have divisorPos : 0 < (Binary64.ofNat nanosPerSec).units := by decide +kernel
  rcases Nat.eq_zero_or_pos (duration / nanosPerSec) with short | long
  · have nanos : 1 ≤ duration % nanosPerSec := by
      have split := Nat.div_add_mod duration nanosPerSec
      rw [short, Nat.mul_zero, Nat.zero_add] at split
      rw [split]
      exact positive
    calc (Binary64.ofFraction 1 (2 ^ 30)).units
        ≤ (Binary64.add (.ofNat 0) (.div (.ofNat 1) (.ofNat nanosPerSec))).units := by
          decide +kernel
      _ ≤ (asSecsF64 duration).units := Binary64.units_add_mono
          (Binary64.units_ofNat_mono (Nat.zero_le _))
          (Binary64.units_div_mono (Binary64.units_ofNat_mono nanos) (Nat.le_refl _) divisorPos)
  · calc (Binary64.ofFraction 1 (2 ^ 30)).units
        ≤ (Binary64.add (.ofNat 1) (.div (.ofNat 0) (.ofNat nanosPerSec))).units := by
          decide +kernel
      _ ≤ (asSecsF64 duration).units := Binary64.units_add_mono
          (Binary64.units_ofNat_mono long)
          (Binary64.units_div_mono (Binary64.units_ofNat_mono (Nat.zero_le _)) (Nat.le_refl _)
            divisorPos)

end Duration

namespace ScheduledStep

variable {count : UInt32} {duration : Duration}

theorem ratePerSec_eq (countPos : 0 < count) (durationPos : 0 < duration) :
    ratePerSec count duration =
      Binary64.div (.ofNat count.toNat) (Duration.asSecsF64 duration) := by
  apply if_neg
  rintro (rfl | rfl)
  · exact absurd countPos (by decide)
  · exact absurd durationPos (by decide)

theorem ratePerSec_not_isPositive (zero : ¬(0 < count ∧ 0 < duration)) :
    ¬(ratePerSec count duration).isPositive = true := by
  have noRate : ratePerSec count duration = ⟨0⟩ := by
    apply if_pos
    by_contra nonzero
    obtain ⟨countNonzero, durationNonzero⟩ := not_or.mp nonzero
    exact zero ⟨UInt32.pos_iff_ne_zero.mpr countNonzero, Nat.pos_of_ne_zero durationNonzero⟩
  rw [noRate]
  decide

/-- Neither the shortest duration nor a rate or a mean gap at the ends of its range
underflows. -/
theorem units_extremes_pos :
    0 < (Binary64.ofFraction 1 (2 ^ 30)).units ∧
      0 < (Binary64.div (.ofNat 1) (.add (.ofNat (2 ^ 64)) (.ofNat 1))).units ∧
        0 < (Binary64.div (.ofNat 1) (.div (.ofNat (2 ^ 32)) (.ofFraction 1 (2 ^ 30)))).units := by
  decide +kernel

theorem le_units_ratePerSec (countPos : 0 < count) (durationPos : 0 < duration) {whole : Nat}
    (le : duration ≤ Duration.fromSecs whole) :
    (Binary64.div (.ofNat 1) (.add (.ofNat whole) (.ofNat 1))).units ≤
      (ratePerSec count duration).units := by
  have divisorPos : 0 < (Duration.asSecsF64 duration).units :=
    units_extremes_pos.1.trans_le (Duration.le_units_asSecsF64 durationPos)
  have one : 1 ≤ count.toNat := UInt32.lt_iff_toNat_lt.mp countPos
  rw [ratePerSec_eq countPos durationPos]
  exact Binary64.units_div_mono (Binary64.units_ofNat_mono one) (Duration.units_asSecsF64_le le)
    divisorPos

theorem units_ratePerSec_le (durationPos : 0 < duration) :
    (ratePerSec count duration).units ≤
      (Binary64.div (.ofNat (2 ^ 32)) (.ofFraction 1 (2 ^ 30))).units := by
  unfold ratePerSec
  split_ifs
  · exact Nat.zero_le _
  · exact Binary64.units_div_mono (Binary64.units_ofNat_mono count.toNat_lt.le)
      (Duration.le_units_asSecsF64 durationPos) units_extremes_pos.1

theorem units_ratePerSec_pos (countPos : 0 < count) (durationPos : 0 < duration)
    (fits : duration ≤ Duration.limit) : 0 < (ratePerSec count duration).units :=
  units_extremes_pos.2.1.trans_le (le_units_ratePerSec countPos durationPos fits)

/-- No load is lost where a step has a length. -/
theorem ratePerSec_isPositive_iff (fits : duration ≤ Duration.limit) :
    (ratePerSec count duration).isPositive = true ↔ 0 < count ∧ 0 < duration := by
  constructor
  · intro positive
    by_contra zero
    exact ratePerSec_not_isPositive zero positive
  · rintro ⟨countPos, durationPos⟩
    have unitsPos := units_ratePerSec_pos countPos durationPos fits
    rw [ratePerSec_eq countPos durationPos] at unitsPos ⊢
    exact Binary64.isPositive_ofFraction_iff.mpr unitsPos

/-- The mean gap of a rate does not underflow. -/
theorem units_mean_pos (countPos : 0 < count) (durationPos : 0 < duration)
    (fits : duration ≤ Duration.limit) :
    0 < (Binary64.div (.ofNat 1) (ratePerSec count duration)).units :=
  units_extremes_pos.2.2.trans_le
    (Binary64.units_div_mono (Nat.le_refl _) (units_ratePerSec_le durationPos)
      (units_ratePerSec_pos countPos durationPos fits))

theorem hasMean_ratePerSec (countPos : 0 < count) (durationPos : 0 < duration)
    (fits : duration ≤ Duration.limit) : HasMean (ratePerSec count duration) :=
  Binary64.le_zero_eq_false (Binary64.ofFraction_isNegative _ _)
    (units_mean_pos countPos durationPos fits)

end ScheduledStep

/-! ## Gaps -/

/-- The largest number that is drawn. -/
def topValue : Binary64 := .ofFraction (2 ^ 53 - 1) (2 ^ 53)

theorem Random.le_top (random : Random) :
    random.val * 2 ^ 53 ≤ (2 ^ 53 - 1) * 2 ^ 53 :=
  Nat.mul_le_mul_right _ (Nat.le_sub_one_of_lt random.isLt)

/-- How far `epsilon` and the largest number are from zero and from one. -/
theorem units_epsilon_topValue :
    (epsilon.isFinite = true ∧ topValue.isFinite = true ∧ epsilon.units ≤ topValue.units) ∧
      2 ^ Binary64.unitExponent ≤ (Binary64.sub (.ofNat 1) topValue).units * 2 ^ 53 ∧
        (Binary64.sub (.ofNat 1) epsilon).units < 2 ^ Binary64.unitExponent := by
  decide +kernel

theorem max_bounds (random : Random) :
    epsilon.units ≤ (Binary64.max random.value epsilon).units ∧
      (Binary64.max random.value epsilon).units ≤ topValue.units := by
  have top : random.value.units ≤ topValue.units :=
    Binary64.units_ofFraction_mono (Nat.two_pow_pos 53) (Nat.two_pow_pos 53) random.le_top
  have finite : random.value.isFinite = true :=
    Binary64.isFinite_ofFraction_of_le (Nat.two_pow_pos 53) (Nat.two_pow_pos 53) random.le_top
      units_epsilon_topValue.1.2.1
  have order := Binary64.le_iff finite (Binary64.ofFraction_isNegative _ _)
    units_epsilon_topValue.1.1 (Binary64.ofFraction_isNegative _ _)
  unfold Binary64.max
  split_ifs with small
  · exact ⟨Nat.le_refl _, units_epsilon_topValue.1.2.2⟩
  · exact ⟨Nat.le_of_not_le (mt order.mpr small), top⟩

/-- The logarithm is taken between `2 ^ -53` and one. -/
theorem uniform_bounds (random : Random) :
    2 ^ Binary64.unitExponent ≤ (uniform random).units * 2 ^ 53 ∧
      (uniform random).units < 2 ^ Binary64.unitExponent := by
  obtain ⟨lower, upper⟩ := max_bounds random
  constructor
  · calc 2 ^ Binary64.unitExponent
        ≤ (Binary64.sub (.ofNat 1) topValue).units * 2 ^ 53 := units_epsilon_topValue.2.1
      _ ≤ (uniform random).units * 2 ^ 53 :=
          Nat.mul_le_mul_right _ (Binary64.units_sub_mono (Nat.le_refl _) upper)
  · calc (uniform random).units
        ≤ (Binary64.sub (.ofNat 1) epsilon).units :=
          Binary64.units_sub_mono (Nat.le_refl _) lower
      _ < 2 ^ Binary64.unitExponent := units_epsilon_topValue.2.2

/-- The longest gap at a rate, for any logarithm. -/
def longestGap (rate : Binary64) : Binary64 :=
  .div (.ofNat 37) (.div (.ofNat 1) (.div (.ofNat 1) rate))

/-- A gap is at most as long as the longest one at a smaller rate. -/
theorem gap_le_longestGap {log : Logarithm} {rate slow : Binary64} {gap : Duration}
    (member : gap ∈ gapsOf log rate) (slower : slow.units ≤ rate.units) (slowPos : 0 < slow.units)
    (meanPos : 0 < (Binary64.div (.ofNat 1) rate).units)
    (lambdaPos : 0 < (Binary64.div (.ofNat 1) (.div (.ofNat 1) slow)).units) :
    gap ≤ Duration.nearest (longestGap slow) := by
  obtain ⟨random, secs, drawn, rfl⟩ := member
  obtain ⟨lower, upper⟩ := uniform_bounds random
  have logarithm : (Binary64.neg (log.ln (uniform random))).units ≤ (Binary64.ofNat 37).units := by
    rw [Binary64.units_neg, Binary64.units_ofNat (by decide)]
    exact log.bounded _ (Binary64.ofFraction_isNegative _ _) lower upper
  have means := Binary64.units_div_mono (Nat.le_refl (Binary64.ofNat 1).units) slower slowPos
  have lambdas := Binary64.units_div_mono (Nat.le_refl (Binary64.ofNat 1).units) means meanPos
  rw [sampleExponential] at drawn
  split_ifs at drawn
  cases drawn
  exact Duration.nearest_mono (Binary64.units_div_mono logarithm lambdas lambdaPos)

/-- Bounded gaps fit after bounded deadlines. -/
theorem hasRoom_of_bounds {log : Logarithm} {last longest start : Duration}
    {steps : List ScheduledStep} (fits : last + longest ≤ Duration.limit)
    (bounds : ∀ step ∈ steps, step.deadline ≤ last ∧
      (step.rate.isPositive = true → ∀ gap ∈ gapsOf log step.rate, gap ≤ longest)) :
    HasRoom log start steps := by
  induction steps generalizing start with
  | nil => trivial
  | cons step steps ih =>
      obtain ⟨⟨deadline, short⟩, following⟩ := List.forall_mem_cons.mp bounds
      refine ⟨fun positive gaps _ before gap member => ?_, fun _ => ih following⟩
      calc start + gaps.sum + gap
          < last + longest :=
            Nat.add_lt_add_of_lt_of_le (before.trans_le deadline) (short positive gap member)
        _ ≤ Duration.limit := fits

end CreoBench
