import CreoBench.NaturalLogarithm
import CreoBench.ProfileConfig
import CreoBench.RateBounds

/-!
# Executing accepted load profiles

The checks of a load profile compare seconds, and its schedule is made of
nanoseconds.  A generator can execute its share without a panic and without
losing load exactly if all deadlines are durations, deadlines stay apart after
rounding wherever there is load, and there is room for the gaps that are drawn.
-/

namespace CreoBench

/-- A load interval, from the previous deadline to the deadline of its step, in nanoseconds. -/
structure LoadInterval where
  index : Nat
  start : Duration
  stop : Duration
  count : UInt32

namespace LoadInterval

def rate (interval : LoadInterval) : Binary64 :=
  ScheduledStep.ratePerSec interval.count (interval.stop - interval.start)

def step (interval : LoadInterval) : ScheduledStep :=
  ⟨interval.index, interval.stop, interval.rate⟩

end LoadInterval

/-- The intervals from the deadline `start` on. -/
def intervalsFrom (index : Nat) (start : Duration) : List LoadStepConfig → List LoadInterval
  | [] => []
  | step :: steps =>
      ⟨index, start, Duration.nearest step.deadline, step.count⟩ ::
        intervalsFrom (index + 1) (Duration.nearest step.deadline) steps

/-- Seconds that fit into a duration. -/
def InRange (secs : Binary64) : Prop := secs.numerator < 2 ^ 64 * secs.denominator

/-- The shares that can be executed without losing load. -/
structure LoadProfileConfig.Executable (log : Logarithm) (share : LoadProfileConfig) : Prop where
  inRange : ∀ step ∈ share.steps, InRange step.deadline
  lengths : ∀ interval ∈ intervalsFrom 0 0 share.steps, 0 < interval.count →
    interval.start < interval.stop
  room : HasRoom log 0 ((intervalsFrom 0 0 share.steps).map (·.step))

/-- Nothing panics, and every step with a positive count has a positive rate. -/
def LoadProfile.Executes (log : Logarithm) (profile : LoadProfile) : Prop :=
  ∃ steps, ScheduledStep.fromProfile profile = some steps ∧
    SampledSchedule.NeverPanics log (.new steps) ∧
      ∀ pair ∈ profile.steps.zip steps, 0 < pair.1.count → pair.2.rate.isPositive = true

/-! ## Intervals -/

/-- Deadlines that increase from `start` on. -/
structure Ascending (start : Duration) (steps : List LoadStepConfig) : Prop where
  nonNegative : ∀ step ∈ steps, step.deadline.isNegative = false
  later : ∀ step ∈ steps, start ≤ Duration.nearest step.deadline
  increasing : steps.Pairwise fun first second => first.deadline.units < second.deadline.units

theorem Ascending.tail {start : Duration} {step : LoadStepConfig} {steps : List LoadStepConfig}
    (ascending : Ascending start (step :: steps)) :
    Ascending (Duration.nearest step.deadline) steps := by
  obtain ⟨increasing, following⟩ := List.pairwise_cons.mp ascending.increasing
  constructor
  · exact fun other member => ascending.nonNegative other (List.mem_cons_of_mem _ member)
  · exact fun other member => Duration.nearest_mono (increasing other member).le
  · exact following

section

variable {index : Nat} {start : Duration} {steps : List LoadStepConfig}

/-- The conversion of a profile panics exactly if a deadline is no duration. -/
theorem fromSteps_eq_some_iff_intervals (ascending : Ascending start steps)
    {scheduled : List ScheduledStep} :
    ScheduledStep.fromSteps index start
        (steps.map fun step => ⟨⟨step.deadline⟩, step.count⟩) = some scheduled ↔
      (∀ step ∈ steps, InRange step.deadline) ∧
        (intervalsFrom index start steps).map (·.step) = scheduled := by
  induction steps generalizing index start scheduled with
  | nil => simp [ScheduledStep.fromSteps, intervalsFrom]
  | cons step steps ih =>
      have sign := ascending.nonNegative step List.mem_cons_self
      have later := ascending.later step List.mem_cons_self
      simp only [List.map_cons, ScheduledStep.fromSteps, Option.bind_eq_bind,
        Option.bind_eq_some_iff, Duration.fromSecsF64_eq_some_iff sign, Option.pure_def,
        Option.some.injEq, intervalsFrom, List.forall_mem_cons]
      constructor
      · rintro ⟨_, ⟨inRange, rfl⟩, following, followingEq, rfl⟩
        rw [Nat.max_eq_right later] at followingEq
        obtain ⟨allInRange, rfl⟩ := (ih ascending.tail).mp followingEq
        exact ⟨⟨inRange, allInRange⟩, rfl⟩
      · rintro ⟨⟨inRange, allInRange⟩, rfl⟩
        refine ⟨_, ⟨inRange, rfl⟩, _, ?_, rfl⟩
        rw [Nat.max_eq_right later]
        exact (ih ascending.tail).mpr ⟨allInRange, rfl⟩

/-- Intervals end no later than the whole second that bounds all deadlines. -/
theorem stop_le_fromSecs {whole : Nat}
    (bounds : ∀ step ∈ steps, step.deadline.numerator ≤ whole * step.deadline.denominator) :
    ∀ interval ∈ intervalsFrom index start steps, interval.stop ≤ Duration.fromSecs whole := by
  induction steps generalizing index start with
  | nil => simp [intervalsFrom]
  | cons step steps ih =>
      obtain ⟨first, following⟩ := List.forall_mem_cons.mp bounds
      exact List.forall_mem_cons.mpr ⟨Duration.nearest_le_fromSecs first, ih following⟩

theorem stop_le_limit (inRange : ∀ step ∈ steps, InRange step.deadline) :
    ∀ interval ∈ intervalsFrom index start steps, interval.stop ≤ Duration.limit :=
  stop_le_fromSecs fun step member => (inRange step member).le

/-- An interval has a rate if it has a count and a length. -/
theorem LoadInterval.rate_isPositive_iff {interval : LoadInterval}
    (fits : interval.stop ≤ Duration.limit) :
    interval.rate.isPositive = true ↔ 0 < interval.count ∧ interval.start < interval.stop := by
  rw [rate, ScheduledStep.ratePerSec_isPositive_iff ((Nat.sub_le _ _).trans fits),
    Nat.sub_pos_iff_lt]

theorem proper_intervals (ascending : Ascending start steps)
    (inRange : ∀ step ∈ steps, InRange step.deadline) :
    Proper start ((intervalsFrom index start steps).map (·.step)) := by
  induction steps generalizing index start with
  | nil => trivial
  | cons step steps ih =>
      obtain ⟨first, following⟩ := List.forall_mem_cons.mp inRange
      have fits : Duration.nearest step.deadline ≤ Duration.limit :=
        Duration.nearest_le_fromSecs first.le
      refine ⟨ascending.later step List.mem_cons_self, fun positive => ?_,
        ih ascending.tail following⟩
      obtain ⟨countPos, hasLength⟩ := (LoadInterval.rate_isPositive_iff fits).mp positive
      exact ⟨hasLength, ScheduledStep.hasMean_ratePerSec countPos (Nat.sub_pos_of_lt hasLength)
        ((Nat.sub_le _ _).trans fits)⟩

theorem rates_intervals :
    (∀ pair ∈ (steps.map fun step => (⟨⟨step.deadline⟩, step.count⟩ : LoadStep)).zip
        ((intervalsFrom index start steps).map (·.step)),
      0 < pair.1.count → pair.2.rate.isPositive = true) ↔
    ∀ interval ∈ intervalsFrom index start steps,
      0 < interval.count → interval.rate.isPositive = true := by
  induction steps generalizing index start with
  | nil => simp [intervalsFrom]
  | cons step steps ih =>
      simp only [List.map_cons, intervalsFrom, List.zip_cons_cons, List.forall_mem_cons, ih]
      rfl

end

/-- A share of increasing deadlines is executed exactly if it is executable. -/
theorem executes_iff_executable {log : Logarithm} {share : LoadProfileConfig}
    (ascending : Ascending 0 share.steps) :
    (LoadProfile.ofConfig share).Executes log ↔ share.Executable log := by
  constructor
  · rintro ⟨steps, converted, safe, rates⟩
    obtain ⟨inRange, rfl⟩ := (fromSteps_eq_some_iff_intervals ascending).mp converted
    constructor
    · exact inRange
    · intro interval member countPos
      have positive := rates_intervals.mp rates interval member countPos
      exact ((LoadInterval.rate_isPositive_iff (stop_le_limit inRange _ member)).mp positive).2
    · exact (SampledSchedule.neverPanics_iff_hasRoom (proper_intervals ascending inRange)).mp safe
  · rintro ⟨inRange, lengths, room⟩
    refine ⟨_, (fromSteps_eq_some_iff_intervals ascending).mpr ⟨inRange, rfl⟩, ?_, ?_⟩
    · exact (SampledSchedule.neverPanics_iff_hasRoom (proper_intervals ascending inRange)).mpr room
    · refine rates_intervals.mpr fun interval member countPos => ?_
      exact (LoadInterval.rate_isPositive_iff (stop_le_limit inRange _ member)).mpr
        ⟨countPos, lengths interval member countPos⟩

/-- Up to `2 ^ 58` seconds there is always room. -/
theorem executable_of_lengths {log : Logarithm} {share : LoadProfileConfig}
    (bounds : ∀ step ∈ share.steps,
      step.deadline.numerator ≤ 2 ^ 58 * step.deadline.denominator)
    (lengths : ∀ interval ∈ intervalsFrom 0 0 share.steps, 0 < interval.count →
      interval.start < interval.stop) : share.Executable log := by
  have fits : Duration.fromSecs (2 ^ 58) ≤ Duration.limit := by decide
  constructor
  · intro step member
    exact (bounds step member).trans_lt
      (Nat.mul_lt_mul_of_pos_right (by decide) (Binary64.denominator_pos _))
  · exact lengths
  · apply hasRoom_of_bounds
      (by decide : Duration.fromSecs (2 ^ 58) + Duration.fromSecs (37 * 2 ^ 58) ≤ Duration.limit)
    intro step member
    obtain ⟨interval, inside, rfl⟩ := List.mem_map.mp member
    have stop := stop_le_fromSecs bounds interval inside
    refine ⟨stop, fun positive gap drawn => ?_⟩
    obtain ⟨countPos, hasLength⟩ :=
      (LoadInterval.rate_isPositive_iff (stop.trans fits)).mp positive
    have lengthPos := Nat.sub_pos_of_lt hasLength
    have length := (Nat.sub_le interval.stop interval.start).trans stop
    calc gap
        ≤ Duration.nearest (longestGap (.div (.ofNat 1) (.add (.ofNat (2 ^ 58)) (.ofNat 1)))) :=
          gap_le_longestGap drawn (ScheduledStep.le_units_ratePerSec countPos lengthPos length)
            (by decide +kernel)
            (ScheduledStep.units_mean_pos countPos lengthPos (length.trans fits))
            (by decide +kernel)
      _ ≤ Duration.fromSecs (37 * 2 ^ 58) := by decide +kernel

/-- The deadlines of a share are those of the profile. -/
theorem ascending_share {config share : LoadProfileConfig} (valid : config.Valid)
    {numGenerators : Nat} (member : share ∈ distributeProfile config numGenerators) :
    Ascending 0 share.steps := by
  obtain ⟨i, found⟩ := List.mem_iff_getElem?.mp member
  have within : i < numGenerators := by
    have bound := (List.getElem?_eq_some_iff.mp found).1
    rw [length_distributeProfile] at bound
    exact bound
  rw [distributeProfile_getElem? config within] at found
  cases found
  constructor
  · intro step inside
    obtain ⟨whole, wholeMem, rfl⟩ := List.mem_map.mp inside
    exact valid.nonNegative whole wholeMem
  · exact fun _ _ => Nat.zero_le _
  · exact List.pairwise_map.mpr valid.increasing

/-- The exact condition under which a share of an accepted profile is executed. -/
theorem accepted_executes_iff {E : Type} {reader : List UInt8 → List (Except E CsvRow)}
    {bytes : List UInt8} {config : LoadProfileConfig}
    (accepted : LoadProfileConfig.fromBytes reader bytes = .ok config) {numGenerators : Nat}
    {share : LoadProfileConfig} (member : share ∈ distributeProfile config numGenerators)
    (log : Logarithm) : (LoadProfile.ofConfig share).Executes log ↔ share.Executable log :=
  executes_iff_executable
    (ascending_share (LoadProfileConfig.fromBytes_eq_ok_iff.mp accepted).2 member)

/-- A reader that knows one file. -/
def readerOf (file : List UInt8) (rows : List CsvRow) (bytes : List UInt8) :
    List (Except Unit CsvRow) :=
  if bytes = file then rows.map .ok else []

theorem fromBytes_readerOf (file : List UInt8) {config : LoadProfileConfig}
    (valid : config.Valid) :
    LoadProfileConfig.fromBytes (readerOf file (config.steps.map (·.row))) file = .ok config := by
  refine LoadProfileConfig.fromBytes_eq_ok_iff.mpr ⟨?_, valid⟩
  rw [readerOf, if_pos rfl, List.map_map]
  rfl

def twoSteps : LoadProfileConfig :=
  ⟨[⟨.ofNat 30, 1000⟩, ⟨.ofFraction 121 2, 2000⟩]⟩

theorem twoSteps_valid : twoSteps.Valid := by
  constructor <;> decide +kernel

/-- Both generators execute their shares of a profile with load in every step. -/
theorem accepted_executes_iff_twoSteps :
    distributeProfile twoSteps 2 =
        [⟨[⟨.ofNat 30, 500⟩, ⟨.ofFraction 121 2, 1000⟩]⟩,
          ⟨[⟨.ofNat 30, 500⟩, ⟨.ofFraction 121 2, 1000⟩]⟩] ∧
      ∀ share ∈ distributeProfile twoSteps 2,
        (LoadProfile.ofConfig share).Executes naturalLogarithm := by
  refine ⟨rfl, fun share member => ?_⟩
  have accepted :=
    fromBytes_readerOf "deadline,count\n30.0,1000\n60.5,2000\n".toUTF8.toList twoSteps_valid
  apply (accepted_executes_iff accepted member naturalLogarithm).mpr
  apply executable_of_lengths
  · revert share
    decide +kernel
  · revert share
    decide +kernel

def zeroDeadline : LoadProfileConfig := ⟨[⟨⟨0⟩, 10⟩]⟩

theorem zeroDeadline_valid : zeroDeadline.Valid := by
  constructor <;> decide

/-- The ten transactions before a deadline of zero seconds are never sent. -/
theorem zero_deadline_loses_load :
    ¬ ∀ (reader : List UInt8 → List (Except Unit CsvRow)) (bytes : List UInt8)
      (config : LoadProfileConfig) (numGenerators : Nat) (share : LoadProfileConfig)
      (log : Logarithm), LoadProfileConfig.fromBytes reader bytes = .ok config →
        share ∈ distributeProfile config numGenerators →
          (LoadProfile.ofConfig share).Executes log := by
  intro always
  have accepted :=
    fromBytes_readerOf "deadline,count\n0.0,10\n".toUTF8.toList zeroDeadline_valid
  obtain ⟨steps, converted, -, rates⟩ :=
    always _ _ _ 1 zeroDeadline naturalLogarithm accepted (by decide)
  have noRate : ScheduledStep.fromProfile (LoadProfile.ofConfig zeroDeadline) =
      some [⟨0, 0, ⟨0⟩⟩] := by decide +kernel
  rw [noRate] at converted
  cases converted
  have positive := rates (⟨⟨⟨0⟩⟩, 10⟩, ⟨0, 0, ⟨0⟩⟩) (by decide) (by decide)
  exact absurd positive (by decide)

end CreoBench
