import CreoBench.ArrivalRuns
import CreoBench.Library.Binary64Order
import Mathlib.Data.Stream.Init

/-!
# Drawing the gaps

The gaps of an arrival schedule are drawn here from the numbers that a random
number generator yields, with the conversions and additions that panic when a
duration does not fit.  A schedule goes on without a panic exactly if there is
room for one more gap behind all arrivals of each step that is reached.
-/

namespace CreoBench

namespace Duration

/-- All durations are below `2 ^ 64` seconds. -/
def limit : Duration := fromSecs (2 ^ 64)

/-- `Duration + Duration`; `none` where it panics. -/
def plus (first second : Duration) : Option Duration :=
  if first + second < limit then some (first + second) else none

/-- The nanosecond that is nearest to a number of seconds. -/
def nearest (secs : Binary64) : Duration :=
  Binary64.roundHalfEven (secs.numerator * nanosPerSec) secs.denominator

theorem plus_eq_some_iff {first second sum : Duration} :
    plus first second = some sum ↔ first + second < limit ∧ first + second = sum := by
  simp [plus]

theorem nearest_mono {first second : Binary64} (le : first.units ≤ second.units) :
    nearest first ≤ nearest second :=
  Binary64.roundHalfEven_mul_mono nanosPerSec le

/-- Seconds that do not fit into a duration do not fit after rounding either. -/
theorem limit_le_nearest {secs : Binary64} (large : 2 ^ 64 * secs.denominator ≤ secs.numerator) :
    limit ≤ nearest secs := by
  have whole : Binary64.roundHalfEven limit 1 = limit := by
    simpa using Binary64.roundHalfEven_mul_left Nat.one_pos limit
  rw [← whole]
  apply Binary64.roundHalfEven_mono Nat.one_pos (Binary64.denominator_pos _)
  calc limit * secs.denominator = 2 ^ 64 * secs.denominator * nanosPerSec := by
        rw [limit, fromSecs]
        ring
    _ ≤ secs.numerator * nanosPerSec * 1 := by
        rw [Nat.mul_one]
        exact Nat.mul_le_mul_right _ large

theorem fromSecsF64_eq_some_iff {secs : Binary64} (sign : secs.isNegative = false)
    {duration : Duration} : fromSecsF64 secs = some duration ↔
      secs.numerator < 2 ^ 64 * secs.denominator ∧ nearest secs = duration := by
  have infinite : secs.isFinite = false → 2 ^ 64 * secs.denominator ≤ secs.numerator := by
    intro notFinite
    have exponent : secs.exponentField = 2047 := by simpa [Binary64.isFinite] using notFinite
    have significand : 1 ≤ secs.significand := by
      rw [Binary64.significand, exponent, if_neg (by decide)]
      omega
    have rightShift : 1075 - max 1 2047 = 0 := rfl
    have leftShift : 64 ≤ max 1 2047 - 1075 := by decide
    rw [Binary64.denominator, Binary64.numerator, exponent, rightShift, pow_zero, Nat.mul_one]
    exact (Nat.pow_le_pow_right (by decide) leftShift).trans (Nat.le_mul_of_pos_left _ significand)
  rw [fromSecsF64, if_neg (by simp [sign])]
  cases finite : secs.isFinite with
  | false =>
      rw [if_pos (by simp)]
      constructor
      · rintro ⟨⟩
      · rintro ⟨small, -⟩
        exact absurd small (Nat.not_lt.mpr (infinite finite))
  | true => simp [nearest]

end Duration

/-- `rng.random::<f64>()`, a multiple of `2 ^ -53` below one. -/
abbrev Random := Fin (2 ^ 53)

namespace Random

def value (random : Random) : Binary64 := .ofFraction random.val (2 ^ 53)

end Random

/-- `f64::EPSILON` -/
def epsilon : Binary64 := .ofFraction 1 (2 ^ 52)

/-- `f64::ln` between zero and one.  Its precision is not specified; the logarithm of `2 ^ -53`
is about `-36.7`. -/
structure Logarithm where
  ln : Binary64 → Binary64
  negative : ∀ u : Binary64, u.isNegative = false → 0 < u.units →
    u.units < 2 ^ Binary64.unitExponent →
      (ln u).isNegative = true ∧ (ln u).isFinite = true ∧ 0 < (ln u).units
  bounded : ∀ u : Binary64, u.isNegative = false →
    2 ^ Binary64.unitExponent ≤ u.units * 2 ^ 53 → u.units < 2 ^ Binary64.unitExponent →
      (ln u).units ≤ 37 * 2 ^ Binary64.unitExponent

/-- The number in `(0.0, 1.0)` whose logarithm is taken. -/
def uniform (random : Random) : Binary64 :=
  .sub (.ofNat 1) (.max random.value epsilon)

/-- `none` where it panics. -/
def sampleExponential (log : Logarithm) (mean : Binary64) (random : Random) : Option Binary64 :=
  if mean.le ⟨0⟩ then none
  else
    let lambda := Binary64.div (.ofNat 1) mean
    some (.div (.neg (log.ln (uniform random))) lambda)

/-- The gap of a step with this rate. -/
def sampleGap (log : Logarithm) (rate : Binary64) (random : Random) : Option Duration :=
  (sampleExponential log (.div (.ofNat 1) rate) random).bind Duration.fromSecsF64

namespace ArrivalSchedule

/-- The schedule of the steps that begin at `clock`. -/
def starting (clock : Duration) (steps : List ScheduledStep) : ArrivalSchedule :=
  ⟨steps.tail, steps.head?, clock⟩

/-- Induction on the steps that are left. -/
theorem rounds_induction {motive : ArrivalSchedule → Prop}
    (exhausted : ∀ steps clock, motive ⟨steps, none, clock⟩)
    (round : ∀ step clock following, motive (starting (max clock step.deadline) following) →
      motive ⟨following, some step, clock⟩) (schedule : ArrivalSchedule) : motive schedule := by
  obtain ⟨following, current, clock⟩ := schedule
  cases current with
  | none => exact exhausted following clock
  | some step =>
      induction following generalizing step clock with
      | nil => exact round step clock [] (exhausted [] _)
      | cons later following ih => exact round step clock (later :: following) (ih _ later)

section

variable {step : ScheduledStep} (clock : Duration) (following : List ScheduledStep)

/-- One round of the loop, and then the loop from there. -/
theorem next_eq (gaps : List Duration) :
    next ⟨following, some step, clock⟩ gaps =
      match candidate step clock gaps with
      | none => none
      | some (some offset, _) =>
          some (some ⟨offset, step.index⟩, ⟨following, some step, offset⟩)
      | some (none, rest) => next (starting (max clock step.deadline) following) rest := by
  rw [next]
  dsimp only
  unfold nextFrom
  cases following <;> rfl

theorem next_of_not_isPositive (noRate : ¬step.rate.isPositive = true) (gaps : List Duration) :
    next ⟨following, some step, clock⟩ gaps =
      next (starting (max clock step.deadline) following) gaps := by
  rw [next_eq, candidate_of_not_isPositive _ _ noRate]

theorem next_nil (positive : step.rate.isPositive = true) :
    next ⟨following, some step, clock⟩ [] = none := by
  rw [next_eq, candidate, if_pos positive]

theorem next_cons (positive : step.rate.isPositive = true) (gap : Duration)
    (gaps : List Duration) :
    next ⟨following, some step, clock⟩ (gap :: gaps) =
      if clock + gap < step.deadline then
        some (some ⟨clock + gap, step.index⟩, ⟨following, some step, clock + gap⟩)
      else next (starting (max clock step.deadline) following) gaps := by
  rw [next_eq, candidate_cons _ _ _ positive]
  split_ifs <;> rfl

end

end ArrivalSchedule

/-- An arrival schedule with its random number generator, given by the numbers it yields. -/
structure SampledSchedule where
  schedule : ArrivalSchedule
  rng : Stream' Random

namespace SampledSchedule

variable (log : Logarithm)

/-- One round of the loop in `next`: the next arrival if it falls before the deadline.  `none`
where it panics. -/
def candidate (step : ScheduledStep) (clock : Duration) (rng : Stream' Random) :
    Option (Option Duration × Stream' Random) :=
  if step.rate.isPositive then
    ((sampleGap log step.rate rng.head).bind clock.plus).map fun candidate =>
      (if candidate < step.deadline then some candidate else none, rng.tail)
  else some (none, rng)

/-- The loop of `next` from the current step on. -/
def nextFrom (step : ScheduledStep) (clock : Duration) (following : List ScheduledStep)
    (rng : Stream' Random) : Option (Option Arrival × SampledSchedule) :=
  match candidate log step clock rng with
  | none => none
  | some (some offset, rng) =>
      some (some ⟨offset, step.index⟩, ⟨⟨following, some step, offset⟩, rng⟩)
  | some (none, rng) =>
      match following with
      | [] => some (none, ⟨⟨[], none, max clock step.deadline⟩, rng⟩)
      | later :: following => nextFrom later (max clock step.deadline) following rng

def next (sampled : SampledSchedule) : Option (Option Arrival × SampledSchedule) :=
  match sampled.schedule.current with
  | none => some (none, sampled)
  | some step => nextFrom log step sampled.schedule.clock sampled.schedule.steps sampled.rng

/-- What the first calls of `next` return. -/
def iterate : Nat → SampledSchedule → Option (List (Option Arrival) × SampledSchedule)
  | 0, sampled => some ([], sampled)
  | calls + 1, sampled => do
      let (arrival, sampled) ← sampled.next log
      let (arrivals, sampled) ← iterate calls sampled
      return (arrival :: arrivals, sampled)

variable {log}

theorem candidate_of_not_isPositive {step : ScheduledStep} (clock : Duration)
    (rng : Stream' Random) (noRate : ¬step.rate.isPositive = true) :
    candidate log step clock rng = some (none, rng) := if_neg noRate

theorem candidate_eq_some_iff {step : ScheduledStep} {clock : Duration} {rng rest : Stream' Random}
    {offset : Option Duration} (positive : step.rate.isPositive = true) :
    candidate log step clock rng = some (offset, rest) ↔
      ∃ gap, sampleGap log step.rate rng.head = some gap ∧ clock + gap < Duration.limit ∧
        (if clock + gap < step.deadline then some (clock + gap) else none) = offset ∧
          rng.tail = rest := by
  rw [candidate, if_pos positive]
  constructor
  · intro drawn
    obtain ⟨sum, sumEq, sumRest⟩ := Option.map_eq_some_iff.mp drawn
    obtain ⟨gap, gapEq, added⟩ := Option.bind_eq_some_iff.mp sumEq
    obtain ⟨fits, rfl⟩ := Duration.plus_eq_some_iff.mp added
    exact ⟨gap, gapEq, fits, congrArg Prod.fst sumRest, congrArg Prod.snd sumRest⟩
  · rintro ⟨gap, gapEq, fits, rfl, rfl⟩
    rw [gapEq, Option.bind_some, Duration.plus, if_pos fits, Option.map_some]

/-- One round of the loop, and then the loop from there. -/
theorem next_eq (step : ScheduledStep) (clock : Duration) (following : List ScheduledStep)
    (rng : Stream' Random) :
    next log ⟨⟨following, some step, clock⟩, rng⟩ =
      match candidate log step clock rng with
      | none => none
      | some (some offset, rng) =>
          some (some ⟨offset, step.index⟩, ⟨⟨following, some step, offset⟩, rng⟩)
      | some (none, rng) => next log ⟨.starting (max clock step.deadline) following, rng⟩ := by
  rw [next]
  dsimp only
  unfold nextFrom
  cases following <;> rfl

theorem next_of_not_isPositive {step : ScheduledStep} (clock : Duration)
    (following : List ScheduledStep) (noRate : ¬step.rate.isPositive = true)
    (rng : Stream' Random) :
    next log ⟨⟨following, some step, clock⟩, rng⟩ =
      next log ⟨.starting (max clock step.deadline) following, rng⟩ := by
  rw [next_eq, candidate_of_not_isPositive _ _ noRate]

theorem next_eq_some_iff {step : ScheduledStep} {clock : Duration}
    {following : List ScheduledStep} {rng : Stream' Random} {arrival : Option Arrival}
    {sampled : SampledSchedule} (positive : step.rate.isPositive = true) :
    next log ⟨⟨following, some step, clock⟩, rng⟩ = some (arrival, sampled) ↔
      ∃ gap, sampleGap log step.rate rng.head = some gap ∧ clock + gap < Duration.limit ∧
        if clock + gap < step.deadline then
          (some ⟨clock + gap, step.index⟩, ⟨⟨following, some step, clock + gap⟩, rng.tail⟩) =
            (arrival, sampled)
        else
          next log ⟨.starting (max clock step.deadline) following, rng.tail⟩ =
            some (arrival, sampled) := by
  rw [next_eq]
  constructor
  · intro called
    cases drawn : candidate log step clock rng with
    | none =>
        rw [drawn] at called
        cases called
    | some result =>
        obtain ⟨offset, rest⟩ := result
        obtain ⟨gap, gapEq, fits, rfl, rfl⟩ := (candidate_eq_some_iff positive).mp drawn
        refine ⟨gap, gapEq, fits, ?_⟩
        rw [drawn] at called
        split_ifs with before
        · rw [if_pos before] at called
          exact Option.some.inj called
        · rw [if_neg before] at called
          exact called
  · rintro ⟨gap, gapEq, fits, result⟩
    have drawn : candidate log step clock rng =
        some (if clock + gap < step.deadline then some (clock + gap) else none, rng.tail) :=
      (candidate_eq_some_iff positive).mpr ⟨gap, gapEq, fits, rfl, rfl⟩
    rw [drawn]
    split_ifs at result with before
    · rw [if_pos before, ← result]
    · rw [if_neg before]
      exact result

/-- A call that returns has drawn the gaps that it needs. -/
theorem next_gaps {schedule : ArrivalSchedule} {rng : Stream' Random} {arrival : Option Arrival}
    {sampled : SampledSchedule} (called : next log ⟨schedule, rng⟩ = some (arrival, sampled)) :
    ∃ gaps, schedule.next gaps = some (arrival, sampled.schedule) ∧
      (gaps = [] ∨ schedule.next gaps.dropLast = none) := by
  induction schedule using ArrivalSchedule.rounds_induction generalizing rng with
  | exhausted steps clock =>
      cases called
      exact ⟨[], rfl, .inl rfl⟩
  | round step clock following ih =>
      by_cases positive : step.rate.isPositive = true
      · obtain ⟨gap, -, -, result⟩ := (next_eq_some_iff positive).mp called
        by_cases before : clock + gap < step.deadline
        · rw [if_pos before] at result
          cases result
          refine ⟨[gap], ?_, .inr (ArrivalSchedule.next_nil clock following positive)⟩
          rw [ArrivalSchedule.next_cons clock following positive, if_pos before]
        · rw [if_neg before] at result
          obtain ⟨gaps, left, fewest⟩ := ih result
          refine ⟨gap :: gaps, ?_, .inr ?_⟩
          · rw [ArrivalSchedule.next_cons clock following positive, if_neg before]
            exact left
          · by_cases more : gaps = []
            · rw [more]
              exact ArrivalSchedule.next_nil clock following positive
            · rw [List.dropLast_cons_of_ne_nil more,
                ArrivalSchedule.next_cons clock following positive, if_neg before]
              exact fewest.resolve_left more
      · rw [next_of_not_isPositive clock following positive] at called
        obtain ⟨gaps, left⟩ := ih called
        refine ⟨gaps, ?_⟩
        rw [ArrivalSchedule.next_of_not_isPositive clock following positive,
          ArrivalSchedule.next_of_not_isPositive clock following positive]
        exact left

theorem iterate_succ_eq_some_iff {calls : Nat} {sampled : SampledSchedule}
    {result : List (Option Arrival) × SampledSchedule} :
    iterate log (calls + 1) sampled = some result ↔
      ∃ arrival next' arrivals final, sampled.next log = some (arrival, next') ∧
        iterate log calls next' = some (arrivals, final) ∧
          (arrival :: arrivals, final) = result := by
  simp [iterate, Option.bind_eq_some_iff]

/-- Sampled schedules are runs of a schedule. -/
theorem reachable_of_iterate {steps : List ScheduledStep} {run : ScheduleRun}
    (reachable : (ScheduleRun.machine steps).Reachable run) {rng : Stream' Random} {calls : Nat}
    {arrivals : List (Option Arrival)} {final : SampledSchedule}
    (iterated : iterate log calls ⟨run.schedule, rng⟩ = some (arrivals, final)) :
    ∃ run', (ScheduleRun.machine steps).Reachable run' ∧ run'.schedule = final.schedule ∧
      run'.results = run.results ++ arrivals := by
  induction calls generalizing run rng arrivals with
  | zero =>
      cases iterated
      exact ⟨run, reachable, rfl, (List.append_nil _).symm⟩
  | succ calls ih =>
      obtain ⟨arrival, ⟨schedule, rng'⟩, later, final', called, iterated', same⟩ :=
        iterate_succ_eq_some_iff.mp iterated
      cases same
      obtain ⟨gaps, next, fewest⟩ := next_gaps called
      have stepped : (ScheduleRun.machine steps).step run gaps =
          some ⟨schedule, run.results ++ [arrival], run.drawn ++ gaps⟩ := by
        simp only [ScheduleRun.machine, if_pos fewest, next, Option.map_some]
      obtain ⟨run', reachable', scheduleEq, results⟩ :=
        ih (reachable.step trivial stepped) iterated'
      refine ⟨run', reachable', scheduleEq, ?_⟩
      rw [results, List.append_assoc, List.singleton_append]

end SampledSchedule

end CreoBench
