import CreoBench.ArrivalSampling
import Mathlib.Data.Set.Basic

/-!
# Room for the next gap

A schedule panics when the end of a gap is no longer a duration.  Which ends are
reached depends on the gaps that the rate of a step can yield: arrivals go on as
long as their sum falls short of the deadline, and a step whose gaps all round to
zero nanoseconds is never left.
-/

namespace CreoBench

/-- The gaps that a rate can yield, rounded to nanoseconds. -/
def gapsOf (log : Logarithm) (rate : Binary64) : Set Duration :=
  {gap | ∃ random secs, sampleExponential log (.div (.ofNat 1) rate) random = some secs ∧
    Duration.nearest secs = gap}

/-- After all arrivals that fall before the deadline, one more gap ends at a duration. -/
def StepRoom (log : Logarithm) (rate : Binary64) (start deadline : Duration) : Prop :=
  ∀ gaps : List Duration, (∀ gap ∈ gaps, gap ∈ gapsOf log rate) → start + gaps.sum < deadline →
    ∀ gap ∈ gapsOf log rate, start + gaps.sum + gap < Duration.limit

/-- Some gap takes at least a nanosecond. -/
def Passable (log : Logarithm) (rate : Binary64) : Prop :=
  ∃ gap ∈ gapsOf log rate, 0 < gap

/-- There is room in every step that is reached from `start` on. -/
def HasRoom (log : Logarithm) (start : Duration) : List ScheduledStep → Prop
  | [] => True
  | step :: steps =>
      (step.rate.isPositive = true → StepRoom log step.rate start step.deadline) ∧
        ((step.rate.isPositive = true → Passable log step.rate) →
          HasRoom log step.deadline steps)

/-- The mean gap of a rate is not zero. -/
def HasMean (rate : Binary64) : Prop := (Binary64.div (.ofNat 1) rate).le ⟨0⟩ = false

/-- Steps in the order of their deadlines, with a length wherever there is a rate. -/
def Proper (start : Duration) : List ScheduledStep → Prop
  | [] => True
  | step :: steps =>
      start ≤ step.deadline ∧
        (step.rate.isPositive = true → start < step.deadline ∧ HasMean step.rate) ∧
          Proper step.deadline steps

namespace SampledSchedule

variable {log : Logarithm}

/-- No call panics, whatever numbers are drawn. -/
def NeverPanics (log : Logarithm) (schedule : ArrivalSchedule) : Prop :=
  ∀ rng calls, iterate log calls ⟨schedule, rng⟩ ≠ none

theorem nearest_of_sampleGap {rate secs : Binary64} {random : Random} {gap : Duration}
    (drawn : sampleExponential log (.div (.ofNat 1) rate) random = some secs)
    (sampled : sampleGap log rate random = some gap) : Duration.nearest secs = gap := by
  rw [sampleGap, drawn, Option.bind_some] at sampled
  rw [sampleExponential] at drawn
  split_ifs at drawn
  cases drawn
  exact ((Duration.fromSecsF64_eq_some_iff (Binary64.ofFraction_isNegative _ _)).mp sampled).2

theorem mem_gapsOf_of_sampleGap {rate : Binary64} {random : Random} {gap : Duration}
    (sampled : sampleGap log rate random = some gap) : gap ∈ gapsOf log rate := by
  obtain ⟨secs, drawn, -⟩ := Option.bind_eq_some_iff.mp sampled
  exact ⟨random, secs, drawn, nearest_of_sampleGap drawn sampled⟩

/-- Where there is room for all gaps, drawing one does not panic. -/
theorem exists_sampleGap {rate : Binary64} {clock : Duration} (hasMean : HasMean rate)
    (room : ∀ gap ∈ gapsOf log rate, clock + gap < Duration.limit) (random : Random) :
    ∃ gap, sampleGap log rate random = some gap ∧ clock + gap < Duration.limit := by
  obtain ⟨secs, drawn, sign⟩ : ∃ secs : Binary64,
      sampleExponential log (.div (.ofNat 1) rate) random = some secs ∧ secs.isNegative = false :=
    ⟨_, if_neg (Bool.eq_false_iff.mp hasMean), Binary64.ofFraction_isNegative _ _⟩
  have fits := room _ ⟨random, secs, drawn, rfl⟩
  have inRange : secs.numerator < 2 ^ 64 * secs.denominator := by
    by_contra large
    have tooLong := Duration.limit_le_nearest (Nat.le_of_not_lt large)
    exact absurd fits (Nat.not_lt.mpr (tooLong.trans (Nat.le_add_left _ _)))
  refine ⟨Duration.nearest secs, ?_, fits⟩
  rw [sampleGap, drawn, Option.bind_some]
  exact (Duration.fromSecsF64_eq_some_iff sign).mpr ⟨inRange, rfl⟩

section

variable {step : ScheduledStep} {clock : Duration} {following : List ScheduledStep}
variable {rng : Stream' Random} {calls : Nat}

theorem iterate_succ_ne_none_iff {sampled : SampledSchedule} :
    iterate log (calls + 1) sampled ≠ none ↔
      ∃ arrival next', sampled.next log = some (arrival, next') ∧ iterate log calls next' ≠ none := by
  simp only [Option.ne_none_iff_exists', iterate_succ_eq_some_iff]
  constructor
  · rintro ⟨_, arrival, next', arrivals, final, called, iterated, rfl⟩
    exact ⟨arrival, next', called, _, iterated⟩
  · rintro ⟨arrival, next', called, ⟨arrivals, final⟩, iterated⟩
    exact ⟨_, arrival, next', arrivals, final, called, iterated, rfl⟩

/-- The first round of some calls. -/
theorem iterate_ne_none_iff (positive : step.rate.isPositive = true) :
    iterate log (calls + 1) ⟨⟨following, some step, clock⟩, rng⟩ ≠ none ↔
      ∃ gap, sampleGap log step.rate rng.head = some gap ∧ clock + gap < Duration.limit ∧
        if clock + gap < step.deadline then
          iterate log calls ⟨⟨following, some step, clock + gap⟩, rng.tail⟩ ≠ none
        else
          iterate log (calls + 1) ⟨.starting (max clock step.deadline) following, rng.tail⟩ ≠
            none := by
  simp only [iterate_succ_ne_none_iff, next_eq_some_iff positive]
  constructor
  · rintro ⟨arrival, next', ⟨gap, sampled, fits, result⟩, later⟩
    refine ⟨gap, sampled, fits, ?_⟩
    split_ifs at result ⊢ with before
    · cases result
      exact later
    · exact ⟨arrival, next', result, later⟩
  · rintro ⟨gap, sampled, fits, result⟩
    split_ifs at result with before
    · exact ⟨_, _, ⟨gap, sampled, fits, by rw [if_pos before]⟩, result⟩
    · obtain ⟨arrival, next', called, later⟩ := result
      exact ⟨arrival, next', ⟨gap, sampled, fits, by rw [if_neg before]; exact called⟩, later⟩

theorem neverPanics_exhausted (steps : List ScheduledStep) (clock : Duration) :
    NeverPanics log ⟨steps, none, clock⟩ := by
  intro rng calls
  induction calls with
  | zero => simp [iterate]
  | succ calls ih => exact iterate_succ_ne_none_iff.mpr ⟨none, _, rfl, ih⟩

/-- A step without a rate is left at once. -/
theorem neverPanics_iff_of_not_isPositive (noRate : ¬step.rate.isPositive = true) :
    NeverPanics log ⟨following, some step, clock⟩ ↔
      NeverPanics log (.starting (max clock step.deadline) following) := by
  refine forall_congr' fun rng => forall_congr' fun calls => ?_
  cases calls with
  | zero => simp [iterate]
  | succ calls =>
      rw [iterate_succ_ne_none_iff, iterate_succ_ne_none_iff,
        next_of_not_isPositive clock following noRate]

/-- What follows from a gap that can be drawn. -/
theorem NeverPanics.gap (safe : NeverPanics log ⟨following, some step, clock⟩)
    (positive : step.rate.isPositive = true) {gap : Duration}
    (member : gap ∈ gapsOf log step.rate) :
    clock + gap < Duration.limit ∧
      if clock + gap < step.deadline then NeverPanics log ⟨following, some step, clock + gap⟩
      else NeverPanics log (.starting (max clock step.deadline) following) := by
  obtain ⟨random, secs, drawn, nearest⟩ := member
  have round : ∀ rng calls, clock + gap < Duration.limit ∧
      if clock + gap < step.deadline then
        iterate log calls ⟨⟨following, some step, clock + gap⟩, rng⟩ ≠ none
      else iterate log (calls + 1) ⟨.starting (max clock step.deadline) following, rng⟩ ≠ none := by
    intro rng calls
    obtain ⟨gap', sampled, fits, later⟩ :=
      (iterate_ne_none_iff positive).mp (safe (.cons random rng) (calls + 1))
    rw [Stream'.head_cons] at sampled
    rw [Stream'.tail_cons] at later
    rw [← nearest, nearest_of_sampleGap drawn sampled]
    exact ⟨fits, later⟩
  refine ⟨(round (Stream'.const random) 0).1, ?_⟩
  split_ifs with before
  · intro rng calls
    have later := (round rng calls).2
    rwa [if_pos before] at later
  · intro rng calls
    cases calls with
    | zero => simp [iterate]
    | succ calls =>
        have later := (round rng calls).2
        rwa [if_neg before] at later

/-- The arrivals of a step can be as far as any sum of gaps before its deadline. -/
theorem NeverPanics.gaps (safe : NeverPanics log ⟨following, some step, clock⟩)
    (positive : step.rate.isPositive = true) {gaps : List Duration}
    (members : ∀ gap ∈ gaps, gap ∈ gapsOf log step.rate)
    (before : clock + gaps.sum < step.deadline) :
    NeverPanics log ⟨following, some step, clock + gaps.sum⟩ := by
  induction gaps generalizing clock with
  | nil => exact safe
  | cons gap gaps ih =>
      rw [List.sum_cons, ← Nat.add_assoc] at before ⊢
      obtain ⟨-, next⟩ := safe.gap positive (members gap List.mem_cons_self)
      rw [if_pos ((Nat.le_add_right _ _).trans_lt before)] at next
      exact ih next (fun gap member => members gap (List.mem_cons_of_mem _ member)) before

/-- A step with a gap above zero is left some time. -/
theorem NeverPanics.leaves (safe : NeverPanics log ⟨following, some step, clock⟩)
    (positive : step.rate.isPositive = true) (passable : Passable log step.rate)
    (inTime : clock ≤ step.deadline) : NeverPanics log (.starting step.deadline following) := by
  obtain ⟨gap, member, gapPos⟩ := passable
  -- the time that is left in the step gets shorter with every gap
  induction left : step.deadline - clock using Nat.strong_induction_on generalizing clock with
  | _ _ ih =>
      obtain ⟨-, next⟩ := safe.gap positive member
      split_ifs at next with before
      · refine ih _ ?_ next before.le rfl
        rw [← left]
        exact Nat.sub_lt_sub_left ((Nat.le_add_right _ _).trans_lt before)
          (Nat.lt_add_of_pos_right gapPos)
      · rw [Nat.max_eq_right inTime] at next
        exact next

/-- Where there is room for all gaps, the step itself does not panic. -/
theorem neverPanics_of_stepRoom {start : Duration} (positive : step.rate.isPositive = true)
    (hasMean : HasMean step.rate) (hasLength : start < step.deadline)
    (room : StepRoom log step.rate start step.deadline)
    (later : Passable log step.rate → NeverPanics log (.starting step.deadline following)) :
    NeverPanics log ⟨following, some step, start⟩ := by
  have inside : ∀ calls rng (gaps : List Duration), (∀ gap ∈ gaps, gap ∈ gapsOf log step.rate) →
      start + gaps.sum < step.deadline →
        iterate log calls ⟨⟨following, some step, start + gaps.sum⟩, rng⟩ ≠ none := by
    intro calls
    induction calls with
    | zero => simp [iterate]
    | succ calls ih =>
        intro rng gaps members before
        obtain ⟨gap, sampled, fits⟩ :=
          exists_sampleGap hasMean (room gaps members before) rng.head
        have member := mem_gapsOf_of_sampleGap sampled
        refine (iterate_ne_none_iff positive).mpr ⟨gap, sampled, fits, ?_⟩
        split_ifs with inTime
        · have longer := ih rng.tail (gaps ++ [gap])
          rw [List.sum_append, List.sum_singleton, ← Nat.add_assoc] at longer
          apply longer _ inTime
          intro other inside
          rcases List.mem_append.mp inside with old | new
          · exact members other old
          · rw [List.mem_singleton.mp new]
            exact member
        · rw [Nat.max_eq_right before.le]
          have gapPos := pos_of_lt_add_right (before.trans_le (Nat.le_of_not_lt inTime))
          exact later ⟨gap, member, gapPos⟩ _ _
  intro rng calls
  exact inside calls rng [] (by simp) hasLength

end

/-- A schedule of proper steps never panics exactly if there is room in all steps it reaches. -/
theorem neverPanics_iff_hasRoom {start : Duration} {steps : List ScheduledStep}
    (proper : Proper start steps) :
    NeverPanics log (.starting start steps) ↔ HasRoom log start steps := by
  induction steps generalizing start with
  | nil => exact iff_of_true (neverPanics_exhausted [] start) trivial
  | cons step steps ih =>
      obtain ⟨ordered, hasLength, following⟩ := proper
      rw [HasRoom, ← ih following]
      by_cases positive : step.rate.isPositive = true
      · obtain ⟨before, hasMean⟩ := hasLength positive
        constructor
        · refine fun safe => ⟨fun _ gaps members inTime gap member => ?_, fun passable => ?_⟩
          · exact ((safe.gaps positive members inTime).gap positive member).1
          · exact safe.leaves positive (passable positive) ordered
        · rintro ⟨room, later⟩
          exact neverPanics_of_stepRoom positive hasMean before (room positive)
            fun passable => later fun _ => passable
      · have left : NeverPanics log (.starting start (step :: steps)) ↔
            NeverPanics log (.starting (max start step.deadline) steps) :=
          neverPanics_iff_of_not_isPositive positive
        rw [Nat.max_eq_right ordered] at left
        exact left.trans ⟨fun safe => ⟨fun rate => absurd rate positive, fun _ => safe⟩,
          fun room => room.2 fun rate => absurd rate positive⟩

end SampledSchedule

end CreoBench
