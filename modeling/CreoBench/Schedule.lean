import CreoBench.Wire

/-!
# Load profiles and arrival schedules

A profile or a warmup becomes a list of steps of constant rate, numbered by
their position.  An arrival schedule walks through these steps: it draws a gap
after the previous arrival and leaves the step when the next arrival would not
fall before its deadline.  The gaps that the exponential distribution yields
are an input here, so every statement holds for all draws.
-/

namespace CreoBench

/-- `LoadTestTime + LoadStepDeadline`; `none` where the conversion panics. -/
def LoadTestTime.addDeadline (time : LoadTestTime) (deadline : LoadStepDeadline) :
    Option LoadTestTime :=
  (Duration.fromSecsF64 deadline.value).map fun duration => time.add ⟨duration⟩

/-- A load step with a constant arrival rate. -/
structure ScheduledStep where
  index : Nat
  deadline : Duration
  rate : Binary64
  deriving DecidableEq

namespace ScheduledStep

/-- Requests per second; a step without requests or without length has rate zero. -/
def ratePerSec (count : UInt32) (duration : Duration) : Binary64 :=
  if count = 0 ∨ duration = 0 then ⟨0⟩
  else Binary64.div (Binary64.ofNat count.toNat) duration.asSecsF64

/-- The steps from `index` on, after a step that ended at `previous`. -/
def fromSteps (index : Nat) (previous : Duration) :
    List LoadStep → Option (List ScheduledStep)
  | [] => some []
  | step :: steps => do
      let deadline ← Duration.fromSecsF64 step.deadline.value
      let following ← fromSteps (index + 1) (max previous deadline) steps
      return { index, deadline, rate := ratePerSec step.count (deadline - previous) } ::
        following

/-- `none` where the conversion of a deadline panics. -/
def fromProfile (profile : LoadProfile) : Option (List ScheduledStep) :=
  fromSteps 0 0 profile.steps

def fromWarmup (warmup : Warmup) : List ScheduledStep :=
  (List.range warmup.duration.toNat).map fun index =>
    { index
      deadline := Duration.fromSecs (index + 1)
      rate := Binary64.ofNat warmup.rate.toNat }

/-- The steps are numbered consecutively from `first`. -/
def Indexed (first : Nat) (steps : List ScheduledStep) : Prop :=
  steps.map (·.index) = List.range' first steps.length

theorem Indexed.cons_iff {first : Nat} {step : ScheduledStep}
    {steps : List ScheduledStep} :
    Indexed first (step :: steps) ↔ step.index = first ∧ Indexed (first + 1) steps := by
  simp [Indexed, List.range'_succ]

theorem fromSteps_eq_some {index : Nat} {previous : Duration}
    {steps : List LoadStep} {scheduled : List ScheduledStep}
    (converted : fromSteps index previous steps = some scheduled) :
    scheduled.length = steps.length ∧ Indexed index scheduled ∧
      steps.map (fun step => Duration.fromSecsF64 step.deadline.value) =
        scheduled.map fun step => some step.deadline := by
  induction steps generalizing index previous scheduled with
  | nil =>
      obtain rfl := Option.some.inj converted
      exact ⟨rfl, rfl, rfl⟩
  | cons step steps ih =>
      simp only [fromSteps, Option.bind_eq_bind, Option.bind_eq_some_iff, Option.pure_def,
        Option.some.injEq] at converted
      obtain ⟨deadline, deadlineEq, following, followingEq, rfl⟩ := converted
      obtain ⟨lengthEq, indexed, deadlines⟩ := ih followingEq
      refine ⟨by simp [lengthEq], Indexed.cons_iff.mpr ⟨rfl, indexed⟩, ?_⟩
      simp [deadlineEq, deadlines]

theorem fromWarmup_indexed (warmup : Warmup) : Indexed 0 (fromWarmup warmup) := by
  simp [Indexed, fromWarmup, List.range_eq_range', Function.comp_def]

@[simp]
theorem length_fromWarmup (warmup : Warmup) :
    (fromWarmup warmup).length = warmup.duration.toNat := by
  simp [fromWarmup]

end ScheduledStep

/-- A scheduled arrival, relative to the start of its phase. -/
structure Arrival where
  offset : Duration
  step : Nat
  deriving DecidableEq

/-- The state of the iterator over the arrivals. -/
structure ArrivalSchedule where
  steps : List ScheduledStep
  current : Option ScheduledStep
  clock : Duration
  deriving DecidableEq

namespace ArrivalSchedule

def new (steps : List ScheduledStep) : ArrivalSchedule where
  steps := steps.tail
  current := steps.head?
  clock := 0

/-- The steps whose arrivals are not yet exhausted. -/
def remaining (schedule : ArrivalSchedule) : List ScheduledStep :=
  schedule.current.toList ++ schedule.steps

@[simp]
theorem remaining_new (steps : List ScheduledStep) : (new steps).remaining = steps := by
  cases steps <;> rfl

/-- One round of the loop in `step`: the next arrival if it falls before the
deadline, and the draws left.  `none` when a gap is needed and no draw is left. -/
def candidate (step : ScheduledStep) (clock : Duration) (gaps : List Duration) :
    Option (Option Duration × List Duration) :=
  if step.rate.isPositive then
    match gaps with
    | [] => none
    | gap :: rest =>
        some (if clock + gap < step.deadline then some (clock + gap) else none, rest)
  else some (none, gaps)

/-- The loop of `next` from the current step on. -/
def nextFrom (step : ScheduledStep) (clock : Duration) (following : List ScheduledStep)
    (gaps : List Duration) : Option (Option Arrival × ArrivalSchedule) :=
  match candidate step clock gaps with
  | none => none
  | some (some offset, _) =>
      some (some ⟨offset, step.index⟩, ⟨following, some step, offset⟩)
  | some (none, rest) =>
      match following with
      | [] => some (none, ⟨[], none, max clock step.deadline⟩)
      | later :: following => nextFrom later (max clock step.deadline) following rest

/-- The next arrival, if the gaps drawn on the way are `gaps`. -/
def next (schedule : ArrivalSchedule) (gaps : List Duration) :
    Option (Option Arrival × ArrivalSchedule) :=
  match schedule.current with
  | none => some (none, schedule)
  | some step => nextFrom step schedule.clock schedule.steps gaps

private theorem nextFrom_spec {step : ScheduledStep} {clock : Duration}
    {following : List ScheduledStep} {gaps : List Duration}
    {arrival : Option Arrival} {schedule : ArrivalSchedule}
    (called : nextFrom step clock following gaps = some (arrival, schedule)) :
    schedule.remaining <:+ step :: following ∧
      arrival.map (·.step) = schedule.current.map (·.index) := by
  induction following generalizing step clock gaps with
  | nil =>
      unfold nextFrom at called
      split at called
      · cases called
      · cases called
        exact ⟨List.suffix_refl _, rfl⟩
      · cases called
        exact ⟨List.nil_suffix, rfl⟩
  | cons later following ih =>
      unfold nextFrom at called
      split at called
      · cases called
      · cases called
        exact ⟨List.suffix_refl _, rfl⟩
      · obtain ⟨suffix, stepEq⟩ := ih called
        exact ⟨suffix.trans (List.suffix_cons _ _), stepEq⟩

/-- A call moves on to a later step or stays, and an arrival belongs to the step
at which the call stops. -/
theorem next_spec {schedule schedule' : ArrivalSchedule} {gaps : List Duration}
    {arrival : Option Arrival} (called : schedule.next gaps = some (arrival, schedule')) :
    schedule'.remaining <:+ schedule.remaining ∧
      arrival.map (·.step) = schedule'.current.map (·.index) := by
  unfold next at called
  split at called
  · rename_i noStep
    cases called
    exact ⟨List.suffix_refl _, by simp [noStep]⟩
  · rename_i step current
    simpa [remaining, current] using nextFrom_spec called

end ArrivalSchedule

end CreoBench
