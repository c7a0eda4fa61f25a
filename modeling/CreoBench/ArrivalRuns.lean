import CreoBench.Library.ListIndex
import CreoBench.Library.TransitionSystem
import CreoBench.Schedule
import Mathlib.Order.Basic

/-!
# The arrivals of a schedule

A schedule is asked for one arrival after the other, and every call draws the
gaps that it needs.  Seen from its steps, the schedule pays one visit to each of
them: gaps are drawn and added up from the start of the step until one of them
reaches its deadline.
-/

namespace CreoBench

/-- The sums of the first gaps, one for each gap. -/
def offsetsFrom (start : Duration) : List Duration → List Duration
  | [] => []
  | gap :: gaps => (start + gap) :: offsetsFrom (start + gap) gaps

/-- The time that a schedule spends in a step: the gaps that led to arrivals, and the gap
that has reached the deadline. -/
structure Visit where
  step : ScheduledStep
  start : Duration
  gaps : List Duration
  ending : Option Duration

namespace Visit

def arrivals (visit : Visit) : List Arrival :=
  (offsetsFrom visit.start visit.gaps).map fun offset => ⟨offset, visit.step.index⟩

def drawn (visit : Visit) : List Duration := visit.gaps ++ visit.ending.toList

/-- The first gap that reaches the deadline leads to no arrival, and a step without a rate
draws nothing. -/
structure Fits (visit : Visit) : Prop where
  within : ∀ offset ∈ offsetsFrom visit.start visit.gaps, offset < visit.step.deadline
  reached : ∀ gap, visit.ending = some gap →
    visit.step.deadline ≤ visit.start + visit.gaps.sum + gap
  rate : visit.drawn ≠ [] → visit.step.rate.isPositive = true

/-- A step with a rate is only left because a gap reaches its deadline. -/
def Ended (visit : Visit) : Prop :=
  visit.step.rate.isPositive = true → visit.ending.isSome

end Visit

/-- Where a step starts: at the deadline of the step before it. -/
def startOf (steps : List ScheduledStep) : Nat → Duration
  | 0 => 0
  | index + 1 => (steps[index]?.map (·.deadline)).getD 0

/-- A schedule with what its calls have returned and all gaps they have drawn. -/
structure ScheduleRun where
  schedule : ArrivalSchedule
  results : List (Option Arrival)
  drawn : List Duration

namespace ScheduleRun

def arrivals (run : ScheduleRun) : List Arrival := run.results.filterMap id

/-- A call that needs all of `gaps`. -/
def machine (steps : List ScheduledStep) : Machine ScheduleRun (List Duration) where
  initial run := run = ⟨.new steps, [], []⟩
  step run gaps :=
    if gaps = [] ∨ run.schedule.next gaps.dropLast = none then
      (run.schedule.next gaps).map fun (arrival, schedule) =>
        ⟨schedule, run.results ++ [arrival], run.drawn ++ gaps⟩
    else none

end ScheduleRun

/-! ## Visits -/

theorem offsetsFrom_append (start : Duration) (gaps : List Duration) (gap : Duration) :
    offsetsFrom start (gaps ++ [gap]) =
      offsetsFrom start gaps ++ [start + gaps.sum + gap] := by
  induction gaps generalizing start with
  | nil => simp [offsetsFrom]
  | cons first gaps ih =>
      rw [List.cons_append, offsetsFrom, ih, offsetsFrom, List.cons_append, List.sum_cons,
        Nat.add_assoc start]

theorem start_le_of_mem_offsetsFrom {start offset : Duration} {gaps : List Duration}
    (member : offset ∈ offsetsFrom start gaps) : start ≤ offset := by
  induction gaps generalizing start with
  | nil => cases member
  | cons gap gaps ih =>
      rcases List.mem_cons.mp member with rfl | later
      · exact Nat.le_add_right start gap
      · exact (Nat.le_add_right start gap).trans (ih later)

theorem offsetsFrom_pairwise (start : Duration) (gaps : List Duration) :
    (offsetsFrom start gaps).Pairwise (· ≤ ·) := by
  induction gaps generalizing start with
  | nil => exact .nil
  | cons gap gaps ih =>
      exact .cons (fun offset member => start_le_of_mem_offsetsFrom member) (ih _)

/-- What a schedule has done when its visit to the step before `following` goes on. -/
structure Open (steps : List ScheduledStep) (earlier : List Visit) (last : Visit)
    (following : List ScheduledStep) (arrivals : List Arrival) (drawn : List Duration) :
    Prop where
  visited : earlier.map (·.step) ++ last.step :: following = steps
  starts : ∀ (index : Nat) (visit : Visit), (earlier ++ [last])[index]? = some visit →
    visit.start = startOf steps index
  fits : ∀ visit ∈ earlier ++ [last], visit.Fits
  ended : ∀ visit ∈ earlier, visit.Ended
  goesOn : last.ending = none
  inTime : last.start + last.gaps.sum ≤ last.step.deadline
  arrived : arrivals = (earlier ++ [last]).flatMap Visit.arrivals
  drew : drawn = (earlier ++ [last]).flatMap Visit.drawn

/-- The same when all steps have been left. -/
structure Closed (steps : List ScheduledStep) (visits : List Visit) (arrivals : List Arrival)
    (drawn : List Duration) : Prop where
  visited : visits.map (·.step) = steps
  starts : ∀ (index : Nat) (visit : Visit), visits[index]? = some visit →
    visit.start = startOf steps index
  fits : ∀ visit ∈ visits, visit.Fits
  ended : ∀ visit ∈ visits, visit.Ended
  arrived : arrivals = visits.flatMap Visit.arrivals
  drew : drawn = visits.flatMap Visit.drawn

namespace Open

variable {steps following : List ScheduledStep} {earlier : List Visit} {last : Visit}
variable {arrivals : List Arrival} {drawn : List Duration} {gap : Duration}

/-- A gap that does not reach the deadline is an arrival. -/
theorem arrive (visiting : Open steps earlier last following arrivals drawn)
    (positive : last.step.rate.isPositive = true)
    (before : last.start + last.gaps.sum + gap < last.step.deadline) :
    Open steps earlier { last with gaps := last.gaps ++ [gap] } following
      (arrivals ++ [⟨last.start + last.gaps.sum + gap, last.step.index⟩]) (drawn ++ [gap]) := by
  have longer : ∀ visit ∈ earlier ++ [{ last with gaps := last.gaps ++ [gap] }],
      visit ∈ earlier ++ [last] ∨ visit = { last with gaps := last.gaps ++ [gap] } := by
    intro visit member
    rcases List.mem_append.mp member with old | new
    · exact .inl (List.mem_append_left _ old)
    · exact .inr (List.mem_singleton.mp new)
  have lastFits := visiting.fits last (List.mem_append_right _ List.mem_cons_self)
  constructor
  · exact visiting.visited
  · intro index visit found
    rcases List.getElem?_concat_eq_some.mp found with old | ⟨rfl, rfl⟩
    · exact visiting.starts index visit (List.getElem?_concat_eq_some.mpr (.inl old))
    · exact visiting.starts _ last List.getElem?_concat_length
  · intro visit member
    rcases longer visit member with old | rfl
    · exact visiting.fits visit old
    · constructor
      · intro offset inside
        rw [offsetsFrom_append] at inside
        rcases List.mem_append.mp inside with old | new
        · exact lastFits.within offset old
        · rw [List.mem_singleton.mp new]
          exact before
      · intro other reached
        rw [visiting.goesOn] at reached
        cases reached
      · exact fun _ => positive
  · exact visiting.ended
  · exact visiting.goesOn
  · rw [List.sum_append, List.sum_singleton, ← Nat.add_assoc]
    exact before.le
  · rw [visiting.arrived]
    simp [Visit.arrivals, offsetsFrom_append]
  · rw [visiting.drew]
    simp [Visit.drawn, visiting.goesOn]

/-- The visit that a step is left with. -/
theorem leave (visiting : Open steps earlier last following arrivals drawn)
    {ending : Option Duration}
    (reached : ∀ gap, ending = some gap → last.step.rate.isPositive = true ∧
      last.step.deadline ≤ last.start + last.gaps.sum + gap)
    (ended : last.step.rate.isPositive = true → ending.isSome) :
    ({ last with ending } : Visit).Fits ∧ ({ last with ending } : Visit).Ended := by
  have lastFits := visiting.fits last (List.mem_append_right _ List.mem_cons_self)
  refine ⟨⟨lastFits.within, fun gap endingEq => (reached gap endingEq).2, ?_⟩, ended⟩
  intro drew
  by_cases gaps : last.gaps = []
  · cases endingEq : ending with
    | none => exact absurd (by simp [Visit.drawn, gaps, endingEq]) drew
    | some gap => exact (reached gap endingEq).1
  · exact lastFits.rate (by simp [Visit.drawn, gaps])

theorem startOf_succ {visited : List ScheduledStep} {step : ScheduledStep} :
    startOf (visited ++ step :: following) (visited.length + 1) = step.deadline := by
  simp [startOf]

/-- A step is left and the next one is entered at its deadline. -/
theorem enter {later : ScheduledStep}
    (visiting : Open steps earlier last (later :: following) arrivals drawn)
    (ordered : last.step.deadline ≤ later.deadline) {ending : Option Duration}
    (reached : ∀ gap, ending = some gap → last.step.rate.isPositive = true ∧
      last.step.deadline ≤ last.start + last.gaps.sum + gap)
    (ended : last.step.rate.isPositive = true → ending.isSome) :
    Open steps (earlier ++ [{ last with ending }]) ⟨later, last.step.deadline, [], none⟩ following
      arrivals (drawn ++ ending.toList) := by
  rcases visiting.leave reached ended with ⟨lastFits, lastEnded⟩
  constructor
  · rw [← visiting.visited]
    simp
  · intro index visit found
    rcases List.getElem?_concat_eq_some.mp found with old | ⟨rfl, rfl⟩
    · rcases List.getElem?_concat_eq_some.mp old with older | ⟨rfl, rfl⟩
      · exact visiting.starts index visit (List.getElem?_concat_eq_some.mpr (.inl older))
      · exact visiting.starts _ last List.getElem?_concat_length
    · rw [← visiting.visited, List.length_append, List.length_singleton,
        ← List.length_map (f := fun visit : Visit => visit.step)]
      exact startOf_succ.symm
  · intro visit member
    rcases List.mem_append.mp member with old | new
    · rcases List.mem_append.mp old with older | same
      · exact visiting.fits visit (List.mem_append_left _ older)
      · rw [List.mem_singleton.mp same]
        exact lastFits
    · rw [List.mem_singleton.mp new]
      exact ⟨by simp [offsetsFrom], by simp, by simp [Visit.drawn]⟩
  · intro visit member
    rcases List.mem_append.mp member with old | same
    · exact visiting.ended visit old
    · rw [List.mem_singleton.mp same]
      exact lastEnded
  · rfl
  · exact ordered
  · rw [visiting.arrived]
    simp [Visit.arrivals, offsetsFrom]
  · rw [visiting.drew]
    simp [Visit.drawn, visiting.goesOn]

/-- The last step is left. -/
theorem close (visiting : Open steps earlier last [] arrivals drawn) {ending : Option Duration}
    (reached : ∀ gap, ending = some gap → last.step.rate.isPositive = true ∧
      last.step.deadline ≤ last.start + last.gaps.sum + gap)
    (ended : last.step.rate.isPositive = true → ending.isSome) :
    Closed steps (earlier ++ [{ last with ending }]) arrivals (drawn ++ ending.toList) := by
  rcases visiting.leave reached ended with ⟨lastFits, lastEnded⟩
  constructor
  · rw [← visiting.visited]
    simp
  · intro index visit found
    rcases List.getElem?_concat_eq_some.mp found with old | ⟨rfl, rfl⟩
    · exact visiting.starts index visit (List.getElem?_concat_eq_some.mpr (.inl old))
    · exact visiting.starts _ last List.getElem?_concat_length
  · intro visit member
    rcases List.mem_append.mp member with old | same
    · exact visiting.fits visit (List.mem_append_left _ old)
    · rw [List.mem_singleton.mp same]
      exact lastFits
  · intro visit member
    rcases List.mem_append.mp member with old | same
    · exact visiting.ended visit old
    · rw [List.mem_singleton.mp same]
      exact lastEnded
  · rw [visiting.arrived]
    simp [Visit.arrivals]
  · rw [visiting.drew]
    simp [Visit.drawn, visiting.goesOn]

end Open

/-- What a schedule has done so far. -/
def Described (steps : List ScheduledStep) (schedule : ArrivalSchedule)
    (arrivals : List Arrival) (drawn : List Duration) : Prop :=
  match schedule.current with
  | some step => ∃ earlier last, last.step = step ∧
      schedule.clock = last.start + last.gaps.sum ∧
        Open steps earlier last schedule.steps arrivals drawn
  | none => schedule.steps = [] ∧ ∃ visits, Closed steps visits arrivals drawn

/-- Steps are in the order of their deadlines. -/
def Ordered (steps : List ScheduledStep) : Prop :=
  steps.Pairwise fun first second => first.deadline ≤ second.deadline

theorem described_new {steps : List ScheduledStep} : Described steps (.new steps) [] [] := by
  cases steps with
  | nil =>
      refine ⟨rfl, [], rfl, by simp, by simp, by simp, rfl, rfl⟩
  | cons step steps =>
      refine ⟨[], ⟨step, 0, [], none⟩, rfl, rfl, ?_⟩
      constructor
      · rfl
      · intro index visit found
        rcases List.getElem?_concat_eq_some.mp found with old | ⟨rfl, rfl⟩
        · simp at old
        · rfl
      · intro visit member
        rw [List.mem_singleton.mp member]
        exact ⟨by simp [offsetsFrom], by simp, by simp [Visit.drawn]⟩
      · simp
      · rfl
      · exact Nat.zero_le _
      · rfl
      · rfl

namespace ArrivalSchedule

/-- A step without a rate draws nothing. -/
theorem candidate_of_not_isPositive {step : ScheduledStep} (clock : Duration)
    (gaps : List Duration) (noRate : ¬step.rate.isPositive = true) :
    candidate step clock gaps = some (none, gaps) := if_neg noRate

theorem candidate_cons {step : ScheduledStep} (clock gap : Duration) (gaps : List Duration)
    (positive : step.rate.isPositive = true) :
    candidate step clock (gap :: gaps) =
      some (if clock + gap < step.deadline then some (clock + gap) else none, gaps) :=
  if_pos positive

/-- One round of the loop in a call that needs all of `gaps`. -/
theorem nextFrom_cases {step : ScheduledStep} {clock : Duration}
    {following : List ScheduledStep} {gaps : List Duration} {arrival : Option Arrival}
    {schedule : ArrivalSchedule}
    (called : nextFrom step clock following gaps = some (arrival, schedule))
    (exact : gaps = [] ∨ nextFrom step clock following gaps.dropLast = none) :
    (∃ gap, gaps = [gap] ∧ step.rate.isPositive = true ∧ clock + gap < step.deadline ∧
      arrival = some ⟨clock + gap, step.index⟩ ∧
        schedule = ⟨following, some step, clock + gap⟩) ∨
    ∃ ending rest, gaps = Option.toList ending ++ rest ∧
      (∀ gap, ending = some gap → step.rate.isPositive = true ∧ step.deadline ≤ clock + gap) ∧
      (step.rate.isPositive = true → ending.isSome) ∧
        match following with
        | [] => rest = [] ∧ arrival = none ∧ schedule = ⟨[], none, max clock step.deadline⟩
        | later :: following =>
            nextFrom later (max clock step.deadline) following rest = some (arrival, schedule) ∧
              (rest = [] ∨
                nextFrom later (max clock step.deadline) following rest.dropLast = none) := by
  by_cases positive : step.rate.isPositive = true
  · cases gaps with
    | nil =>
        rw [nextFrom, candidate, if_pos positive] at called
        cases called
    | cons gap rest =>
        by_cases before : clock + gap < step.deadline
        · left
          -- a second gap would be one too many
          have alone : rest = [] := by
            rcases exact with empty | tooFew
            · cases empty
            · by_contra more
              rw [List.dropLast_cons_of_ne_nil more, nextFrom, candidate_cons clock gap _ positive,
                if_pos before] at tooFew
              cases tooFew
          subst alone
          rw [nextFrom, candidate_cons clock gap _ positive, if_pos before] at called
          cases called
          exact ⟨gap, rfl, positive, before, rfl, rfl⟩
        · right
          refine ⟨some gap, rest, rfl, ?_, fun _ => rfl, ?_⟩
          · rintro _ ⟨⟩
            exact ⟨positive, Nat.le_of_not_lt before⟩
          have fewer : rest ≠ [] →
              nextFrom step clock following (gap :: rest.dropLast) = none := by
            intro more
            rcases exact with empty | tooFew
            · cases empty
            · rw [← List.dropLast_cons_of_ne_nil more]
              exact tooFew
          rw [nextFrom, candidate_cons clock gap _ positive, if_neg before] at called
          rw [nextFrom, candidate_cons clock gap _ positive, if_neg before] at fewer
          cases following with
          | nil =>
              cases called
              refine ⟨?_, rfl, rfl⟩
              by_contra more
              cases fewer more
          | cons later following =>
              refine ⟨called, ?_⟩
              by_cases more : rest = []
              · exact .inl more
              · exact .inr (fewer more)
  · right
    refine ⟨none, gaps, rfl, by simp, fun rate => absurd rate positive, ?_⟩
    rw [nextFrom, candidate_of_not_isPositive clock _ positive] at called
    rw [nextFrom, candidate_of_not_isPositive clock _ positive] at exact
    cases following with
    | nil =>
        cases called
        refine ⟨?_, rfl, rfl⟩
        rcases exact with empty | tooFew
        · exact empty
        · cases tooFew
    | cons later following => exact ⟨called, exact⟩

/-- The loop of a call that needs all of `gaps`. -/
theorem nextFrom_described {steps : List ScheduledStep} (ordered : Ordered steps)
    {earlier : List Visit} {last : Visit} {following : List ScheduledStep}
    {arrivals : List Arrival} {drawn gaps : List Duration} {arrival : Option Arrival}
    {schedule : ArrivalSchedule}
    (visiting : Open steps earlier last following arrivals drawn)
    (called : nextFrom last.step (last.start + last.gaps.sum) following gaps =
      some (arrival, schedule))
    (exact : gaps = [] ∨
      nextFrom last.step (last.start + last.gaps.sum) following gaps.dropLast = none) :
    Described steps schedule (arrivals ++ arrival.toList) (drawn ++ gaps) ∧
      (arrival = none ↔ schedule.current = none) := by
  induction following generalizing earlier last gaps drawn with
  | nil =>
      rcases nextFrom_cases called exact with ⟨gap, rfl, positive, before, rfl, rfl⟩ |
        ⟨ending, rest, rfl, reached, ended, rfl, rfl, rfl⟩
      · refine ⟨⟨earlier, { last with gaps := last.gaps ++ [gap] }, rfl, ?_,
          visiting.arrive positive before⟩, by simp⟩
        rw [List.sum_append, List.sum_singleton, Nat.add_assoc]
      · refine ⟨⟨rfl, earlier ++ [{ last with ending }], ?_⟩, by simp⟩
        rw [Option.toList_none, List.append_nil, List.append_nil]
        exact visiting.close reached ended
  | cons later following ih =>
      rcases nextFrom_cases called exact with ⟨gap, rfl, positive, before, rfl, rfl⟩ |
        ⟨ending, rest, rfl, reached, ended, goesOn, exactly⟩
      · refine ⟨⟨earlier, { last with gaps := last.gaps ++ [gap] }, rfl, ?_,
          visiting.arrive positive before⟩, by simp⟩
        rw [List.sum_append, List.sum_singleton, Nat.add_assoc]
      · have inOrder : last.step.deadline ≤ later.deadline := by
          have pairs := ordered
          rw [← visiting.visited] at pairs
          exact (List.pairwise_cons.mp (List.pairwise_append.mp pairs).2.1).1 later
            List.mem_cons_self
        have entered := visiting.enter inOrder reached ended
        rw [max_eq_right visiting.inTime] at goesOn exactly
        rw [← List.append_assoc]
        exact ih entered goesOn exactly

/-- A call needs at most one gap for every step that is left. -/
theorem nextFrom_ne_none {step : ScheduledStep} {clock : Duration}
    {following : List ScheduledStep} {gaps : List Duration}
    (enough : following.length < gaps.length) : nextFrom step clock following gaps ≠ none := by
  induction following generalizing step clock gaps with
  | nil =>
      by_cases positive : step.rate.isPositive = true
      · cases gaps with
        | nil => cases enough
        | cons gap rest =>
            rw [nextFrom, candidate_cons clock gap _ positive]
            by_cases before : clock + gap < step.deadline <;> simp [before]
      · rw [nextFrom, candidate_of_not_isPositive clock _ positive]
        simp
  | cons later following ih =>
      rw [List.length_cons] at enough
      by_cases positive : step.rate.isPositive = true
      · cases gaps with
        | nil => cases enough
        | cons gap rest =>
            rw [List.length_cons] at enough
            rw [nextFrom, candidate_cons clock gap _ positive]
            by_cases before : clock + gap < step.deadline
            · simp [before]
            · simp only [before, if_false]
              exact ih (by omega)
      · rw [nextFrom, candidate_of_not_isPositive clock _ positive]
        exact ih (by omega)

theorem next_ne_none {schedule : ArrivalSchedule} {gaps : List Duration}
    (enough : schedule.steps.length < gaps.length) : schedule.next gaps ≠ none := by
  unfold next
  cases schedule.current with
  | none => simp
  | some step => exact nextFrom_ne_none enough

/-- The answer of a schedule without a current step never changes. -/
theorem next_of_exhausted {schedule schedule' : ArrivalSchedule} {gaps : List Duration}
    {arrival : Option Arrival} (exhausted : schedule.current = none)
    (called : schedule.next gaps = some (arrival, schedule')) :
    arrival = none ∧ schedule' = schedule := by
  rw [next, exhausted] at called
  cases called
  exact ⟨rfl, rfl⟩

end ArrivalSchedule

/-! ## Runs of calls -/

/-- The visits paid so far, to the first steps. -/
structure Visited (steps : List ScheduledStep) (visits : List Visit) (arrivals : List Arrival)
    (drawn : List Duration) : Prop where
  visited : visits.map (·.step) <+: steps
  starts : ∀ (index : Nat) (visit : Visit), visits[index]? = some visit →
    visit.start = startOf steps index
  fits : ∀ visit ∈ visits, visit.Fits
  ended : ∀ (index : Nat) (visit : Visit), visits[index]? = some visit →
    index + 1 < visits.length → visit.Ended
  arrived : arrivals = visits.flatMap Visit.arrivals
  drew : drawn = visits.flatMap Visit.drawn

theorem Open.toVisited {steps following : List ScheduledStep} {earlier : List Visit}
    {last : Visit} {arrivals : List Arrival} {drawn : List Duration}
    (visiting : Open steps earlier last following arrivals drawn) :
    Visited steps (earlier ++ [last]) arrivals drawn := by
  constructor
  · rw [← visiting.visited]
    exact ⟨following, by simp⟩
  · exact visiting.starts
  · exact visiting.fits
  · intro index visit found early
    rw [List.length_append, List.length_singleton] at early
    rw [List.getElem?_append_left (by omega)] at found
    exact visiting.ended visit (List.mem_of_getElem? found)
  · exact visiting.arrived
  · exact visiting.drew

theorem Closed.toVisited {steps : List ScheduledStep} {visits : List Visit}
    {arrivals : List Arrival} {drawn : List Duration}
    (closed : Closed steps visits arrivals drawn) : Visited steps visits arrivals drawn := by
  constructor
  · exact ⟨[], by rw [List.append_nil, closed.visited]⟩
  · exact closed.starts
  · exact closed.fits
  · exact fun _ visit found _ => closed.ended visit (List.mem_of_getElem? found)
  · exact closed.arrived
  · exact closed.drew

namespace Visited

variable {steps : List ScheduledStep} {visits : List Visit} {arrivals : List Arrival}
variable {drawn : List Duration}

theorem step_eq (visited : Visited steps visits arrivals drawn) {index : Nat} {visit : Visit}
    (found : visits[index]? = some visit) : steps[index]? = some visit.step :=
  visited.visited.getElem?_eq_some (by rw [List.getElem?_map, found, Option.map_some])

/-- Steps are numbered by their positions. -/
theorem index_eq (visited : Visited steps visits arrivals drawn)
    (indexed : ScheduledStep.Indexed 0 steps) {index : Nat} {visit : Visit}
    (found : visits[index]? = some visit) : visit.step.index = index := by
  obtain ⟨bound, stepEq⟩ := List.getElem?_eq_some_iff.mp (visited.step_eq found)
  have numbers := congrArg (·[index]?) indexed
  rw [← stepEq]
  simpa [bound] using numbers

/-- An arrival of a visit. -/
theorem arrival_spec {visit : Visit} (fits : visit.Fits) {arrival : Arrival}
    (member : arrival ∈ visit.arrivals) :
    arrival.step = visit.step.index ∧ visit.step.rate.isPositive = true ∧
      visit.start ≤ arrival.offset ∧ arrival.offset < visit.step.deadline := by
  obtain ⟨offset, inside, rfl⟩ := List.mem_map.mp member
  refine ⟨rfl, fits.rate ?_, start_le_of_mem_offsetsFrom inside, fits.within offset inside⟩
  intro drewNothing
  have noGaps : visit.gaps = [] := (List.append_eq_nil_iff.mp drewNothing).1
  rw [noGaps] at inside
  cases inside

/-- A later step starts no earlier than an earlier one ends. -/
theorem deadline_le_startOf (ordered : Ordered steps) {first second : Nat}
    {step : ScheduledStep} (found : steps[first]? = some step) (earlier : first < second)
    (bound : second < steps.length) : step.deadline ≤ startOf steps second := by
  obtain ⟨before, rfl⟩ : ∃ before, second = before + 1 := ⟨second - 1, by omega⟩
  have exists' : steps[before]? = some steps[before] := List.getElem?_eq_getElem (by omega)
  rw [startOf, exists', Option.map_some, Option.getD_some]
  obtain ⟨firstBound, rfl⟩ := List.getElem?_eq_some_iff.mp found
  rcases Nat.lt_or_eq_of_le (Nat.le_of_lt_succ earlier) with less | rfl
  · exact List.pairwise_iff_getElem.mp ordered first before firstBound (by omega) less
  · exact Nat.le_refl _

theorem inStep (visited : Visited steps visits arrivals drawn)
    (indexed : ScheduledStep.Indexed 0 steps) {arrival : Arrival}
    (member : arrival ∈ arrivals) :
    ∃ step, steps[arrival.step]? = some step ∧ step.rate.isPositive = true ∧
      startOf steps arrival.step ≤ arrival.offset ∧ arrival.offset < step.deadline := by
  rw [visited.arrived] at member
  obtain ⟨visit, visitMem, arrivalMem⟩ := List.mem_flatMap.mp member
  obtain ⟨index, found⟩ := List.getElem?_of_mem visitMem
  obtain ⟨stepEq, positive, started, before⟩ :=
    arrival_spec (visited.fits visit visitMem) arrivalMem
  rw [visited.index_eq indexed found] at stepEq
  rw [visited.starts index visit found, ← stepEq] at started
  exact ⟨visit.step, by rw [stepEq, visited.step_eq found], positive, started, before⟩

/-- Arrivals are in the order of their steps and, within a step, of their offsets. -/
theorem pairwise (visited : Visited steps visits arrivals drawn)
    (indexed : ScheduledStep.Indexed 0 steps) (ordered : Ordered steps) :
    arrivals.Pairwise fun first second =>
      first.offset ≤ second.offset ∧ first.step ≤ second.step := by
  rw [visited.arrived, List.pairwise_flatMap]
  constructor
  · intro visit _
    rw [Visit.arrivals, List.pairwise_map]
    exact (offsetsFrom_pairwise visit.start visit.gaps).imp fun le => ⟨le, Nat.le_refl _⟩
  · rw [List.pairwise_iff_getElem]
    intro first second firstBound secondBound less arrival inFirst later inSecond
    have firstAt := List.getElem?_eq_getElem firstBound
    have secondAt := List.getElem?_eq_getElem secondBound
    obtain ⟨stepEq, -, -, before⟩ := arrival_spec
      (visited.fits _ (List.mem_of_getElem? firstAt)) inFirst
    obtain ⟨laterEq, -, started, -⟩ := arrival_spec
      (visited.fits _ (List.mem_of_getElem? secondAt)) inSecond
    have secondStep := (List.getElem?_eq_some_iff.mp (visited.step_eq secondAt)).1
    rw [visited.index_eq indexed firstAt] at stepEq
    rw [visited.index_eq indexed secondAt] at laterEq
    rw [visited.starts second _ secondAt] at started
    have between := deadline_le_startOf ordered (visited.step_eq firstAt) less secondStep
    exact ⟨before.le.trans (between.trans started), by omega⟩

end Visited

namespace ScheduleRun

/-- What the calls of a run amount to. -/
structure WellFormed (steps : List ScheduledStep) (run : ScheduleRun) : Prop where
  ordered : run.arrivals.Pairwise fun first second =>
    first.offset ≤ second.offset ∧ first.step ≤ second.step
  inStep : ∀ arrival ∈ run.arrivals, ∃ step, steps[arrival.step]? = some step ∧
    step.rate.isPositive = true ∧
      startOf steps arrival.step ≤ arrival.offset ∧ arrival.offset < step.deadline
  visited : ∃ visits, Visited steps visits run.arrivals run.drawn ∧
    (none ∈ run.results → visits.map (·.step) = steps ∧ ∀ visit ∈ visits, visit.Ended)
  noneForever : ∃ calls, run.results = run.arrivals.map some ++ List.replicate calls none

/-- No call has returned an arrival after one has returned none. -/
def Exhausts (run : ScheduleRun) : Prop :=
  ∃ calls, run.results = run.arrivals.map some ++ List.replicate calls none ∧
    (0 < calls → run.schedule.current = none)

theorem step_spec {steps : List ScheduledStep} {run next : ScheduleRun} {gaps : List Duration}
    (stepped : (machine steps).step run gaps = some next) :
    ∃ arrival, run.schedule.next gaps = some (arrival, next.schedule) ∧
      (gaps = [] ∨ run.schedule.next gaps.dropLast = none) ∧
        next.results = run.results ++ [arrival] ∧
          next.arrivals = run.arrivals ++ arrival.toList ∧ next.drawn = run.drawn ++ gaps := by
  simp only [machine, Option.ite_none_right_eq_some, Option.map_eq_some_iff, Prod.exists]
    at stepped
  obtain ⟨exact, arrival, schedule, called, rfl⟩ := stepped
  refine ⟨arrival, called, exact, rfl, ?_, rfl⟩
  cases arrival <;> simp [arrivals]

/-- A call leaves the description of the schedule in place. -/
theorem step_described {steps : List ScheduledStep} (ordered : Ordered steps)
    {run next : ScheduleRun} {gaps : List Duration}
    (described : Described steps run.schedule run.arrivals run.drawn)
    (stepped : (machine steps).step run gaps = some next) :
    Described steps next.schedule next.arrivals next.drawn ∧
      (next.arrivals = run.arrivals ↔ next.schedule.current = none) := by
  obtain ⟨arrival, called, exact, -, arrivalsEq, drawnEq⟩ := step_spec stepped
  have unchanged : next.arrivals = run.arrivals ↔ arrival = none := by
    rw [arrivalsEq]
    cases arrival <;> simp
  rw [unchanged, arrivalsEq, drawnEq]
  cases current : run.schedule.current with
  | none =>
      obtain ⟨rfl, scheduleEq⟩ := ArrivalSchedule.next_of_exhausted current called
      have noGaps : gaps = [] := by
        rcases exact with empty | tooFew
        · exact empty
        · rw [ArrivalSchedule.next, current] at tooFew
          cases tooFew
      rw [scheduleEq, noGaps, Option.toList_none, List.append_nil, List.append_nil]
      exact ⟨described, by simp [current]⟩
  | some step =>
      rw [Described, current] at described
      obtain ⟨earlier, last, rfl, clockEq, visiting⟩ := described
      rw [ArrivalSchedule.next, current] at called exact
      dsimp only at called exact
      rw [clockEq] at called exact
      exact ArrivalSchedule.nextFrom_described ordered visiting called exact

theorem described_of_reachable {steps : List ScheduledStep} (ordered : Ordered steps)
    {run : ScheduleRun} (reachable : (machine steps).Reachable run) :
    Described steps run.schedule run.arrivals run.drawn ∧ run.Exhausts := by
  induction reachable with
  | start initial =>
      rw [show _ = _ from initial]
      exact ⟨described_new, 0, rfl, by simp⟩
  | step reached _ stepped ih =>
      obtain ⟨described, calls, resultsEq, done⟩ := ih
      obtain ⟨described', unchanged⟩ := step_described ordered described stepped
      obtain ⟨arrival, called, -, resultsEq', arrivalsEq, -⟩ := step_spec stepped
      refine ⟨described', ?_⟩
      cases arrival with
      | none =>
          rw [Option.toList_none, List.append_nil] at arrivalsEq
          refine ⟨calls + 1, ?_, fun _ => unchanged.mp arrivalsEq⟩
          rw [resultsEq', resultsEq, arrivalsEq, List.replicate_succ', List.append_assoc]
      | some arrival =>
          have noneYet : calls = 0 := by
            by_contra more
            have exhausted := done (Nat.pos_of_ne_zero more)
            cases (ArrivalSchedule.next_of_exhausted exhausted called).1
          subst noneYet
          refine ⟨0, ?_, by simp⟩
          rw [resultsEq', resultsEq, arrivalsEq]
          simp

theorem wellFormed_of_reachable {steps : List ScheduledStep}
    (indexed : ScheduledStep.Indexed 0 steps) (ordered : Ordered steps) {run : ScheduleRun}
    (reachable : (machine steps).Reachable run) : run.WellFormed steps := by
  obtain ⟨described, calls, resultsEq, done⟩ := described_of_reachable ordered reachable
  have exhausted : none ∈ run.results → run.schedule.current = none := by
    intro member
    apply done
    rw [resultsEq] at member
    by_contra noCall
    simp [Nat.eq_zero_of_not_pos noCall] at member
  have visited : ∃ visits, Visited steps visits run.arrivals run.drawn ∧
      (none ∈ run.results → visits.map (·.step) = steps ∧ ∀ visit ∈ visits, visit.Ended) := by
    unfold Described at described
    split at described
    · rename_i step current
      obtain ⟨earlier, last, -, -, visiting⟩ := described
      refine ⟨earlier ++ [last], visiting.toVisited, fun member => ?_⟩
      rw [exhausted member] at current
      cases current
    · obtain ⟨-, visits, closed⟩ := described
      exact ⟨visits, closed.toVisited, fun _ => ⟨closed.visited, closed.ended⟩⟩
  constructor
  · exact visited.elim fun _ paid => paid.1.pairwise indexed ordered
  · exact fun arrival member => visited.elim fun _ paid => paid.1.inStep indexed member
  · exact visited
  · exact ⟨calls, resultsEq⟩

/-- A call draws at most one gap for every step that is left. -/
theorem length_le_of_step {steps : List ScheduledStep} {run next : ScheduleRun}
    {gaps : List Duration} (stepped : (machine steps).step run gaps = some next) :
    gaps.length ≤ run.schedule.remaining.length := by
  obtain ⟨arrival, -, exact, -⟩ := step_spec stepped
  rcases exact with rfl | tooFew
  · exact Nat.zero_le _
  · by_contra tooMany
    rw [ArrivalSchedule.remaining, List.length_append] at tooMany
    cases current : run.schedule.current with
    | none =>
        rw [ArrivalSchedule.next, current] at tooFew
        cases tooFew
    | some step =>
        rw [current] at tooMany
        apply ArrivalSchedule.next_ne_none _ tooFew
        rw [List.length_dropLast]
        simp only [Option.toList_some, List.length_singleton] at tooMany
        omega

/-- Every sequence of gaps lets the next call return. -/
theorem exists_step {steps : List ScheduledStep} (run : ScheduleRun) (gaps : Nat → Duration) :
    ∃ count next, (machine steps).step run ((List.range count).map gaps) = some next := by
  have enough : ∃ count, run.schedule.next ((List.range count).map gaps) ≠ none :=
    ⟨run.schedule.steps.length + 1, ArrivalSchedule.next_ne_none (by simp)⟩
  have found := Nat.find_spec enough
  have fewest := fun count => Nat.find_min enough (m := count)
  generalize Nat.find enough = count at found fewest
  obtain ⟨⟨arrival, schedule⟩, called⟩ := Option.ne_none_iff_exists'.mp found
  have exact : (List.range count).map gaps = [] ∨
      run.schedule.next ((List.range count).map gaps).dropLast = none := by
    cases count with
    | zero => exact .inl rfl
    | succ fewer =>
        right
        rw [List.range_succ, List.map_append, List.map_singleton, List.dropLast_concat]
        by_contra returned
        exact fewest fewer (Nat.lt_succ_self fewer) returned
  refine ⟨count, ⟨schedule, run.results ++ [arrival], run.drawn ++ (List.range count).map gaps⟩, ?_⟩
  simp only [machine, if_pos exact, called, Option.map_some]

/-- Whatever gaps are drawn, the arrivals are in order and inside of their steps, and every
call returns. -/
theorem schedule_wellFormed {steps : List ScheduledStep}
    (indexed : ScheduledStep.Indexed 0 steps) (ordered : Ordered steps) {run : ScheduleRun}
    (reachable : (machine steps).Reachable run) :
    run.WellFormed steps ∧
      (∀ gaps next, (machine steps).step run gaps = some next →
        gaps.length ≤ run.schedule.remaining.length) ∧
      ∀ gaps : Nat → Duration,
        ∃ count next, (machine steps).step run ((List.range count).map gaps) = some next :=
  ⟨wellFormed_of_reachable indexed ordered reachable, fun _ _ stepped => length_le_of_step stepped,
    exists_step run⟩

def threeSteps : List ScheduledStep :=
  [⟨0, 10, .ofNat 1⟩, ⟨1, 20, .ofNat 0⟩, ⟨2, 30, .ofNat 2⟩]

/-- The call after the second arrival draws two gaps: one is too long for the first step, and
the second step draws none. -/
theorem schedule_wellFormed_threeSteps :
    ∃ run : ScheduleRun, run.results =
        [some ⟨4, 0⟩, some ⟨7, 0⟩, some ⟨26, 2⟩, none, none] ∧
      run.WellFormed threeSteps := by
  have initial : (machine threeSteps).initial ⟨.new threeSteps, [], []⟩ := rfl
  obtain ⟨run, reachable, returned⟩ := (machine threeSteps).exists_reachable_of_exec
    initial [[4], [3], [5, 6], [7], []]
    (fun run => decide (run.results =
      [some ⟨4, 0⟩, some ⟨7, 0⟩, some ⟨26, 2⟩, none, none])) (by decide +kernel)
  exact ⟨run, of_decide_eq_true returned,
    (schedule_wellFormed (by unfold ScheduledStep.Indexed; decide)
      (by unfold Ordered; decide) reachable).1⟩

end ScheduleRun

end CreoBench
