import CreoBench.ArrivalRuns
import CreoBench.Pacer

/-!
# The account of one phase

The thread that paces a phase dispatches arrivals and announces steps until the
schedule is exhausted or an announcement finds no receiver.  Here it takes step
after step on a clock that never goes back, and what others see of it is kept in
a list.
-/

namespace CreoBench

/-- What others see of the thread; a dispatch is kept with the arrival it is for. -/
inductive PacerNote where
  | stepDone (done : StepDone)
  | dispatched (arrival : Arrival) (dispatchedAt : Instant) (transaction : Transaction)
  deriving DecidableEq

namespace PacerNote

def arrival? : PacerNote → Option Arrival
  | stepDone _ => none
  | dispatched arrival _ _ => some arrival

def done? : PacerNote → Option StepDone
  | stepDone done => some done
  | dispatched _ _ _ => none

end PacerNote

def PacerEffect.done? : PacerEffect → Option StepDone
  | .stepDone done => some done
  | _ => none

/-- An entry of the account: an arrival or the end of a step. -/
inductive AccountEntry where
  | arrival (arrival : Arrival)
  | stepEnd (index : Nat)
  deriving DecidableEq

def PacerNote.entry : PacerNote → AccountEntry
  | stepDone done => .stepEnd done.index
  | dispatched arrival _ _ => .arrival arrival

def dispatchedIn (notes : List PacerNote) : List Arrival := notes.filterMap PacerNote.arrival?

/-- The arrivals of one step. -/
def arrivalsOf (arrivals : List Arrival) (index : Nat) : List Arrival :=
  arrivals.filter fun arrival => arrival.step = index

/-- Each of the first `count` steps with all its arrivals, in order. -/
def account (arrivals : List Arrival) (count : Nat) : List AccountEntry :=
  (List.range count).flatMap fun index =>
    (arrivalsOf arrivals index).map .arrival ++ [.stepEnd index]

/-- One step of the thread: what the clock shows, which gaps are drawn and whether the
receiver of the announcements is gone. -/
structure PacerEvent where
  now : Instant
  gaps : List Duration
  receiverGone : Bool

structure PacerRun where
  pacer : Pacer
  results : List (Option Arrival)
  drawn : List Duration
  clock : Instant
  notes : List PacerNote
  refused : Option StepDone
  deriving DecidableEq

namespace PacerRun

/-- The arrivals that the schedule has returned. -/
def arrivals (run : PacerRun) : List Arrival := run.results.filterMap id

def dispatched (run : PacerRun) : List Arrival := dispatchedIn run.notes

def announced (run : PacerRun) : List StepDone := run.notes.filterMap PacerNote.done?

def start (pacer : Pacer) : PacerRun := ⟨pacer, [], [], 0, [], none⟩

def new (steps : List ScheduledStep) (timeZero : LoadTestTime) : PacerRun :=
  start (.new steps timeZero)

/-- What the schedule has returned in this step, if it was called. -/
def returned (before after : Pacer) : List (Option Arrival) :=
  match before.position, after.position with
  | .next, .arrived arrival => [some arrival]
  | .next, _ => [none]
  | _, _ => []

def notesOf (before : Pacer) (now : Instant) : PacerEffect → List PacerNote
  | .quiet => []
  | .stepDone done => [.stepDone done]
  | .dispatch transaction =>
      match before.position with
      | .arrived arrival => [.dispatched arrival now transaction]
      | _ => []

/-- Gaps are drawn by calls of the schedule only, and no more than a call needs. -/
def Draws (pacer : Pacer) (gaps : List Duration) : Prop :=
  gaps = [] ∨ pacer.position = .next ∧ pacer.schedule.next gaps.dropLast = none

instance (pacer : Pacer) (gaps : List Duration) : Decidable (Draws pacer gaps) :=
  inferInstanceAs (Decidable (_ ∨ _))

/-- One step of the thread; a failed announcement ends the function. -/
def step (generator : LoadGeneratorId) (run : PacerRun) (event : PacerEvent) :
    Option PacerRun :=
  if run.refused = none ∧ run.clock ≤ event.now ∧ Draws run.pacer event.gaps then
    (run.pacer.step generator event.now event.gaps).map fun (pacer, effect) =>
      match effect, event.receiverGone with
      | .stepDone done, true => { run with clock := event.now, refused := some done }
      | _, _ =>
          { run with
            pacer
            results := run.results ++ returned run.pacer pacer
            drawn := run.drawn ++ event.gaps
            clock := event.now
            notes := run.notes ++ notesOf run.pacer event.now effect }
  else none

def machine (generator : LoadGeneratorId) (steps : List ScheduledStep)
    (timeZero : LoadTestTime) : Machine PacerRun PacerEvent where
  initial run := run = .new steps timeZero
  step := step generator

theorem timeZero_of_step {pacer pacer' : Pacer} {generator : LoadGeneratorId} {now : Instant}
    {gaps : List Duration} {effect : PacerEffect}
    (stepped : pacer.step generator now gaps = some (pacer', effect)) :
    pacer'.timeZero = pacer.timeZero := by
  unfold Pacer.step at stepped
  split at stepped
  case h_1 => split at stepped <;> cases stepped <;> rfl
  case h_2 =>
    split_ifs at stepped
    · cases stepped
      rfl
    · split at stepped <;> cases stepped <;> rfl
  case h_3 =>
    cases stepped
    rfl
  case h_4 => split_ifs at stepped <;> cases stepped <;> rfl
  case h_5 | h_6 => cases stepped

/-- A step goes with a step of the thread; all but a failed announcement is recorded. -/
theorem step_eq_some {generator : LoadGeneratorId} {run next : PacerRun} {event : PacerEvent}
    (stepped : run.step generator event = some next) :
    ∃ pacer effect, run.pacer.step generator event.now event.gaps = some (pacer, effect) ∧
      next.clock = event.now ∧ run.clock ≤ event.now ∧
        ((effect.done?.isSome ∧ event.receiverGone = true ∧ next.pacer = run.pacer ∧
            next.announced = run.announced) ∨
          (¬(effect.done?.isSome ∧ event.receiverGone = true) ∧ next.pacer = pacer ∧
            next.refused = none ∧ next.announced = run.announced ++ effect.done?.toList)) := by
  simp only [step, Option.ite_none_right_eq_some, Option.map_eq_some_iff, Prod.exists] at stepped
  obtain ⟨⟨unrefused, clock, -⟩, pacer, effect, paced, rfl⟩ := stepped
  refine ⟨pacer, effect, paced, ?_⟩
  cases effect with
  | quiet =>
      refine ⟨rfl, clock, .inr ⟨by simp [PacerEffect.done?], rfl, unrefused, ?_⟩⟩
      simp [announced, notesOf, PacerEffect.done?]
  | stepDone done =>
      cases event.receiverGone with
      | true => exact ⟨rfl, clock, .inl ⟨rfl, rfl, rfl, rfl⟩⟩
      | false =>
          refine ⟨rfl, clock, .inr ⟨by simp, rfl, unrefused, ?_⟩⟩
          simp [announced, notesOf, PacerNote.done?, PacerEffect.done?]
  | dispatch transaction =>
      refine ⟨rfl, clock, .inr ⟨by simp [PacerEffect.done?], rfl, unrefused, ?_⟩⟩
      simp only [announced, notesOf]
      split <;> simp [PacerNote.done?, PacerEffect.done?]

/-- A step of a pacer thread keeps its zero and takes back no announcement. -/
theorem grows_of_step {generator : LoadGeneratorId} {run next : PacerRun}
    {event : PacerEvent} (stepped : run.step generator event = some next) :
    next.pacer.timeZero = run.pacer.timeZero ∧ ∀ done ∈ run.announced, done ∈ next.announced := by
  obtain ⟨pacer, effect, paced, -, -, record⟩ := step_eq_some stepped
  rcases record with ⟨-, -, pacerEq, announcedEq⟩ | ⟨-, pacerEq, -, announcedEq⟩
  · rw [pacerEq, announcedEq]
    exact ⟨rfl, fun _ member => member⟩
  · rw [pacerEq, announcedEq]
    exact ⟨timeZero_of_step paced, fun _ member => List.mem_append_left _ member⟩

/-- The thread is about to announce its next step. -/
def Announces (pacer : Pacer) : Prop :=
  (∃ arrival, pacer.position = .arrived arrival ∧ pacer.nextStep < arrival.step) ∨
    pacer.position = .trailing ∧ pacer.nextStep < pacer.targetTimes.length

/-- The steps of the thread, by what they do. -/
inductive Moves (generator : LoadGeneratorId) (run : PacerRun) (event : PacerEvent) :
    PacerRun → Prop
  | arrive (arrival : Arrival) (schedule : ArrivalSchedule) :
      run.pacer.position = .next → Draws run.pacer event.gaps →
      run.pacer.schedule.next event.gaps = some (some arrival, schedule) →
        Moves generator run event
          { run with
            pacer := { run.pacer with schedule, position := .arrived arrival }
            results := run.results ++ [some arrival]
            drawn := run.drawn ++ event.gaps
            clock := event.now }
  | exhaust (schedule : ArrivalSchedule) :
      run.pacer.position = .next → Draws run.pacer event.gaps →
      run.pacer.schedule.next event.gaps = some (none, schedule) →
        Moves generator run event
          { run with
            pacer := { run.pacer with schedule, position := .trailing }
            results := run.results ++ [none]
            drawn := run.drawn ++ event.gaps
            clock := event.now }
  | announce :
      Announces run.pacer → event.gaps = [] →
        Moves generator run event
          { run with
            pacer := run.pacer.announce.1
            clock := event.now
            notes := run.notes ++ [.stepDone ⟨run.pacer.nextStep, run.pacer.lastDispatch⟩] }
  | refuse :
      Announces run.pacer → event.gaps = [] →
        Moves generator run event
          { run with
            clock := event.now
            refused := some ⟨run.pacer.nextStep, run.pacer.lastDispatch⟩ }
  | dispatch (arrival : Arrival) (targetTime : RelativeLoadTestTime) :
      run.pacer.position = .arrived arrival → ¬run.pacer.nextStep < arrival.step →
      run.pacer.timeZero.instant + arrival.offset ≤ event.now →
      run.pacer.targetTimes[arrival.step]? = some targetTime → event.gaps = [] →
        Moves generator run event
          { run with
            pacer := { run.pacer with position := .dispatched }
            clock := event.now
            notes := run.notes ++ [.dispatched arrival event.now
              { loadgeneratorId := generator
                startTime := .scheduled run.pacer.timeZero ⟨arrival.offset⟩
                targetTime }] }
  | panic (arrival : Arrival) :
      run.pacer.position = .arrived arrival → ¬run.pacer.nextStep < arrival.step →
      run.pacer.targetTimes[arrival.step]? = none → event.gaps = [] →
        Moves generator run event
          { run with
            pacer := { run.pacer with position := .panicked }
            clock := event.now }
  | read :
      run.pacer.position = .dispatched → event.gaps = [] →
        Moves generator run event
          { run with
            pacer := { run.pacer with
              lastDispatch := some (run.pacer.timeZero.elapsed event.now)
              position := .next }
            clock := event.now }
  | finish :
      run.pacer.position = .trailing → ¬run.pacer.nextStep < run.pacer.targetTimes.length →
      event.gaps = [] →
        Moves generator run event
          { run with pacer := { run.pacer with position := .done }, clock := event.now }

theorem step_cases {generator : LoadGeneratorId} {steps : List ScheduledStep}
    {timeZero : LoadTestTime} {run next : PacerRun} {event : PacerEvent}
    (stepped : (machine generator steps timeZero).step run event = some next) :
    run.refused = none ∧ run.clock ≤ event.now ∧ Moves generator run event next := by
  simp only [machine, step, Option.ite_none_right_eq_some, Option.map_eq_some_iff, Prod.exists]
    at stepped
  obtain ⟨⟨open', clock, draws⟩, pacer, effect, paced, rfl⟩ := stepped
  refine ⟨open', clock, ?_⟩
  have noGaps : run.pacer.position ≠ .next → event.gaps = [] := by
    intro elsewhere
    rcases draws with empty | ⟨atNext, -⟩
    · exact empty
    · exact absurd atNext elsewhere
  unfold Pacer.step at paced
  split at paced
  case h_1 atNext =>
    split at paced
    · cases paced
    · rename_i arrival schedule called
      cases paced
      simpa [returned, notesOf, atNext] using Moves.arrive arrival schedule atNext draws called
    · rename_i schedule called
      cases paced
      simpa [returned, notesOf, atNext] using Moves.exhaust schedule atNext draws called
  case h_2 arrival atArrival =>
    have noDraws := noGaps (by simp [atArrival])
    split_ifs at paced with earlier due
    · have announces : Announces run.pacer := .inl ⟨arrival, atArrival, earlier⟩
      cases paced
      cases event.receiverGone with
      | false => simpa [Pacer.announce, returned, notesOf, atArrival, noDraws] using
          Moves.announce announces noDraws
      | true => exact Moves.refuse announces noDraws
    · split at paced
      · rename_i noTarget
        cases paced
        simpa [returned, notesOf, atArrival, noDraws] using
          Moves.panic arrival atArrival earlier noTarget noDraws
      · rename_i targetTime target
        cases paced
        simpa [returned, notesOf, atArrival, noDraws] using
          Moves.dispatch arrival targetTime atArrival earlier due target noDraws
  case h_3 atDispatched =>
    have noDraws := noGaps (by simp [atDispatched])
    cases paced
    simpa [returned, notesOf, atDispatched, noDraws] using Moves.read atDispatched noDraws
  case h_4 atTrailing =>
    have noDraws := noGaps (by simp [atTrailing])
    split_ifs at paced with unannounced
    · have announces : Announces run.pacer := .inr ⟨atTrailing, unannounced⟩
      cases paced
      cases event.receiverGone with
      | false => simpa [Pacer.announce, returned, notesOf, atTrailing, noDraws] using
          Moves.announce announces noDraws
      | true => exact Moves.refuse announces noDraws
    · cases paced
      simpa [returned, notesOf, atTrailing, noDraws] using Moves.finish atTrailing unannounced noDraws
  case h_5 | h_6 => cases paced

end PacerRun

/-! ## The books -/

@[simp]
theorem dispatchedIn_concat_stepDone (notes : List PacerNote) (done : StepDone) :
    dispatchedIn (notes ++ [.stepDone done]) = dispatchedIn notes := by
  simp [dispatchedIn, PacerNote.arrival?]

@[simp]
theorem dispatchedIn_concat_dispatched (notes : List PacerNote) (arrival : Arrival)
    (dispatchedAt : Instant) (transaction : Transaction) :
    dispatchedIn (notes ++ [.dispatched arrival dispatchedAt transaction]) =
      dispatchedIn notes ++ [arrival] := by
  simp [dispatchedIn, PacerNote.arrival?]

theorem arrivalsOf_eq_nil {arrivals : List Arrival} {index : Nat}
    (others : ∀ arrival ∈ arrivals, arrival.step ≠ index) : arrivalsOf arrivals index = [] := by
  simpa [arrivalsOf] using others

theorem account_succ (arrivals : List Arrival) (count : Nat) :
    account arrivals (count + 1) =
      account arrivals count ++ (arrivalsOf arrivals count).map .arrival ++ [.stepEnd count] := by
  simp [account, List.range_succ]

/-- An arrival of a later step leaves the account of the earlier ones as it is. -/
theorem account_concat {arrivals : List Arrival} {arrival : Arrival} {count : Nat}
    (later : count ≤ arrival.step) :
    account (arrivals ++ [arrival]) count = account arrivals count := by
  unfold account
  apply List.flatMap_congr
  intro index member
  have other : arrival.step ≠ index := by
    have := List.mem_range.mp member
    omega
  simp [arrivalsOf, other]

/-- The time that a step announces is there if the step has had arrivals, and then it is no
earlier than any of them. -/
def Latest (arrivals : List Arrival) (index : Nat) (last : Option RelativeLoadTestTime) : Prop :=
  (last.isSome ↔ ∃ arrival ∈ arrivals, arrival.step = index) ∧
    ∀ time, last = some time →
      ∀ arrival ∈ arrivals, arrival.step = index → arrival.offset ≤ time.duration

theorem Latest.concat {arrivals : List Arrival} {arrival : Arrival} {index : Nat}
    {last : Option RelativeLoadTestTime} (latest : Latest arrivals index last)
    (other : arrival.step ≠ index) : Latest (arrivals ++ [arrival]) index last := by
  constructor
  · rw [latest.1]
    simp [other]
  · intro time lastEq later member stepEq
    rcases List.mem_append.mp member with old | new
    · exact latest.2 time lastEq later old stepEq
    · rw [List.mem_singleton.mp new] at stepEq
      exact absurd stepEq other

/-- What is on record when `count` steps have been announced. -/
structure Booked (generator : LoadGeneratorId) (steps : List ScheduledStep)
    (timeZero : LoadTestTime) (notes : List PacerNote) (count : Nat) (clock : Instant) :
    Prop where
  entries : notes.map PacerNote.entry = account (dispatchedIn notes) count ++
    (arrivalsOf (dispatchedIn notes) count).map .arrival
  early : ∀ arrival ∈ dispatchedIn notes, arrival.step ≤ count
  dispatches : ∀ arrival dispatchedAt transaction,
    .dispatched arrival dispatchedAt transaction ∈ notes →
      timeZero.instant + arrival.offset ≤ dispatchedAt ∧ dispatchedAt ≤ clock ∧
        ∃ step, steps[arrival.step]? = some step ∧
          transaction = ⟨generator, .scheduled timeZero ⟨arrival.offset⟩, ⟨step.deadline⟩⟩
  announcements : ∀ done, .stepDone done ∈ notes →
    done.index < count ∧ Latest (dispatchedIn notes) done.index done.lastDispatch

namespace Booked

variable {generator : LoadGeneratorId} {steps : List ScheduledStep} {timeZero : LoadTestTime}
variable {notes : List PacerNote} {count : Nat} {clock now : Instant}

theorem later (booked : Booked generator steps timeZero notes count clock) (le : clock ≤ now) :
    Booked generator steps timeZero notes count now := by
  constructor
  · exact booked.entries
  · exact booked.early
  · intro arrival dispatchedAt transaction member
    obtain ⟨due, before, described⟩ := booked.dispatches arrival dispatchedAt transaction member
    exact ⟨due, before.trans le, described⟩
  · exact booked.announcements

/-- Every dispatch was due before now. -/
theorem due (booked : Booked generator steps timeZero notes count clock) {arrival : Arrival}
    (member : arrival ∈ dispatchedIn notes) : timeZero.instant + arrival.offset ≤ clock := by
  obtain ⟨note, noteMem, arrivalEq⟩ := List.mem_filterMap.mp member
  cases note with
  | stepDone done => cases arrivalEq
  | dispatched arrival dispatchedAt transaction =>
      cases arrivalEq
      obtain ⟨due, before, -⟩ := booked.dispatches _ _ _ noteMem
      exact due.trans before

/-- The step after the one that is announced next has had no arrivals. -/
theorem not_succ (booked : Booked generator steps timeZero notes count clock) :
    ∀ arrival ∈ dispatchedIn notes, arrival.step ≠ count + 1 := by
  intro arrival member
  have early := booked.early arrival member
  omega

/-- A step starts out with no time to announce. -/
theorem latest_succ (booked : Booked generator steps timeZero notes count clock) :
    Latest (dispatchedIn notes) (count + 1) none := by
  constructor
  · simpa using booked.not_succ
  · rintro _ ⟨⟩

/-- Once the next step has had an arrival, the time that is read is one to announce. -/
theorem latest_elapsed (booked : Booked generator steps timeZero notes count clock)
    (justDispatched : ∃ arrival ∈ dispatchedIn notes, arrival.step = count) :
    Latest (dispatchedIn notes) count (some (timeZero.elapsed clock)) := by
  constructor
  · exact ⟨fun _ => justDispatched, fun _ => rfl⟩
  · rintro _ ⟨⟩ arrival member -
    exact Nat.le_sub_of_add_le' (booked.due member)

/-- The next step is announced. -/
theorem announce (booked : Booked generator steps timeZero notes count clock)
    {last : Option RelativeLoadTestTime} (latest : Latest (dispatchedIn notes) count last) :
    Booked generator steps timeZero (notes ++ [.stepDone ⟨count, last⟩]) (count + 1) clock := by
  constructor
  · rw [dispatchedIn_concat_stepDone, arrivalsOf_eq_nil booked.not_succ, account_succ,
      List.map_append, booked.entries]
    simp [PacerNote.entry]
  · rw [dispatchedIn_concat_stepDone]
    exact fun arrival member => (booked.early arrival member).trans (Nat.le_succ count)
  · intro arrival dispatchedAt transaction member
    apply booked.dispatches arrival dispatchedAt transaction
    simpa using member
  · rw [dispatchedIn_concat_stepDone]
    intro done member
    rcases List.mem_append.mp member with old | new
    · obtain ⟨less, latest⟩ := booked.announcements done old
      exact ⟨Nat.lt_succ_of_lt less, latest⟩
    · obtain rfl := PacerNote.stepDone.inj (List.mem_singleton.mp new)
      exact ⟨Nat.lt_succ_self count, latest⟩

/-- An arrival of the step that is announced next is dispatched. -/
theorem dispatch (booked : Booked generator steps timeZero notes count clock)
    {arrival : Arrival} {step : ScheduledStep} (current : arrival.step = count)
    (stepAt : steps[arrival.step]? = some step) (due : timeZero.instant + arrival.offset ≤ clock) :
    Booked generator steps timeZero
      (notes ++ [.dispatched arrival clock
        ⟨generator, .scheduled timeZero ⟨arrival.offset⟩, ⟨step.deadline⟩⟩]) count clock := by
  constructor
  · rw [dispatchedIn_concat_dispatched, account_concat current.ge, List.map_append,
      booked.entries]
    simp [arrivalsOf, current, PacerNote.entry]
  · rw [dispatchedIn_concat_dispatched]
    intro other member
    rcases List.mem_append.mp member with old | new
    · exact booked.early other old
    · rw [List.mem_singleton.mp new, current]
  · intro other dispatchedAt transaction member
    rcases List.mem_append.mp member with old | new
    · exact booked.dispatches other dispatchedAt transaction old
    · cases List.mem_singleton.mp new
      exact ⟨due, Nat.le_refl _, step, stepAt, rfl⟩
  · rw [dispatchedIn_concat_dispatched]
    intro done member
    have old : .stepDone done ∈ notes := by simpa using member
    obtain ⟨less, latest⟩ := booked.announcements done old
    exact ⟨less, latest.concat (by omega)⟩

end Booked

namespace PacerRun

/-- The arrival that is waited for. -/
def pendingAt : PacerPosition → List Arrival
  | .arrived arrival => [arrival]
  | _ => []

/-- The invariant of the thread and its notes. -/
structure Accounted (generator : LoadGeneratorId) (steps : List ScheduledStep)
    (timeZero : LoadTestTime) (run : PacerRun) : Prop where
  coherent : run.pacer.Coherent
  started : run.pacer.timeZero = timeZero
  targets : run.pacer.targetTimes = steps.map fun step => ⟨step.deadline⟩
  booked : Booked generator steps timeZero run.notes run.pacer.nextStep run.clock
  announced : run.announced.map (·.index) = List.range run.pacer.nextStep
  pending : run.arrivals = run.dispatched ++ pendingAt run.pacer.position
  latest : run.pacer.position ≠ .dispatched →
    Latest run.dispatched run.pacer.nextStep run.pacer.lastDispatch
  justDispatched : run.pacer.position = .dispatched →
    ∃ arrival ∈ run.dispatched, arrival.step = run.pacer.nextStep
  exhausted : run.pacer.position = .trailing ∨ run.pacer.position = .done → none ∈ run.results
  refusal : ∀ done, run.refused = some done →
    Announces run.pacer ∧ done = ⟨run.pacer.nextStep, run.pacer.lastDispatch⟩

variable {generator : LoadGeneratorId} {steps : List ScheduledStep} {timeZero : LoadTestTime}
variable {run next : PacerRun} {event : PacerEvent}

theorem accounted_new (indexed : ScheduledStep.Indexed 0 steps) :
    (new steps timeZero).Accounted generator steps timeZero := by
  constructor
  · exact Pacer.coherent_new timeZero indexed
  · rfl
  · rfl
  · exact ⟨rfl, by simp [new, start, dispatchedIn], by simp [new, start], by simp [new, start]⟩
  · rfl
  · rfl
  · exact fun _ => ⟨by simp [new, start, Pacer.new, dispatched, dispatchedIn],
      by simp [new, start, Pacer.new]⟩
  · simp [new, start, Pacer.new]
  · simp [new, start, Pacer.new]
  · simp [new, start]

/-- A step leaves the thread coherent. -/
theorem coherent_step (coherent : run.pacer.Coherent)
    (stepped : (machine generator steps timeZero).step run event = some next) :
    next.pacer.Coherent := by
  simp only [machine, step, Option.ite_none_right_eq_some, Option.map_eq_some_iff, Prod.exists]
    at stepped
  obtain ⟨-, pacer, effect, paced, rfl⟩ := stepped
  split
  · exact coherent
  · exact (Pacer.step_spec coherent paced).1

/-- The arrival that is waited for belongs to a step that is not yet announced. -/
theorem step_of_arrived {pacer : Pacer} {arrival : Arrival} (coherent : pacer.Coherent)
    (arrived : pacer.position = .arrived arrival) :
    pacer.nextStep ≤ arrival.step ∧ arrival.step < pacer.targetTimes.length := by
  obtain ⟨-, first, -, -, ready⟩ := coherent
  rw [Pacer.Ready, arrived] at ready
  obtain ⟨stepEq, bound, le⟩ := ready
  omega

theorem Announces.not_dispatched {pacer : Pacer} (announces : Announces pacer) :
    pacer.position ≠ .dispatched := by
  rcases announces with ⟨arrival, arrived, -⟩ | ⟨trailing, -⟩
  · rw [arrived]
    exact PacerPosition.noConfusion
  · rw [trailing]
    exact PacerPosition.noConfusion

namespace Accounted

variable {now : Instant}

/-- The thread moves on without a dispatch or an announcement. -/
theorem goto (accounted : run.Accounted generator steps timeZero) (clock : run.clock ≤ now)
    (unrefused : run.refused = none) {schedule : ArrivalSchedule} {position : PacerPosition}
    {results : List (Option Arrival)} {drawn : List Duration}
    (coherent : Pacer.Coherent { run.pacer with schedule, position })
    (leaves : run.pacer.position ≠ .dispatched) (reaches : position ≠ .dispatched)
    (pending : results.filterMap id = run.dispatched ++ pendingAt position)
    (exhausted : position = .trailing ∨ position = .done → none ∈ results) :
    Accounted generator steps timeZero
      { run with pacer := { run.pacer with schedule, position }, results, drawn, clock := now } := by
  constructor
  · exact coherent
  · exact accounted.started
  · exact accounted.targets
  · exact accounted.booked.later clock
  · exact accounted.announced
  · exact pending
  · exact fun _ => accounted.latest leaves
  · exact fun dispatched => absurd dispatched reaches
  · exact exhausted
  · simp [unrefused]

/-- The next step is announced, and nobody refuses it. -/
theorem announce (accounted : run.Accounted generator steps timeZero) (clock : run.clock ≤ now)
    (announces : Announces run.pacer) (unrefused : run.refused = none)
    (coherent : run.pacer.announce.1.Coherent) :
    Accounted generator steps timeZero
      { run with
        pacer := run.pacer.announce.1
        clock := now
        notes := run.notes ++ [.stepDone ⟨run.pacer.nextStep, run.pacer.lastDispatch⟩] } := by
  have booked := accounted.booked.later clock
  have latest := accounted.latest announces.not_dispatched
  have kept : dispatchedIn (run.notes ++
      [.stepDone ⟨run.pacer.nextStep, run.pacer.lastDispatch⟩]) = dispatchedIn run.notes :=
    dispatchedIn_concat_stepDone _ _
  constructor
  · exact coherent
  · exact accounted.started
  · exact accounted.targets
  · exact booked.announce latest
  · have announced := accounted.announced
    simp only [PacerRun.announced] at announced
    simp [PacerRun.announced, PacerNote.done?, announced, Pacer.announce, List.range_succ]
  · have pending := accounted.pending
    simp only [dispatched] at pending ⊢
    rw [kept]
    exact pending
  · intro _
    simp only [dispatched]
    rw [kept]
    exact booked.latest_succ
  · intro dispatched
    exact absurd dispatched announces.not_dispatched
  · exact accounted.exhausted
  · simp [unrefused]

/-- The arrival that is waited for is due, and is dispatched. -/
theorem dispatch (accounted : run.Accounted generator steps timeZero) (clock : run.clock ≤ now)
    {arrival : Arrival} {targetTime : RelativeLoadTestTime}
    (arrived : run.pacer.position = .arrived arrival)
    (notEarlier : ¬run.pacer.nextStep < arrival.step)
    (due : run.pacer.timeZero.instant + arrival.offset ≤ now)
    (target : run.pacer.targetTimes[arrival.step]? = some targetTime)
    (unrefused : run.refused = none)
    (coherent : Pacer.Coherent { run.pacer with position := .dispatched }) :
    Accounted generator steps timeZero
      { run with
        pacer := { run.pacer with position := .dispatched }
        clock := now
        notes := run.notes ++ [.dispatched arrival now
          ⟨generator, .scheduled run.pacer.timeZero ⟨arrival.offset⟩, targetTime⟩] } := by
  have booked := accounted.booked.later clock
  obtain ⟨notLater, -⟩ := step_of_arrived accounted.coherent arrived
  have current : arrival.step = run.pacer.nextStep := by omega
  rw [accounted.targets, List.getElem?_map, Option.map_eq_some_iff] at target
  obtain ⟨step, stepAt, rfl⟩ := target
  rw [accounted.started] at due
  constructor
  · exact coherent
  · exact accounted.started
  · exact accounted.targets
  · rw [accounted.started]
    exact booked.dispatch current stepAt due
  · have announced := accounted.announced
    simp only [PacerRun.announced] at announced
    simp [PacerRun.announced, PacerNote.done?, announced]
  · have pending := accounted.pending
    rw [arrived] at pending
    simpa [arrivals, dispatched, pendingAt] using pending
  · exact fun notDispatched => absurd rfl notDispatched
  · intro _
    exact ⟨arrival, by simp [dispatched], current⟩
  · rintro (⟨⟨⟩⟩ | ⟨⟨⟩⟩)
  · simp [unrefused]

/-- The time of the dispatch is read. -/
theorem read (accounted : run.Accounted generator steps timeZero) (clock : run.clock ≤ now)
    (atDispatched : run.pacer.position = .dispatched) (unrefused : run.refused = none)
    (coherent : Pacer.Coherent
      { run.pacer with lastDispatch := some (run.pacer.timeZero.elapsed now), position := .next }) :
    Accounted generator steps timeZero
      { run with
        pacer := { run.pacer with
          lastDispatch := some (run.pacer.timeZero.elapsed now)
          position := .next }
        clock := now } := by
  have booked := accounted.booked.later clock
  constructor
  · exact coherent
  · exact accounted.started
  · exact accounted.targets
  · exact booked
  · exact accounted.announced
  · have pending := accounted.pending
    rw [atDispatched] at pending
    exact pending
  · intro _
    rw [accounted.started]
    exact booked.latest_elapsed (accounted.justDispatched atDispatched)
  · rintro ⟨⟩
  · rintro (⟨⟨⟩⟩ | ⟨⟨⟩⟩)
  · simp [unrefused]

end Accounted

theorem step_accounted (accounted : run.Accounted generator steps timeZero)
    (stepped : (machine generator steps timeZero).step run event = some next) :
    next.Accounted generator steps timeZero := by
  have coherent := coherent_step accounted.coherent stepped
  obtain ⟨unrefused, clock, moves⟩ := step_cases stepped
  have pending := accounted.pending
  unfold arrivals at pending
  cases moves with
  | arrive arrival schedule atNext _ called =>
      rw [atNext] at pending
      apply accounted.goto clock unrefused coherent (by simp [atNext]) PacerPosition.noConfusion
      · simpa [pendingAt] using pending
      · rintro (⟨⟨⟩⟩ | ⟨⟨⟩⟩)
  | exhaust schedule atNext _ called =>
      rw [atNext] at pending
      apply accounted.goto clock unrefused coherent (by simp [atNext]) PacerPosition.noConfusion
      · simpa [pendingAt] using pending
      · exact fun _ => List.mem_append_right _ List.mem_cons_self
  | announce announces => exact accounted.announce clock announces unrefused coherent
  | refuse announces =>
      constructor
      · exact coherent
      · exact accounted.started
      · exact accounted.targets
      · exact accounted.booked.later clock
      · exact accounted.announced
      · exact accounted.pending
      · exact accounted.latest
      · exact accounted.justDispatched
      · exact accounted.exhausted
      · rintro _ ⟨⟩
        exact ⟨announces, rfl⟩
  | dispatch arrival targetTime arrived notEarlier due target =>
      exact accounted.dispatch clock arrived notEarlier due target unrefused coherent
  | panic arrival arrived notEarlier target =>
      exact absurd rfl (Pacer.not_panicked coherent)
  | read atDispatched => exact accounted.read clock atDispatched unrefused coherent
  | finish trailing =>
      rw [trailing] at pending
      apply accounted.goto clock unrefused coherent (by simp [trailing]) PacerPosition.noConfusion
      · exact pending
      · exact fun _ => accounted.exhausted (.inl trailing)

theorem accounted_of_reachable (indexed : ScheduledStep.Indexed 0 steps)
    (reachable : (machine generator steps timeZero).Reachable run) :
    run.Accounted generator steps timeZero := by
  apply reachable.invariant
  · rintro _ rfl
    exact accounted_new indexed
  · exact fun _ _ _ accounted _ stepped => step_accounted accounted stepped

/-! ## Whole phases -/

def scheduleRun (run : PacerRun) : ScheduleRun := ⟨run.pacer.schedule, run.results, run.drawn⟩

/-- The calls that the thread makes are calls of its schedule, each with the gaps it draws. -/
theorem scheduleRun_of_reachable
    (reachable : (machine generator steps timeZero).Reachable run) :
    (ScheduleRun.machine steps).Reachable run.scheduleRun := by
  apply reachable.project scheduleRun
  · rintro _ rfl
    rfl
  · intro run event next _ stepped
    obtain ⟨-, -, moves⟩ := step_cases stepped
    cases moves with
    | arrive arrival schedule atNext draws called =>
        right
        refine ⟨event.gaps, trivial, ?_⟩
        have exact := draws.imp_right And.right
        simp only [ScheduleRun.machine, scheduleRun, if_pos exact, called, Option.map_some]
    | exhaust schedule atNext draws called =>
        right
        refine ⟨event.gaps, trivial, ?_⟩
        have exact := draws.imp_right And.right
        simp only [ScheduleRun.machine, scheduleRun, if_pos exact, called, Option.map_some]
    | announce | refuse | dispatch | panic | read | finish => exact .inl rfl

/-- How far the thread has come. -/
def progress (run : PacerRun) : Nat :=
  3 * run.arrivals.length + run.pacer.nextStep + (if run.refused.isSome then 1 else 0) +
    match run.pacer.position with
    | .arrived _ => 0
    | .dispatched => 1
    | .next => 2
    | .trailing => 3
    | .done => 4
    | .panicked => 5

theorem progress_step
    (stepped : (machine generator steps timeZero).step run event = some next) :
    run.progress < next.progress := by
  obtain ⟨unrefused, -, moves⟩ := step_cases stepped
  cases moves with
  | arrive arrival schedule atNext =>
      simp [progress, atNext, arrivals]
      omega
  | exhaust schedule atNext => simp [progress, atNext, arrivals]
  | announce => simp [progress, arrivals, Pacer.announce]
  | refuse => simp [progress, unrefused, arrivals]
  | dispatch arrival targetTime arrived => simp [progress, arrived, arrivals]
  | panic arrival arrived => simp [progress, arrived, arrivals]
  | read atDispatched => simp [progress, atDispatched, arrivals]
  | finish trailing => simp [progress, trailing, arrivals]

theorem Accounted.progress_le (accounted : run.Accounted generator steps timeZero) :
    run.progress ≤ 3 * run.arrivals.length + steps.length + 4 := by
  have count := accounted.coherent.1
  have notPanicked := Pacer.not_panicked accounted.coherent
  rw [accounted.targets, List.length_map] at count
  unfold progress
  cases refusedEq : run.refused with
  | none =>
      cases position : run.pacer.position with
      | panicked => exact absurd position notPanicked
      | next | arrived | dispatched | trailing | done =>
          simp only [Option.isSome_none, Bool.false_eq_true, if_false]
          omega
  | some done =>
      obtain ⟨announces, -⟩ := accounted.refusal done refusedEq
      rcases announces with ⟨arrival, arrived, -⟩ | ⟨trailing, -⟩
      · simp only [arrived, Option.isSome_some, if_true]
        omega
      · simp only [trailing, Option.isSome_some, if_true]
        omega

/-- Until it returns, the thread takes its next step once the clock shows a late enough time. -/
theorem exists_step (coherent : run.pacer.Coherent) (unrefused : run.refused = none)
    (running : run.pacer.position ≠ .done) (gaps : Nat → Duration) :
    ∃ count due, ∀ now receiverGone, due ≤ now →
      ∃ next, (machine generator steps timeZero).step run
        ⟨now, (List.range count).map gaps, receiverGone⟩ = some next := by
  have moves : ∃ count due, Draws run.pacer ((List.range count).map gaps) ∧ ∀ now, due ≤ now →
      ∃ paced, run.pacer.step generator now ((List.range count).map gaps) = some paced := by
    unfold Pacer.step
    cases position : run.pacer.position with
    | next =>
        obtain ⟨count, next, called⟩ : ∃ count next, (ScheduleRun.machine steps).step
            run.scheduleRun ((List.range count).map gaps) = some next :=
          ScheduleRun.exists_step run.scheduleRun gaps
        obtain ⟨arrival, called, exact, -⟩ := ScheduleRun.step_spec called
        rw [show run.scheduleRun.schedule = run.pacer.schedule from rfl] at called exact
        refine ⟨count, 0, exact.imp_right fun fewer => ⟨position, fewer⟩, fun now _ => ?_⟩
        cases arrival with
        | none => simp [called]
        | some arrival => simp [called]
    | arrived arrival =>
        refine ⟨0, run.pacer.timeZero.instant + arrival.offset, .inl rfl, fun now due => ?_⟩
        dsimp only
        by_cases earlier : run.pacer.nextStep < arrival.step
        · exact ⟨_, if_pos earlier⟩
        · rw [if_neg earlier, if_pos due]
          cases run.pacer.targetTimes[arrival.step]? with
          | none => exact ⟨_, rfl⟩
          | some targetTime => exact ⟨_, rfl⟩
    | dispatched => exact ⟨0, 0, .inl rfl, fun now _ => by simp⟩
    | trailing =>
        refine ⟨0, 0, .inl rfl, fun now _ => ?_⟩
        by_cases unannounced : run.pacer.nextStep < run.pacer.targetTimes.length <;>
          simp [unannounced]
    | done => exact absurd position running
    | panicked => exact absurd position (Pacer.not_panicked coherent)
  obtain ⟨count, due, draws, enabled⟩ := moves
  refine ⟨count, max run.clock due, fun now receiverGone late => ?_⟩
  obtain ⟨paced, pacedEq⟩ := enabled now ((Nat.le_max_right _ _).trans late)
  simp only [machine, step, unrefused, (Nat.le_max_left _ _).trans late, draws, and_self, if_true,
    pacedEq, Option.map_some]
  exact ⟨_, rfl⟩

/-- How a phase is accounted for, at any moment of it. -/
structure AccountedFor (generator : LoadGeneratorId) (steps : List ScheduledStep)
    (timeZero : LoadTestTime) (run : PacerRun) : Prop where
  /-- The arrivals are those of a schedule over the steps. -/
  schedule : (ScheduleRun.machine steps).Reachable run.scheduleRun
  inOrder : run.announced.map (·.index) = List.range run.announced.length
  /-- All arrivals of a step are dispatched before it is announced, and those of later steps
  afterwards. -/
  entries : run.notes.map PacerNote.entry =
    account run.dispatched run.announced.length ++
      (arrivalsOf run.dispatched run.announced.length).map .arrival
  lastDispatch : ∀ done ∈ run.announced, Latest run.arrivals done.index done.lastDispatch
  dispatched : run.arrivals = run.dispatched ++ pendingAt run.pacer.position
  dispatches : ∀ arrival dispatchedAt transaction,
    .dispatched arrival dispatchedAt transaction ∈ run.notes →
      timeZero.instant + arrival.offset ≤ dispatchedAt ∧
        ∃ step, steps[arrival.step]? = some step ∧
          transaction = ⟨generator, .scheduled timeZero ⟨arrival.offset⟩, ⟨step.deadline⟩⟩
  finished : run.pacer.position = .done →
    run.refused = none ∧ none ∈ run.results ∧ run.dispatched = run.arrivals ∧
      run.announced.length = steps.length ∧
        run.notes.map PacerNote.entry = account run.arrivals steps.length
  /-- A failed announcement is the last thing that happens. -/
  refusal : ∀ done, run.refused = some done →
    done.index = run.announced.length ∧ (∀ arrival ∈ run.dispatched, arrival.step ≤ done.index) ∧
      ∀ event, (machine generator steps timeZero).step run event = none

theorem Accounted.announced_length (accounted : run.Accounted generator steps timeZero) :
    run.announced.length = run.pacer.nextStep := by
  rw [← List.length_map (f := StepDone.index), accounted.announced, List.length_range]

/-- An announced step has had all its arrivals. -/
theorem Accounted.lastDispatch (accounted : run.Accounted generator steps timeZero)
    {done : StepDone} (member : done ∈ run.announced) :
    Latest run.arrivals done.index done.lastDispatch := by
  obtain ⟨note, noteMem, doneEq⟩ := List.mem_filterMap.mp member
  cases note with
  | dispatched arrival dispatchedAt transaction => cases doneEq
  | stepDone announced =>
      cases doneEq
      obtain ⟨less, latest⟩ := accounted.booked.announcements done noteMem
      rw [accounted.pending]
      cases position : run.pacer.position with
      | arrived arrival =>
          obtain ⟨notLater, -⟩ := step_of_arrived accounted.coherent position
          exact latest.concat (by omega)
      | next | dispatched | trailing | done | panicked =>
          rw [pendingAt, List.append_nil]
          · exact latest
          all_goals simp

theorem Accounted.step_lt (accounted : run.Accounted generator steps timeZero)
    {arrival : Arrival} (member : arrival ∈ run.dispatched) : arrival.step < steps.length := by
  obtain ⟨note, noteMem, arrivalEq⟩ := List.mem_filterMap.mp member
  cases note with
  | stepDone done => cases arrivalEq
  | dispatched _ dispatchedAt transaction =>
      cases arrivalEq
      obtain ⟨-, -, step, stepAt, -⟩ := accounted.booked.dispatches _ _ _ noteMem
      exact (List.getElem?_eq_some_iff.mp stepAt).1

theorem accountedFor_of_reachable (indexed : ScheduledStep.Indexed 0 steps)
    (reachable : (machine generator steps timeZero).Reachable run) :
    run.AccountedFor generator steps timeZero := by
  have accounted := accounted_of_reachable indexed reachable
  have count := accounted.announced_length
  constructor
  · exact scheduleRun_of_reachable reachable
  · rw [count, accounted.announced]
  · rw [count]
    exact accounted.booked.entries
  · exact fun done member => accounted.lastDispatch member
  · exact accounted.pending
  · intro arrival dispatchedAt transaction member
    obtain ⟨due, -, described⟩ := accounted.booked.dispatches _ _ _ member
    exact ⟨due, described⟩
  · intro done
    have everyStep := Pacer.nextStep_of_done accounted.coherent done
    rw [accounted.targets, List.length_map] at everyStep
    have pending := accounted.pending
    rw [done] at pending
    have dispatched : run.dispatched = run.arrivals := by simpa [pendingAt] using pending.symm
    refine ⟨?_, accounted.exhausted (.inr done), dispatched, by rw [count, everyStep], ?_⟩
    · cases refusedEq : run.refused with
      | none => rfl
      | some refused =>
          obtain ⟨announces, -⟩ := accounted.refusal refused refusedEq
          rcases announces with ⟨arrival, arrived, -⟩ | ⟨trailing, -⟩
          · rw [done] at arrived
            cases arrived
          · rw [done] at trailing
            cases trailing
    · have entries := accounted.booked.entries
      have noneLeft : arrivalsOf (dispatchedIn run.notes) run.pacer.nextStep = [] := by
        apply arrivalsOf_eq_nil
        intro arrival member
        have := accounted.step_lt member
        omega
      rw [noneLeft, List.map_nil, List.append_nil, everyStep] at entries
      rw [← dispatched]
      exact entries
  · intro done refused
    obtain ⟨-, rfl⟩ := accounted.refusal done refused
    refine ⟨count.symm, accounted.booked.early, fun event => ?_⟩
    simp [machine, step, refused]

/-- Every step and every arrival of a phase is accounted for, and the thread takes steps until
it returns: it returns if the schedule has finitely many arrivals. -/
theorem run_schedule_accounts (indexed : ScheduledStep.Indexed 0 steps) {events : List PacerEvent}
    (executed : (machine generator steps timeZero).exec (fun _ _ => true) (new steps timeZero)
      events = some run) :
    run.AccountedFor generator steps timeZero ∧
      events.length ≤ 3 * run.arrivals.length + steps.length + 2 ∧
      (run.refused = none → run.pacer.position ≠ .done → ∀ gaps : Nat → Duration,
        ∃ count due, ∀ now receiverGone, due ≤ now →
          ∃ next, (machine generator steps timeZero).step run
            ⟨now, (List.range count).map gaps, receiverGone⟩ = some next) := by
  have reachable : (machine generator steps timeZero).Reachable run :=
    Machine.reachableBy_of_exec (fun _ _ _ => trivial) events (.start rfl) executed
  have accounted := accounted_of_reachable indexed reachable
  have length := Machine.length_le_of_exec (fun _ _ _ => progress_step) executed
  have start : (new steps timeZero).progress = 2 := rfl
  have limit := accounted.progress_le
  refine ⟨accountedFor_of_reachable indexed reachable, by omega, ?_⟩
  exact fun unrefused running => exists_step accounted.coherent unrefused running

/-- The first step has two arrivals, the second one none, and the announcement of the third
finds no receiver. -/
theorem run_schedule_accounts_threeSteps :
    ∃ run : PacerRun, run.announced = [⟨0, some ⟨9⟩⟩, ⟨1, none⟩] ∧
      run.refused = some ⟨2, some ⟨27⟩⟩ ∧
      run.AccountedFor ⟨1⟩ ScheduleRun.threeSteps ⟨100⟩ := by
  have executed : ((machine ⟨1⟩ ScheduleRun.threeSteps ⟨100⟩).exec (fun _ _ => true)
      (new ScheduleRun.threeSteps ⟨100⟩)
      [⟨0, [4], false⟩, ⟨104, [], false⟩, ⟨105, [], false⟩,
        ⟨106, [3], false⟩, ⟨108, [], false⟩, ⟨109, [], false⟩,
        ⟨109, [5, 6], false⟩, ⟨110, [], false⟩, ⟨110, [], false⟩,
        ⟨126, [], false⟩, ⟨127, [], false⟩, ⟨128, [7], false⟩, ⟨130, [], true⟩]).any
      (fun run => decide (run.announced = [⟨0, some ⟨9⟩⟩, ⟨1, none⟩] ∧
        run.refused = some ⟨2, some ⟨27⟩⟩)) = true := by
    decide +kernel
  obtain ⟨run, runEq, checked⟩ := (Option.any_eq_true _ _).mp executed
  have outcome := of_decide_eq_true checked
  have accounted : run.AccountedFor ⟨1⟩ ScheduleRun.threeSteps ⟨100⟩ :=
    (run_schedule_accounts (by unfold ScheduledStep.Indexed; decide) runEq).1
  exact ⟨run, outcome.1, outcome.2, accounted⟩

end PacerRun

end CreoBench
