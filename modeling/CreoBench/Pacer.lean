import CreoBench.Schedule

/-!
# Pacing the arrivals of one phase

`Dispatcher::run_schedule` runs on a thread of its own.  It dispatches every
arrival at its scheduled time and announces each step once all of its arrivals
are dispatched.  Its loop is cut here at every point where other threads may be
observed: the wait for an arrival, the dispatch, the reading of the clock after
it, and every announcement.
-/

namespace CreoBench

/-- The announcement that all arrivals of a step have been dispatched. -/
structure StepDone where
  index : Nat
  lastDispatch : Option RelativeLoadTestTime
  deriving DecidableEq

/-- Where the thread stands in `run_schedule`. -/
inductive PacerPosition where
  /-- About to ask the schedule for the next arrival. -/
  | next
  /-- Announcing earlier steps or waiting for this arrival. -/
  | arrived (arrival : Arrival)
  /-- Just dispatched; the time of the dispatch is read next. -/
  | dispatched
  /-- After the last arrival, announcing the remaining steps. -/
  | trailing
  | done
  | panicked
  deriving DecidableEq

structure Pacer where
  timeZero : LoadTestTime
  targetTimes : List RelativeLoadTestTime
  schedule : ArrivalSchedule
  nextStep : Nat
  lastDispatch : Option RelativeLoadTestTime
  position : PacerPosition
  deriving DecidableEq

/-- What other parties see of one step of the thread. -/
inductive PacerEffect where
  | quiet
  | stepDone (done : StepDone)
  | dispatch (transaction : Transaction)
  deriving DecidableEq

namespace Pacer

def new (steps : List ScheduledStep) (timeZero : LoadTestTime) : Pacer where
  timeZero := timeZero
  targetTimes := steps.map fun step => ⟨step.deadline⟩
  schedule := .new steps
  nextStep := 0
  lastDispatch := none
  position := .next

/-- `last_dispatch.take()` and the announcement of `next_step`. -/
def announce (pacer : Pacer) : Pacer × PacerEffect :=
  ({ pacer with nextStep := pacer.nextStep + 1, lastDispatch := none },
    .stepDone ⟨pacer.nextStep, pacer.lastDispatch⟩)

/-- One step of the thread; `none` while it waits for an arrival, or for gaps
that are not in `gaps`. -/
def step (pacer : Pacer) (loadgeneratorId : LoadGeneratorId) (now : Instant)
    (gaps : List Duration) : Option (Pacer × PacerEffect) :=
  match pacer.position with
  | .next =>
      match pacer.schedule.next gaps with
      | none => none
      | some (some arrival, schedule) =>
          some ({ pacer with schedule, position := .arrived arrival }, .quiet)
      | some (none, schedule) =>
          some ({ pacer with schedule, position := .trailing }, .quiet)
  | .arrived arrival =>
      if pacer.nextStep < arrival.step then some pacer.announce
      else if pacer.timeZero.instant + arrival.offset ≤ now then
        match pacer.targetTimes[arrival.step]? with
        | none => some ({ pacer with position := .panicked }, .quiet)
        | some targetTime =>
            some ({ pacer with position := .dispatched },
              .dispatch
                { loadgeneratorId
                  startTime := .scheduled pacer.timeZero ⟨arrival.offset⟩
                  targetTime })
      else none
  | .dispatched =>
      some ({ pacer with
        lastDispatch := some (pacer.timeZero.elapsed now)
        position := .next }, .quiet)
  | .trailing =>
      if pacer.nextStep < pacer.targetTimes.length then some pacer.announce
      else some ({ pacer with position := .done }, .quiet)
  | .done => none
  | .panicked => none

/-- What a position promises when the next arrivals belong to step `first`. -/
def Ready (pacer : Pacer) (first : Nat) : Prop :=
  match pacer.position with
  | .next | .dispatched =>
      pacer.schedule.remaining ≠ [] → pacer.nextStep ≤ first
  | .arrived arrival =>
      arrival.step = first ∧ first < pacer.targetTimes.length ∧ pacer.nextStep ≤ first
  | .trailing => True
  | .done => pacer.nextStep = pacer.targetTimes.length
  | .panicked => False

/-- The remaining steps of the schedule are the last of the phase, and no step
that can still have arrivals has been announced. -/
def Coherent (pacer : Pacer) : Prop :=
  pacer.nextStep ≤ pacer.targetTimes.length ∧
    ∃ first, ScheduledStep.Indexed first pacer.schedule.remaining ∧
      first + pacer.schedule.remaining.length = pacer.targetTimes.length ∧
      pacer.Ready first

theorem coherent_new {steps : List ScheduledStep} (timeZero : LoadTestTime)
    (indexed : ScheduledStep.Indexed 0 steps) : (new steps timeZero).Coherent :=
  ⟨Nat.zero_le _, 0, by simpa [new] using indexed, by simp [new],
    fun _ => Nat.zero_le _⟩

theorem not_panicked {pacer : Pacer} (coherent : pacer.Coherent) :
    pacer.position ≠ .panicked := by
  obtain ⟨-, first, -, -, ready⟩ := coherent
  intro panicked
  simp [Ready, panicked] at ready

theorem nextStep_of_done {pacer : Pacer} (coherent : pacer.Coherent)
    (done : pacer.position = .done) : pacer.nextStep = pacer.targetTimes.length := by
  obtain ⟨-, first, -, -, ready⟩ := coherent
  simpa [Ready, done] using ready

/-- A suffix of consecutively numbered steps starts where the dropped ones end. -/
private theorem indexed_suffix {first total : Nat}
    {steps suffix : List ScheduledStep} (suffixed : suffix <:+ steps)
    (indexed : ScheduledStep.Indexed first steps)
    (lengthEq : first + steps.length = total) :
    ∃ first', first ≤ first' ∧ ScheduledStep.Indexed first' suffix ∧
      first' + suffix.length = total := by
  obtain ⟨dropped, rfl⟩ := suffixed
  refine ⟨first + dropped.length, Nat.le_add_right _ _, ?_, ?_⟩
  · have numbered : (dropped ++ suffix).map (·.index) =
        List.range' first (dropped ++ suffix).length := indexed
    rw [List.map_append, List.length_append, ← List.range'_append_1] at numbered
    exact (List.append_inj numbered (by simp)).2
  · rw [List.length_append] at lengthEq
    omega

/-- How a step of the thread is announced and which steps may still dispatch. -/
theorem step_spec {pacer pacer' : Pacer} {loadgeneratorId : LoadGeneratorId}
    {now : Instant} {gaps : List Duration} {effect : PacerEffect}
    (coherent : pacer.Coherent)
    (stepped : pacer.step loadgeneratorId now gaps = some (pacer', effect)) :
    pacer'.Coherent ∧ pacer'.targetTimes = pacer.targetTimes ∧
      match effect with
      | .quiet => pacer'.nextStep = pacer.nextStep
      | .stepDone done =>
          done.index = pacer.nextStep ∧ pacer'.nextStep = pacer.nextStep + 1
      | .dispatch _ =>
          pacer'.nextStep = pacer.nextStep ∧
            pacer.nextStep < pacer.targetTimes.length := by
  obtain ⟨nextStepLe, first, indexed, lengthEq, ready⟩ := coherent
  unfold step at stepped
  split at stepped
  case h_1 atNext =>
    split at stepped
    · cases stepped
    · rename_i arrival schedule called
      cases stepped
      obtain ⟨suffixed, stepEq⟩ := ArrivalSchedule.next_spec called
      obtain ⟨first', firstLe, indexed', lengthEq'⟩ :=
        indexed_suffix suffixed indexed lengthEq
      -- an arrival leaves the schedule at its own step, the first remaining one
      obtain ⟨current, currentEq, arrivalStep⟩ :
          ∃ current, schedule.current = some current ∧ current.index = arrival.step := by
        simpa [eq_comm] using stepEq
      have remainingEq : schedule.remaining = current :: schedule.steps := by
        simp [ArrivalSchedule.remaining, currentEq]
      have notExhausted : pacer.schedule.remaining ≠ [] := by
        intro exhausted
        rw [exhausted, remainingEq] at suffixed
        simp at suffixed
      simp only [Ready, atNext] at ready
      have nextLe := ready notExhausted
      have currentIndex : current.index = first' := by
        rw [remainingEq] at indexed'
        exact (ScheduledStep.Indexed.cons_iff.mp indexed').1
      have currentLt : first' < pacer.targetTimes.length := by
        rw [remainingEq, List.length_cons] at lengthEq'
        omega
      exact ⟨⟨nextStepLe, first', indexed', lengthEq',
        by simp only [Ready]; omega⟩, rfl, rfl⟩
    · rename_i schedule called
      cases stepped
      obtain ⟨suffixed, stepEq⟩ := ArrivalSchedule.next_spec called
      obtain ⟨first', firstLe, indexed', lengthEq'⟩ :=
        indexed_suffix suffixed indexed lengthEq
      exact ⟨⟨nextStepLe, first', indexed', lengthEq', trivial⟩, rfl, rfl⟩
  case h_2 arrival atArrival =>
    simp only [Ready, atArrival] at ready
    obtain ⟨arrivalStep, firstLt, nextLe⟩ := ready
    split_ifs at stepped with earlier due
    · cases stepped
      refine ⟨⟨?_, first, indexed, lengthEq, ?_⟩, rfl, rfl, rfl⟩
      · change pacer.nextStep + 1 ≤ pacer.targetTimes.length
        omega
      · simp only [Ready, atArrival]
        omega
    · split at stepped
      · rename_i noTarget
        rw [List.getElem?_eq_none_iff] at noTarget
        omega
      · cases stepped
        exact ⟨⟨nextStepLe, first, indexed, lengthEq, fun _ => nextLe⟩, rfl, rfl,
          by omega⟩
  case h_3 atDispatched =>
    cases stepped
    simp only [Ready, atDispatched] at ready
    exact ⟨⟨nextStepLe, first, indexed, lengthEq, ready⟩, rfl, rfl⟩
  case h_4 atTrailing =>
    split_ifs at stepped with unannounced
    · cases stepped
      refine ⟨⟨unannounced, first, indexed, lengthEq, ?_⟩, rfl, rfl, rfl⟩
      simp [Ready, atTrailing]
    · cases stepped
      refine ⟨⟨nextStepLe, first, indexed, lengthEq, ?_⟩, rfl, rfl⟩
      simp only [Ready]
      omega
  case h_5 | h_6 => cases stepped

end Pacer

end CreoBench
