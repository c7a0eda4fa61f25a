import CreoBench.LoadGenerator
import CreoBench.GeneratorStream
import CreoBench.ReportTimes

/-!
# A load generator can always finish

Wherever reporter, pacer and tasks of a started generator stand, time and they
themselves can bring it to the final update, unless a send has failed.  The pacer is
brought to its end first, then the steps that it has announced are reported, and the
transactions in flight end before the drain loop looks at them.
-/

open scoped List

namespace CreoBench

namespace ArrivalSchedule

/-- A gap as long as the step leaves no room for an arrival. -/
theorem exists_candidate_none (step : ScheduledStep) (clock : Duration) :
    ∃ drawn, ∀ rest, candidate step clock (drawn ++ rest) = some (none, rest) := by
  have late : ¬ clock + step.deadline < step.deadline := Nat.not_lt.mpr (Nat.le_add_left _ _)
  by_cases positive : step.rate.isPositive
  · exact ⟨[step.deadline], fun rest => by simp [candidate, positive, late]⟩
  · exact ⟨[], fun rest => by simp [candidate, positive]⟩

theorem exists_exhausting_from (step : ScheduledStep) (clock : Duration)
    (following : List ScheduledStep) :
    ∃ gaps schedule, nextFrom step clock following gaps = some (none, schedule) := by
  induction following generalizing step clock with
  | nil =>
      rcases exists_candidate_none step clock with ⟨drawn, exhausts⟩
      refine ⟨drawn ++ [], ⟨[], none, max clock step.deadline⟩, ?_⟩
      rw [nextFrom, exhausts]
  | cons later following ih =>
      rcases exists_candidate_none step clock with ⟨drawn, exhausts⟩
      rcases ih later (max clock step.deadline) with ⟨gaps, schedule, exhausted⟩
      refine ⟨drawn ++ gaps, schedule, ?_⟩
      rw [nextFrom, exhausts]
      exact exhausted

theorem exists_exhausting (schedule : ArrivalSchedule) :
    ∃ gaps schedule', schedule.next gaps = some (none, schedule') := by
  unfold next
  split
  · exact ⟨[], _, rfl⟩
  · exact exists_exhausting_from ..

end ArrivalSchedule

namespace Pacer

/-- The steps that the thread has before it if no arrival comes. -/
def rank : PacerPosition → Nat
  | .arrived _ => 4
  | .dispatched => 3
  | .next => 2
  | .trailing => 1
  | .done | .panicked => 0

def left (pacer : Pacer) : Nat :=
  pacer.targetTimes.length - pacer.nextStep + rank pacer.position

/-- With time and the right gaps, the thread comes closer to its end. -/
theorem exists_step_left_lt {pacer : Pacer} (coherent : pacer.Coherent)
    (notDone : pacer.position ≠ .done) (loadgeneratorId : LoadGeneratorId) (now : Instant) :
    ∃ elapsed gaps pacer' effect,
      pacer.step loadgeneratorId (now + elapsed) gaps = some (pacer', effect) ∧
        pacer'.left < pacer.left := by
  rcases coherent with ⟨-, first, -, -, ready⟩
  unfold Ready at ready
  cases positionEq : pacer.position with
  | next =>
      rcases pacer.schedule.exists_exhausting with ⟨gaps, schedule, exhausted⟩
      refine ⟨0, gaps, { pacer with schedule, position := .trailing }, .quiet, ?_, ?_⟩
      · simp [Pacer.step, positionEq, exhausted]
      · simp [left, rank, positionEq]
  | arrived arrival =>
      rw [positionEq] at ready
      rcases ready with ⟨arrivalStep, bound, -⟩
      by_cases earlier : pacer.nextStep < arrival.step
      · refine ⟨0, [], pacer.announce.1, pacer.announce.2, ?_, ?_⟩
        · simp [Pacer.step, positionEq, earlier]
        · simp only [left, announce, positionEq]
          omega
      · have due : pacer.timeZero.instant + arrival.offset ≤
            now + (pacer.timeZero.instant + arrival.offset) := Nat.le_add_left _ _
        have target := List.getElem?_eq_getElem (arrivalStep ▸ bound)
        have stepped : pacer.step loadgeneratorId
            (now + (pacer.timeZero.instant + arrival.offset)) [] =
              some ({ pacer with position := .dispatched },
                .dispatch ⟨loadgeneratorId, .scheduled pacer.timeZero ⟨arrival.offset⟩,
                  pacer.targetTimes[arrival.step]⟩) := by
          simp only [Pacer.step, positionEq, if_neg earlier, if_pos due, target]
        exact ⟨_, _, _, _, stepped, by simp [left, rank, positionEq]⟩
  | dispatched =>
      refine ⟨0, [], _, _, by simp only [Pacer.step, positionEq]; rfl, ?_⟩
      simp [left, rank, positionEq]
  | trailing =>
      by_cases unannounced : pacer.nextStep < pacer.targetTimes.length
      · refine ⟨0, [], pacer.announce.1, pacer.announce.2, ?_, ?_⟩
        · simp [Pacer.step, positionEq, unannounced]
        · simp only [left, announce, positionEq]
          omega
      · refine ⟨0, [], { pacer with position := .done }, .quiet, ?_, ?_⟩
        · simp [Pacer.step, positionEq, unannounced]
        · simp [left, rank, positionEq]
  | done => exact absurd positionEq notDone
  | panicked =>
      rw [positionEq] at ready
      cases ready

end Pacer

namespace ReadyHandle

/-- Steps that are not failing sends. -/
def sendsWork (_ : ReadyHandle) (event : Event) : Bool := event ≠ .sendFails

/-- Steps without a failing send can lead to the final update. -/
def CanFinish (handle : ReadyHandle) : Prop :=
  machine.CanReach sendsWork (fun final => .finished ∈ final.sent) handle

section Moves

variable {handle next : ReadyHandle}

/-- Time passes. -/
theorem CanFinish.tick (elapsed : Duration)
    (canFinish : { handle with now := handle.now + elapsed }.CanFinish) : handle.CanFinish :=
  .step (show sendsWork handle (.tick elapsed) = true from rfl) rfl canFinish

theorem CanFinish.report (reported : handle.report = some next) (canFinish : next.CanFinish) :
    handle.CanFinish :=
  .step (show sendsWork handle .report = true from rfl) reported canFinish

theorem CanFinish.pace {gaps : List Duration} (paced : handle.pace gaps = some next)
    (canFinish : next.CanFinish) : handle.CanFinish :=
  .step (show sendsWork handle (.pace gaps) = true from rfl) paced canFinish

theorem CanFinish.complete {index : Nat} {outcome : Outcome} {finishedAt : Instant}
    (completed : handle.complete index outcome finishedAt = some next)
    (canFinish : next.CanFinish) : handle.CanFinish :=
  .step (show sendsWork handle (.complete index outcome finishedAt) = true from rfl) completed
    canFinish

end Moves

/-- A reachable state whose profile can be scheduled. -/
structure Going (handle : ReadyHandle) : Prop where
  reachable : machine.Reachable handle
  converts : ScheduledStep.fromProfile handle.profile ≠ none

theorem Going.step {handle next : ReadyHandle} {event : Event} (going : handle.Going)
    (stepped : handle.step event = some next) : next.Going := by
  refine ⟨going.reachable.step trivial stepped, ?_⟩
  rw [(step_config stepped).2.1]
  exact going.converts

theorem Going.aligned {handle : ReadyHandle} (going : handle.Going) : handle.Aligned :=
  (wellReported_of_reachable going.reachable).aligned

theorem Going.report {handle next : ReadyHandle} (going : handle.Going)
    (reported : handle.report = some next) : next.Going :=
  going.step (show handle.step .report = some next from reported)

theorem Going.tick {handle : ReadyHandle} (going : handle.Going) (elapsed : Duration) :
    { handle with now := handle.now + elapsed }.Going :=
  going.step (show handle.step (.tick elapsed) = _ from rfl)

/-! ## The end -/

theorem canFinish_of_finished {handle : ReadyHandle} (going : handle.Going)
    (finished : handle.reporter = .finished) : handle.CanFinish := by
  refine .here ?_
  have ended := (streams_of_reachable going.reachable).ended.sent
  rw [finished] at ended
  rw [ended]
  exact List.mem_append_right _ List.mem_cons_self

theorem canFinish_of_finish {handle : ReadyHandle} (finish : handle.reporter = .finish) :
    handle.CanFinish := by
  have reported : handle.report = some
      { handle with sent := handle.sent ++ [.finished], reporter := .finished } := by
    simp only [report, finish]
  exact .report reported (.here (List.mem_append_right _ List.mem_cons_self))

/-- The transactions in flight end one after the other. -/
theorem canFinish_of_drain {handle : ReadyHandle} {timeZero : LoadTestTime}
    (going : handle.Going) (drain : handle.reporter = .loop (.drain timeZero)) :
    handle.CanFinish := by
  generalize tasksEq : handle.tasks = tasks
  induction tasks generalizing handle with
  | nil =>
      have none : handle.tracker.inflightCount = 0 := by
        rw [(streams_of_reachable going.reachable).conserved.inflightCount, tasksEq]
        rfl
      have reported : handle.report = some { handle with reporter := .finish } := by
        simp [report, drain, drainCheck, none]
      exact .report reported (canFinish_of_finish rfl)
  | cons task tasks ih =>
      have ends : ∃ next, handle.complete 0 (.dropped none .late) handle.now = some next ∧
          next.reporter = handle.reporter ∧ next.tasks = tasks := by
        simp [complete, tasksEq]
      rcases ends with ⟨next, completed, reporter, rest⟩
      have stepped : handle.step (.complete 0 (.dropped none .late) handle.now) = some next :=
        completed
      exact .complete completed (ih (going.step stepped) (reporter.trans drain) rest)

/-- A report has been sent, and its loop goes on. -/
structure GoesOn (handle next : ReadyHandle) (head : LoopHead) : Prop where
  going : next.Going
  reporter : next.reporter = .loop head
  stepsDone : next.stepsDone = handle.stepsDone
  pacer : next.pacer = handle.pacer
  warmup : next.warmup = handle.warmup

theorem canFinish_of_sending {handle : ReadyHandle} {report : IntervalReport} {head : LoopHead}
    (going : handle.Going) (sending : handle.reporter = .sending report head)
    (continues : ∀ next : ReadyHandle, handle.GoesOn next head → next.CanFinish) :
    handle.CanFinish := by
  have reported : handle.report = some { handle with
      sent := handle.sent ++ [.intervalReport report], reporter := .loop head } := by
    simp only [ReadyHandle.report, sending]
  exact .report reported (continues _ ⟨going.report reported, rfl, rfl, rfl, rfl⟩)

theorem canFinish_of_sleepDrain {handle : ReadyHandle} {timeZero targetTime : LoadTestTime}
    (going : handle.Going) (sleeping : handle.reporter = .sleepDrain timeZero targetTime) :
    handle.CanFinish := by
  refine .tick targetTime.instant ?_
  have later := going.tick targetTime.instant
  have due : targetTime.instant ≤ handle.now + targetTime.instant := Nat.le_add_left _ _
  have reported : ReadyHandle.report { handle with now := handle.now + targetTime.instant } =
      some (ReadyHandle.snapshot { handle with now := handle.now + targetTime.instant }
        (targetTime.durationSince timeZero) 0 none (.drain timeZero)) := by
    simp only [ReadyHandle.report, sleeping, reportDrain, if_pos due]
  refine .report reported (canFinish_of_sending (later.report reported) rfl ?_)
  exact fun next goesOn => canFinish_of_drain goesOn.going goesOn.reporter

theorem exists_addDeadline (timeZero : LoadTestTime) {now : Instant} (exact : ExactSeconds now) :
    ∃ targetTime, timeZero.addDeadline (drainDeadline (drainSecond timeZero now)) =
      some targetTime := by
  rcases drainSecond_bounds timeZero exact with ⟨-, small⟩
  have sum : (drainDeadline (drainSecond timeZero now)).value =
      Binary64.ofNat (1 + drainSecond timeZero now) := Binary64.add_ofNat (by omega)
  have deadline : Duration.fromSecsF64 (drainDeadline (drainSecond timeZero now)).value =
      some (Duration.fromSecs (drainSecond timeZero now + 1)) := by
    rw [sum, Nat.add_comm, Duration.fromSecsF64_ofNat (by omega)]
  refine ⟨timeZero.add ⟨Duration.fromSecs (drainSecond timeZero now + 1)⟩, ?_⟩
  rw [LoadTestTime.addDeadline, deadline, Option.map_some]

theorem canFinish_of_clock {handle : ReadyHandle} {timeZero : LoadTestTime}
    (going : handle.Going) (exact : ExactSeconds handle.now)
    (clock : handle.reporter = .clock timeZero) : handle.CanFinish := by
  rcases exists_addDeadline timeZero exact with ⟨targetTime, added⟩
  have reported : handle.report = some (handle.readClock timeZero) := by
    simp only [ReadyHandle.report, clock]
  have sleeping : (handle.readClock timeZero).reporter = .sleepDrain timeZero targetTime := by
    rw [readClock, added]
    rfl
  exact .report reported (canFinish_of_sleepDrain (going.report reported) sleeping)

/-! ## A phase -/

/-- Every announced step has a deadline and a load level. -/
theorem Running.exists_level {handle : ReadyHandle} {run : PhaseRun} {received index : Nat}
    (running : handle.Running run received)
    (announced : index < received + handle.stepsDone.length) :
    ∃ deadline loadLevel, run.deadlines[index]? = some deadline ∧
      run.loadLevels[index]? = some loadLevel := by
  rcases running.paced with ⟨pacer, -, coherent, targets, counted⟩
  have inDeadlines : index < run.deadlines.length := by
    have bounded := coherent.1
    rw [targets] at bounded
    omega
  have lengths : run.loadLevels.length = run.deadlines.length := by
    have phaseOf := running.phaseOf
    unfold PhaseOf at phaseOf
    cases phaseEq : run.phase with
    | warmup =>
        simp only [phaseEq] at phaseOf
        rw [phaseOf.1, phaseOf.2, List.length_replicate, List.length_map,
          ScheduledStep.length_fromWarmup]
    | load =>
        simp only [phaseEq] at phaseOf
        rcases phaseOf with ⟨steps, converted, deadlines, levels⟩
        rw [deadlines, levels, List.length_map, List.length_map,
          (ScheduledStep.fromSteps_eq_some converted).1]
  exact ⟨_, _, List.getElem?_eq_getElem inDeadlines,
    List.getElem?_eq_getElem (lengths ▸ inDeadlines)⟩

theorem canFinish_of_sleepStep {handle : ReadyHandle} {run : PhaseRun} {done : StepDone}
    (going : handle.Going) (sleeping : handle.reporter = .sleepStep run done)
    (continues : ∀ next : ReadyHandle, handle.GoesOn next (.receive run) → next.CanFinish) :
    handle.CanFinish := by
  have aligned := going.aligned
  rw [Aligned, sleeping] at aligned
  have announced : done.index < done.index + 1 + handle.stepsDone.length := by omega
  rcases aligned.2.exists_level announced with ⟨deadline, loadLevel, deadlineEq, levelEq⟩
  refine .tick (run.timeZero.add deadline).instant ?_
  have later := going.tick (run.timeZero.add deadline).instant
  have due : (run.timeZero.add deadline).instant ≤
      handle.now + (run.timeZero.add deadline).instant := Nat.le_add_left _ _
  have reported : ReadyHandle.report
      { handle with now := handle.now + (run.timeZero.add deadline).instant } =
      some (ReadyHandle.snapshot
        { handle with now := handle.now + (run.timeZero.add deadline).instant }
        deadline loadLevel done.lastDispatch (.receive run)) := by
    simp only [ReadyHandle.report, sleeping, reportStep, deadlineEq, levelEq, if_pos due]
  refine .report reported (canFinish_of_sending (later.report reported) rfl fun next goesOn => ?_)
  exact continues next
    ⟨goesOn.going, goesOn.reporter, goesOn.stepsDone, goesOn.pacer, goesOn.warmup⟩

/-- The steps in the channel are reported, and then the phase is over. -/
theorem canFinish_of_paced {handle : ReadyHandle} {run : PhaseRun} {pacer : Pacer}
    (going : handle.Going) (receiving : handle.reporter = .loop (.receive run))
    (pacerEq : handle.pacer = some pacer) (done : pacer.position = .done)
    (continues : ∀ next : ReadyHandle, next.Going →
      next.reporter = .loop (next.afterPhase run) → next.CanFinish) : handle.CanFinish := by
  generalize channel : handle.stepsDone = stepsDone
  induction stepsDone generalizing handle with
  | nil =>
      have reported : handle.report =
          some { handle with reporter := .loop (handle.afterPhase run) } := by
        simp [ReadyHandle.report, receiving, receive, channel, pacerEq, done]
      exact .report reported (continues _ (going.report reported) rfl)
  | cons announced stepsDone ih =>
      have reported : handle.report =
          some { handle with stepsDone, reporter := .sleepStep run announced } := by
        simp only [ReadyHandle.report, receiving, receive, channel]
      refine .report reported (canFinish_of_sleepStep (going.report reported) rfl ?_)
      intro next goesOn
      exact ih goesOn.going goesOn.reporter (goesOn.pacer.trans pacerEq) goesOn.stepsDone

/-- The pacer comes to its end first. -/
theorem canFinish_of_receive {handle : ReadyHandle} {run : PhaseRun}
    (going : handle.Going) (receiving : handle.reporter = .loop (.receive run))
    (continues : ∀ next : ReadyHandle, next.Going →
      next.reporter = .loop (next.afterPhase run) → next.CanFinish) : handle.CanFinish := by
  have running : ∀ other : ReadyHandle, other.Going →
      other.reporter = .loop (.receive run) → ∃ pacer, other.pacer = some pacer ∧
        pacer.Coherent := by
    intro other otherGoing otherReceiving
    have aligned := otherGoing.aligned
    rw [Aligned, otherReceiving] at aligned
    rcases aligned with ⟨received, -, running⟩
    rcases running.paced with ⟨pacer, pacerEq, coherent, -⟩
    exact ⟨pacer, pacerEq, coherent⟩
  rcases running handle going receiving with ⟨pacer, pacerEq, coherent⟩
  generalize leftEq : pacer.left = left
  induction left using Nat.strong_induction_on generalizing handle pacer with
  | _ left ih =>
      by_cases done : pacer.position = .done
      · exact canFinish_of_paced going receiving pacerEq done continues
      · rcases pacer.exists_step_left_lt coherent done handle.loadgeneratorId handle.now with
          ⟨elapsed, gaps, pacer', effect, stepped, less⟩
        refine .tick elapsed ?_
        have later := going.tick elapsed
        have paced : ∃ next, ReadyHandle.pace { handle with now := handle.now + elapsed } gaps =
            some next ∧ next.reporter = handle.reporter ∧ next.pacer = some pacer' := by
          cases effect <;> simp [ReadyHandle.pace, pacerEq, stepped, receiving]
        rcases paced with ⟨next, nextPaced, reporter, nextPacer⟩
        have nextStepped : ReadyHandle.step _ (.pace gaps) = some next := nextPaced
        have nextGoing := later.step nextStepped
        have nextReceiving := reporter.trans receiving
        rcases running next nextGoing nextReceiving with ⟨found, foundEq, nextCoherent⟩
        obtain rfl : found = pacer' := Option.some.inj (foundEq.symm.trans nextPacer)
        exact .pace nextPaced
          (ih _ (leftEq ▸ less) nextGoing nextReceiving _ foundEq nextCoherent rfl)

/-! ## Every position -/

theorem canFinish_of_loadPhase {handle : ReadyHandle} {run : PhaseRun} (going : handle.Going)
    (receiving : handle.reporter = .loop (.receive run)) (load : run.phase = .load) :
    handle.CanFinish := by
  refine canFinish_of_receive going receiving fun next nextGoing reporter => ?_
  rw [afterPhase, load] at reporter
  exact canFinish_of_drain nextGoing reporter

theorem canFinish_of_load {handle : ReadyHandle} (going : handle.Going)
    (load : handle.reporter = .load) : handle.CanFinish := by
  rcases Option.ne_none_iff_exists'.mp going.converts with ⟨steps, converted⟩
  have reported : handle.report =
      some (handle.runPhase .load steps (handle.profile.steps.map (·.count))) := by
    simp only [ReadyHandle.report, load, startLoad, converted]
  exact .report reported (canFinish_of_loadPhase (going.report reported) rfl rfl)

theorem canFinish_of_pause {handle : ReadyHandle} {pauseZero : LoadTestTime} {second : Nat}
    (going : handle.Going) (pause : handle.reporter = .loop (.pause pauseZero second)) :
    handle.CanFinish := by
  generalize leftEq : handle.warmup.pause.toNat + 1 - second = left
  induction left generalizing handle second with
  | zero =>
      have beyond : ¬ second ≤ handle.warmup.pause.toNat := by omega
      have reported : handle.report = some { handle with reporter := .load } := by
        simp only [ReadyHandle.report, pause, pauseSecond, if_neg beyond]
      exact .report reported (canFinish_of_load (going.report reported) rfl)
  | succ left ih =>
      have inPause : second ≤ handle.warmup.pause.toNat := by omega
      have small : second < 2 ^ 53 := by
        have bound := handle.warmup.pause.toNat_lt
        omega
      have isTime : ∃ targetTime, pauseZero.addDeadline (.fromSecs second) = some targetTime := by
        refine ⟨pauseZero.add ⟨Duration.fromSecs second⟩, ?_⟩
        rw [LoadTestTime.addDeadline, LoadStepDeadline.fromSecs, Duration.fromSecsF64_ofNat small,
          Option.map_some]
      rcases isTime with ⟨targetTime, added⟩
      refine .tick targetTime.instant ?_
      have later := going.tick targetTime.instant
      have due : targetTime.instant ≤ handle.now + targetTime.instant := Nat.le_add_left _ _
      have reported : ReadyHandle.report { handle with now := handle.now + targetTime.instant } =
          some (ReadyHandle.snapshot { handle with now := handle.now + targetTime.instant }
            (targetTime.durationSince pauseZero) 0 none (.pause pauseZero (second + 1))) := by
        simp only [ReadyHandle.report, pause, pauseSecond, if_pos inPause, added, if_pos due]
      refine .report reported
        (canFinish_of_sending (later.report reported) rfl fun next goesOn => ?_)
      have warmup : next.warmup = handle.warmup := goesOn.warmup
      exact ih goesOn.going goesOn.reporter (by rw [warmup]; omega)

theorem canFinish_of_warmupPhase {handle : ReadyHandle} {run : PhaseRun} (going : handle.Going)
    (receiving : handle.reporter = .loop (.receive run)) (warmup : run.phase = .warmup) :
    handle.CanFinish := by
  refine canFinish_of_receive going receiving fun next nextGoing reporter => ?_
  rw [afterPhase, warmup] at reporter
  exact canFinish_of_pause nextGoing reporter

theorem canFinish_of_run {handle : ReadyHandle} {run : PhaseRun} (going : handle.Going)
    (receiving : handle.reporter = .loop (.receive run)) : handle.CanFinish := by
  cases phaseEq : run.phase with
  | warmup => exact canFinish_of_warmupPhase going receiving phaseEq
  | load => exact canFinish_of_loadPhase going receiving phaseEq

theorem canFinish_of_loop {handle : ReadyHandle} {head : LoopHead} (going : handle.Going)
    (loop : handle.reporter = .loop head) : handle.CanFinish := by
  cases head with
  | receive run => exact canFinish_of_run going loop
  | pause pauseZero second => exact canFinish_of_pause going loop
  | drain timeZero => exact canFinish_of_drain going loop

theorem canFinish_of_warmup {handle : ReadyHandle} (going : handle.Going)
    (warmup : handle.reporter = .warmup) : handle.CanFinish := by
  have reported : handle.report =
      some (handle.runPhase .warmup (ScheduledStep.fromWarmup handle.warmup)
        (List.replicate (ScheduledStep.fromWarmup handle.warmup).length
          handle.warmup.rate)) := by
    simp only [ReadyHandle.report, warmup]
  exact .report reported (canFinish_of_warmupPhase (going.report reported) rfl rfl)

/-- Nothing that was dispatched is forgotten. -/
theorem prefix_dispatched {handle next : ReadyHandle} {event : Event}
    (stepped : handle.step event = some next) :
    handle.history.dispatched <+: next.history.dispatched := by
  cases event with
  | tick elapsed =>
      cases stepped
      exact List.prefix_refl _
  | pace gaps =>
      cases pace_cases stepped with
      | quiet | announced | receiverDropped => exact List.prefix_refl _
      | dispatched => exact List.prefix_append _ _
  | report => cases report_cases stepped <;> exact List.prefix_refl _
  | sendFails =>
      obtain rfl := sendFails_eq_some stepped
      exact List.prefix_refl _
  | complete index outcome finishedAt =>
      rcases complete_eq_some stepped with ⟨task, -, rfl⟩
      exact List.prefix_refl _

theorem prefix_dispatched_exec {permits : ReadyHandle → Event → Bool}
    {handle final : ReadyHandle} {events : List Event}
    (executed : machine.exec permits handle events = some final) :
    handle.history.dispatched <+: final.history.dispatched := by
  induction events generalizing handle with
  | nil =>
      obtain rfl : handle = final := Option.some.inj executed
      exact List.prefix_refl _
  | cons event events ih =>
      unfold Machine.exec at executed
      split_ifs at executed
      rcases Option.bind_eq_some_iff.mp executed with ⟨next, stepped, rest⟩
      exact (prefix_dispatched stepped).trans (ih rest)

section InFlight

private def busySecond : ReadyHandle :=
  new ⟨0⟩ ⟨[⟨.fromSecs 1, 1⟩]⟩ ⟨0, 0, 0⟩ 0

/-- A transaction is in flight when the reporter waits for the only step. -/
private def untilInFlight : List Event :=
  [.report, .pace [], .pace [], .report, .report, .report, .pace [500000000],
    .tick 500000000, .pace []]

end InFlight

end ReadyHandle

end CreoBench
