import CreoBench.Library.TransitionSystem
import CreoBench.Pacer

/-!
# A load generator that was told to start

The machine interleaves three parties: the reporter, which runs `warmup` and
then `load_test`; the pacer thread of the current phase; and the tasks of the
dispatched transactions, each of which logs its result once.  The reporter is
cut at every point where the other parties may run, in particular between
building a report and having sent it.  Time passes by events of its own.
-/

namespace CreoBench

namespace ReadyHandle

inductive Phase where
  | warmup
  | load
  deriving DecidableEq

/-- The local variables of `run_phase`. -/
structure PhaseRun where
  phase : Phase
  timeZero : LoadTestTime
  deadlines : List RelativeLoadTestTime
  loadLevels : List UInt32
  deriving DecidableEq

/-- The heads of the three loops that send interval reports. -/
inductive LoopHead where
  /-- `steps_done.recv()` in `run_phase`. -/
  | receive (run : PhaseRun)
  /-- The pause of the warmup, waiting for its `second`-th second. -/
  | pause (pauseZero : LoadTestTime) (second : Nat)
  /-- The check for transactions in flight in `load_test`. -/
  | drain (timeZero : LoadTestTime)
  deriving DecidableEq

/-- Where the reporter stands. -/
inductive Reporter where
  | warmup
  | loop (head : LoopHead)
  /-- Sleeping until the deadline of a step that is done. -/
  | sleepStep (run : PhaseRun) (done : StepDone)
  | load
  /-- Transactions were in flight; the elapsed time is read next. -/
  | clock (timeZero : LoadTestTime)
  | sleepDrain (timeZero targetTime : LoadTestTime)
  /-- Inside `framed.send`, after which the loop continues. -/
  | sending (report : IntervalReport) (head : LoopHead)
  /-- Inside the `framed.send` of the final update. -/
  | finish
  | finished
  | failed
  deriving DecidableEq

/-- A dispatched transaction and the phase whose schedule it comes from. -/
structure Task where
  phase : Phase
  transaction : Transaction
  deriving DecidableEq

/-- A logged result, with the number of reports built before it was logged. -/
structure Logged where
  task : Task
  result : TransactionResult
  reportsBefore : Nat
  deriving DecidableEq

/-- What happened so far; no step of the code depends on it. -/
structure History where
  dispatched : List Task
  logged : List Logged
  drainSeconds : List Nat
  deriving DecidableEq

inductive Event where
  | tick (elapsed : Duration)
  | pace (gaps : List Duration)
  | report
  | sendFails
  /-- The task at `index` ends with a result built at `finishedAt` and logs it. -/
  | complete (index : Nat) (outcome : Outcome) (finishedAt : Instant)
  deriving DecidableEq

end ReadyHandle

open ReadyHandle in
structure ReadyHandle where
  loadgeneratorId : LoadGeneratorId
  profile : LoadProfile
  warmup : Warmup
  now : Instant
  tracker : Tracker
  phase : ReadyHandle.Phase
  pacer : Option Pacer
  stepsDone : List StepDone
  tasks : List Task
  reporter : Reporter
  sent : List GeneratorUpdate
  history : History
  deriving DecidableEq

namespace ReadyHandle

/-- A generator at the moment it receives the start command. -/
def new (loadgeneratorId : LoadGeneratorId) (profile : LoadProfile) (warmup : Warmup)
    (now : Instant) : ReadyHandle where
  loadgeneratorId := loadgeneratorId
  profile := profile
  warmup := warmup
  now := now
  tracker := .new
  phase := .warmup
  pacer := none
  stepsDone := []
  tasks := []
  reporter := .warmup
  sent := []
  history := ⟨[], [], []⟩

/-- The reports among the updates sent so far. -/
def reportsIn (updates : List GeneratorUpdate) : List IntervalReport :=
  updates.filterMap fun
    | .intervalReport report => some report
    | .finished => none

def Reporter.unsent : Reporter → List IntervalReport
  | .sending report _ => [report]
  | _ => []

/-- All reports built so far, the last of which may not be sent yet. -/
def reports (handle : ReadyHandle) : List IntervalReport :=
  reportsIn handle.sent ++ handle.reporter.unsent

/-- The number of reports at fixed times: the seconds of warmup and pause and the
steps of the profile. -/
def scheduledReports (handle : ReadyHandle) : Nat :=
  handle.warmup.duration.toNat + handle.warmup.pause.toNat + handle.profile.steps.length

/-- Take the statistics of the interval and start sending them. -/
def snapshot (handle : ReadyHandle) (targetTime : RelativeLoadTestTime)
    (loadLevel : UInt32) (finalBatchTime : Option RelativeLoadTestTime)
    (head : LoopHead) : ReadyHandle :=
  let (stats, tracker) := handle.tracker.intervalStatistics
  { handle with
    tracker
    reporter := .sending { targetTime, loadLevel, stats, finalBatchTime } head }

/-- The beginning of `run_phase`: a fresh channel and a fresh pacer thread. -/
def runPhase (handle : ReadyHandle) (phase : Phase) (steps : List ScheduledStep)
    (loadLevels : List UInt32) : ReadyHandle :=
  let timeZero : LoadTestTime := ⟨handle.now⟩
  { handle with
    phase
    pacer := some (.new steps timeZero)
    stepsDone := []
    reporter := .loop (.receive
      { phase, timeZero, loadLevels
        deadlines := steps.map fun step => ⟨step.deadline⟩ }) }

/-- Where the reporter continues when `run_phase` returns. -/
def afterPhase (handle : ReadyHandle) (run : PhaseRun) : LoopHead :=
  match run.phase with
  | .warmup => .pause ⟨handle.now⟩ 1
  | .load => .drain run.timeZero

/-- The whole seconds that a drain round reads from the clock. -/
def drainSecond (timeZero : LoadTestTime) (now : Instant) : Nat :=
  (timeZero.elapsed now).duration.asSecsF64.floorNat

/-- The offset of the target time of a drain round, one second after the second
in which the clock was read. -/
def drainDeadline (second : Nat) : LoadStepDeadline :=
  (LoadStepDeadline.fromSecs 1).add (Binary64.ofNat second)

/-- `steps_done.recv()`: the next step that is done, or the end of the phase. -/
def receive (handle : ReadyHandle) (run : PhaseRun) : Option ReadyHandle :=
  match handle.stepsDone with
  | done :: stepsDone => some { handle with stepsDone, reporter := .sleepStep run done }
  | [] =>
      -- The channel is closed once the pacer has ended.
      match handle.pacer.map Pacer.position with
      | some .done => some { handle with reporter := .loop (handle.afterPhase run) }
      | some .panicked => some { handle with reporter := .failed }
      | _ => none

/-- The end of the sleep until the deadline of a step. -/
def reportStep (handle : ReadyHandle) (run : PhaseRun) (done : StepDone) :
    Option ReadyHandle :=
  match run.deadlines[done.index]?, run.loadLevels[done.index]? with
  | some deadline, some loadLevel =>
      if (run.timeZero.add deadline).instant ≤ handle.now then
        some (handle.snapshot deadline loadLevel done.lastDispatch (.receive run))
      else none
  | _, _ => some { handle with reporter := .failed }

/-- One second of the pause, or its end. -/
def pauseSecond (handle : ReadyHandle) (pauseZero : LoadTestTime) (second : Nat) :
    Option ReadyHandle :=
  if second ≤ handle.warmup.pause.toNat then
    match pauseZero.addDeadline (.fromSecs second) with
    | some targetTime =>
        if targetTime.instant ≤ handle.now then
          some (handle.snapshot (targetTime.durationSince pauseZero) 0 none
            (.pause pauseZero (second + 1)))
        else none
    | none => some { handle with reporter := .failed }
  else some { handle with reporter := .load }

/-- The beginning of `load_test`. -/
def startLoad (handle : ReadyHandle) : Option ReadyHandle :=
  match ScheduledStep.fromProfile handle.profile with
  | some steps => some (handle.runPhase .load steps (handle.profile.steps.map (·.count)))
  | none => some { handle with reporter := .failed }

/-- The check of the drain loop. -/
def drainCheck (handle : ReadyHandle) (timeZero : LoadTestTime) : Option ReadyHandle :=
  if 0 < handle.tracker.inflightCount then
    some { handle with reporter := .clock timeZero }
  else some { handle with reporter := .finish }

/-- A drain round that read `second` from the clock sleeps until `targetTime`. -/
def drainRound (handle : ReadyHandle) (timeZero : LoadTestTime) (second : Nat) :
    Option LoadTestTime → ReadyHandle
  | some targetTime =>
      { handle with
        reporter := .sleepDrain timeZero targetTime
        history.drainSeconds := handle.history.drainSeconds ++ [second] }
  | none => { handle with reporter := .failed }

/-- A drain round reads the clock and chooses its target time. -/
def readClock (handle : ReadyHandle) (timeZero : LoadTestTime) : ReadyHandle :=
  handle.drainRound timeZero (drainSecond timeZero handle.now)
    (timeZero.addDeadline (drainDeadline (drainSecond timeZero handle.now)))

/-- The end of the sleep of a drain round. -/
def reportDrain (handle : ReadyHandle) (timeZero targetTime : LoadTestTime) :
    Option ReadyHandle :=
  if targetTime.instant ≤ handle.now then
    some (handle.snapshot (targetTime.durationSince timeZero) 0 none (.drain timeZero))
  else none

/-- One step of the reporter; `none` while it waits for a step or for a time. -/
def report (handle : ReadyHandle) : Option ReadyHandle :=
  match handle.reporter with
  | .warmup =>
      let steps := ScheduledStep.fromWarmup handle.warmup
      some (handle.runPhase .warmup steps (List.replicate steps.length handle.warmup.rate))
  | .loop (.receive run) => handle.receive run
  | .sleepStep run done => handle.reportStep run done
  | .loop (.pause pauseZero second) => handle.pauseSecond pauseZero second
  | .load => handle.startLoad
  | .loop (.drain timeZero) => handle.drainCheck timeZero
  | .clock timeZero => some (handle.readClock timeZero)
  | .sleepDrain timeZero targetTime => handle.reportDrain timeZero targetTime
  | .sending report head =>
      some { handle with
        sent := handle.sent ++ [.intervalReport report]
        reporter := .loop head }
  | .finish =>
      some { handle with sent := handle.sent ++ [.finished], reporter := .finished }
  | .finished | .failed => none

/-- One step of the pacer and what follows from it. -/
def pace (handle : ReadyHandle) (gaps : List Duration) : Option ReadyHandle :=
  match handle.pacer with
  | none => none
  | some pacer =>
      match pacer.step handle.loadgeneratorId handle.now gaps with
      | none => none
      | some (pacer, .quiet) => some { handle with pacer := some pacer }
      | some (pacer, .stepDone done) =>
          -- The receiver is dropped when a send has failed.
          if handle.reporter = .failed then some { handle with pacer := none }
          else some { handle with
            pacer := some pacer
            stepsDone := handle.stepsDone ++ [done] }
      | some (pacer, .dispatch transaction) =>
          some { handle with
            pacer := some pacer
            tracker := handle.tracker.logDispatched 1
            tasks := handle.tasks ++ [⟨handle.phase, transaction⟩]
            history.dispatched := handle.history.dispatched ++ [⟨handle.phase, transaction⟩] }

/-- The end of a task: `tracker.log_result(result)`. -/
def complete (handle : ReadyHandle) (index : Nat) (outcome : Outcome)
    (finishedAt : Instant) : Option ReadyHandle :=
  match handle.tasks[index]? with
  | none => none
  | some task =>
      if finishedAt ≤ handle.now then
        let result := outcome.result task.transaction finishedAt
        some { handle with
          tracker := handle.tracker.logResult result
          tasks := handle.tasks.eraseIdx index
          history.logged :=
            handle.history.logged ++ [⟨task, result, handle.reports.length⟩] }
      else none

/-- A failed send ends the reporter with an error. -/
def sendFails (handle : ReadyHandle) : Option ReadyHandle :=
  match handle.reporter with
  | .sending .. | .finish => some { handle with reporter := .failed }
  | _ => none

def step (handle : ReadyHandle) : Event → Option ReadyHandle
  | .tick elapsed => some { handle with now := handle.now + elapsed }
  | .pace gaps => handle.pace gaps
  | .report => handle.report
  | .sendFails => handle.sendFails
  | .complete index outcome finishedAt => handle.complete index outcome finishedAt

/-- Everything a step of the reporter can do, with what it found. -/
inductive ReportStep (handle : ReadyHandle) : ReadyHandle → Prop
  | startWarmup (reporterEq : handle.reporter = .warmup) :
      ReportStep handle (handle.runPhase .warmup (ScheduledStep.fromWarmup handle.warmup)
        (List.replicate (ScheduledStep.fromWarmup handle.warmup).length handle.warmup.rate))
  | stepReceived {run : PhaseRun} {done : StepDone} {stepsDone : List StepDone}
      (reporterEq : handle.reporter = .loop (.receive run))
      (channel : handle.stepsDone = done :: stepsDone) :
      ReportStep handle { handle with stepsDone, reporter := .sleepStep run done }
  | phaseEnded {run : PhaseRun} {pacer : Pacer}
      (reporterEq : handle.reporter = .loop (.receive run))
      (channel : handle.stepsDone = []) (pacerEq : handle.pacer = some pacer)
      (done : pacer.position = .done) :
      ReportStep handle { handle with reporter := .loop (handle.afterPhase run) }
  | stepReported {run : PhaseRun} {done : StepDone} {deadline : RelativeLoadTestTime}
      {loadLevel : UInt32} (reporterEq : handle.reporter = .sleepStep run done)
      (deadlineEq : run.deadlines[done.index]? = some deadline)
      (levelEq : run.loadLevels[done.index]? = some loadLevel)
      (due : (run.timeZero.add deadline).instant ≤ handle.now) :
      ReportStep handle (handle.snapshot deadline loadLevel done.lastDispatch (.receive run))
  | secondReported {pauseZero targetTime : LoadTestTime} {second : Nat}
      (reporterEq : handle.reporter = .loop (.pause pauseZero second))
      (inPause : second ≤ handle.warmup.pause.toNat)
      (added : pauseZero.addDeadline (.fromSecs second) = some targetTime)
      (due : targetTime.instant ≤ handle.now) :
      ReportStep handle (handle.snapshot (targetTime.durationSince pauseZero) 0 none
        (.pause pauseZero (second + 1)))
  | pauseEnded {pauseZero : LoadTestTime} {second : Nat}
      (reporterEq : handle.reporter = .loop (.pause pauseZero second))
      (afterPause : handle.warmup.pause.toNat < second) :
      ReportStep handle { handle with reporter := .load }
  | startLoad {steps : List ScheduledStep} (reporterEq : handle.reporter = .load)
      (converted : ScheduledStep.fromProfile handle.profile = some steps) :
      ReportStep handle (handle.runPhase .load steps (handle.profile.steps.map (·.count)))
  | inflight {timeZero : LoadTestTime} (reporterEq : handle.reporter = .loop (.drain timeZero))
      (some : 0 < handle.tracker.inflightCount) :
      ReportStep handle { handle with reporter := .clock timeZero }
  | drained {timeZero : LoadTestTime} (reporterEq : handle.reporter = .loop (.drain timeZero))
      (none : handle.tracker.inflightCount = 0) :
      ReportStep handle { handle with reporter := .finish }
  | clockRead {timeZero targetTime : LoadTestTime} {second : Nat}
      (reporterEq : handle.reporter = .clock timeZero)
      (secondEq : second = drainSecond timeZero handle.now)
      (added : timeZero.addDeadline (drainDeadline second) = some targetTime) :
      ReportStep handle { handle with
        reporter := .sleepDrain timeZero targetTime
        history.drainSeconds := handle.history.drainSeconds ++ [second] }
  | drainReported {timeZero targetTime : LoadTestTime}
      (reporterEq : handle.reporter = .sleepDrain timeZero targetTime)
      (due : targetTime.instant ≤ handle.now) :
      ReportStep handle (handle.snapshot (targetTime.durationSince timeZero) 0 none
        (.drain timeZero))
  | sent {report : IntervalReport} {head : LoopHead}
      (reporterEq : handle.reporter = .sending report head) :
      ReportStep handle { handle with
        sent := handle.sent ++ [.intervalReport report]
        reporter := .loop head }
  | finished (reporterEq : handle.reporter = .finish) :
      ReportStep handle
        { handle with sent := handle.sent ++ [.finished], reporter := .finished }
  | panicked (nothingUnsent : handle.reporter.unsent = []) :
      ReportStep handle { handle with reporter := .failed }

private theorem drainRound_cases {handle : ReadyHandle} {timeZero : LoadTestTime}
    {second : Nat} {targetTime : Option LoadTestTime}
    (reporterEq : handle.reporter = .clock timeZero)
    (secondEq : second = drainSecond timeZero handle.now)
    (added : timeZero.addDeadline (drainDeadline second) = targetTime) :
    handle.ReportStep (handle.drainRound timeZero second targetTime) := by
  cases targetTime with
  | none => exact .panicked (congrArg Reporter.unsent reporterEq)
  | some targetTime => exact .clockRead reporterEq secondEq added

theorem report_cases {handle next : ReadyHandle} (reported : handle.report = some next) :
    handle.ReportStep next := by
  unfold report at reported
  split at reported <;> rename_i reporterEq <;>
    have unsentEq := congrArg Reporter.unsent reporterEq
  case h_1 =>
    cases reported
    exact .startWarmup reporterEq
  case h_2 run =>
    unfold receive at reported
    split at reported
    · rename_i done stepsDone channel
      cases reported
      exact .stepReceived reporterEq channel
    · rename_i channel
      split at reported
      · rename_i ended
        cases reported
        obtain ⟨pacer, pacerEq, done⟩ := Option.map_eq_some_iff.mp ended
        exact .phaseEnded reporterEq channel pacerEq done
      · cases reported
        exact .panicked unsentEq
      · cases reported
  case h_3 run done =>
    unfold reportStep at reported
    split at reported
    · rename_i deadline loadLevel deadlineEq levelEq
      split_ifs at reported with due
      cases reported
      exact .stepReported reporterEq deadlineEq levelEq due
    · cases reported
      exact .panicked unsentEq
  case h_4 pauseZero second =>
    unfold pauseSecond at reported
    split_ifs at reported with inPause
    · split at reported
      · rename_i targetTime added
        split_ifs at reported with due
        cases reported
        exact .secondReported reporterEq inPause added due
      · cases reported
        exact .panicked unsentEq
    · cases reported
      exact .pauseEnded reporterEq (Nat.lt_of_not_le inPause)
  case h_5 =>
    unfold startLoad at reported
    split at reported
    · rename_i steps converted
      cases reported
      exact .startLoad reporterEq converted
    · cases reported
      exact .panicked unsentEq
  case h_6 timeZero =>
    unfold drainCheck at reported
    split_ifs at reported with inflight
    · cases reported
      exact .inflight reporterEq inflight
    · cases reported
      exact .drained reporterEq (Nat.eq_zero_of_not_pos inflight)
  case h_7 timeZero =>
    cases reported
    exact drainRound_cases reporterEq rfl rfl
  case h_8 timeZero targetTime =>
    unfold reportDrain at reported
    split_ifs at reported with due
    cases reported
    exact .drainReported reporterEq due
  case h_9 report head =>
    cases reported
    exact .sent reporterEq
  case h_10 =>
    cases reported
    exact .finished reporterEq
  case h_11 | h_12 => cases reported

/-- Everything a step of the pacer can lead to. -/
inductive PaceStep (handle : ReadyHandle) (gaps : List Duration) : ReadyHandle → Prop
  | quiet {pacer pacer' : Pacer} (pacerEq : handle.pacer = some pacer)
      (stepped : pacer.step handle.loadgeneratorId handle.now gaps = some (pacer', .quiet)) :
      PaceStep handle gaps { handle with pacer := some pacer' }
  | announced {pacer pacer' : Pacer} {done : StepDone}
      (pacerEq : handle.pacer = some pacer)
      (stepped : pacer.step handle.loadgeneratorId handle.now gaps =
        some (pacer', .stepDone done)) :
      PaceStep handle gaps
        { handle with pacer := some pacer', stepsDone := handle.stepsDone ++ [done] }
  | receiverDropped (failed : handle.reporter = .failed) :
      PaceStep handle gaps { handle with pacer := none }
  | dispatched {pacer pacer' : Pacer} {transaction : Transaction}
      (pacerEq : handle.pacer = some pacer)
      (stepped : pacer.step handle.loadgeneratorId handle.now gaps =
        some (pacer', .dispatch transaction)) :
      PaceStep handle gaps { handle with
        pacer := some pacer'
        tracker := handle.tracker.logDispatched 1
        tasks := handle.tasks ++ [⟨handle.phase, transaction⟩]
        history.dispatched := handle.history.dispatched ++ [⟨handle.phase, transaction⟩] }

theorem pace_cases {handle next : ReadyHandle} {gaps : List Duration}
    (paced : handle.pace gaps = some next) : handle.PaceStep gaps next := by
  unfold pace at paced
  split at paced
  · cases paced
  · rename_i pacer pacerEq
    split at paced
    · cases paced
    · rename_i pacer' stepped
      cases paced
      exact .quiet pacerEq stepped
    · rename_i pacer' done stepped
      split_ifs at paced with failed
      · cases paced
        exact .receiverDropped failed
      · cases paced
        exact .announced pacerEq stepped
    · rename_i pacer' transaction stepped
      cases paced
      exact .dispatched pacerEq stepped

/-- What the end of a task does. -/
theorem complete_eq_some {handle next : ReadyHandle} {index : Nat} {outcome : Outcome}
    {finishedAt : Instant} (completed : handle.complete index outcome finishedAt = some next) :
    ∃ task, handle.tasks[index]? = some task ∧
      next = { handle with
        tracker := handle.tracker.logResult (outcome.result task.transaction finishedAt)
        tasks := handle.tasks.eraseIdx index
        history.logged := handle.history.logged ++
          [⟨task, outcome.result task.transaction finishedAt, handle.reports.length⟩] } := by
  unfold complete at completed
  split at completed
  · cases completed
  · rename_i task found
    split_ifs at completed
    cases completed
    exact ⟨task, found, rfl⟩

theorem sendFails_eq_some {handle next : ReadyHandle}
    (failed : handle.sendFails = some next) : next = { handle with reporter := .failed } := by
  unfold sendFails at failed
  split at failed <;> cases failed <;> rfl

/-- A started load generator, for any share of the load. -/
def machine : Machine ReadyHandle Event where
  initial handle :=
    ∃ loadgeneratorId profile warmup now,
      handle = new loadgeneratorId profile warmup now
  step := step

end ReadyHandle

end CreoBench
