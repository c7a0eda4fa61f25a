import CreoBench.ReadyHandle

/-!
# Where the reporter stands after how many reports

The number of reports built so far goes with the position of the reporter, with
the steps in the channel and with the state of the pacer.  Every step of the
machine keeps this alignment; in particular no pacer can dispatch once all steps
of its phase have been reported.
-/

namespace CreoBench

namespace ReadyHandle

@[simp]
theorem reportsIn_append (first second : List GeneratorUpdate) :
    reportsIn (first ++ second) = reportsIn first ++ reportsIn second :=
  List.filterMap_append

@[simp]
theorem reportsIn_intervalReport (report : IntervalReport) :
    reportsIn [.intervalReport report] = [report] := rfl

@[simp]
theorem reportsIn_finished : reportsIn [.finished] = [] := rfl

@[simp]
theorem reportsIn_map_intervalReport (reports : List IntervalReport) :
    reportsIn (reports.map .intervalReport) = reports := by
  induction reports with
  | nil => rfl
  | cons head tail ih => simp [reportsIn]

/-- The deadlines and load levels of the two phases. -/
def PhaseOf (handle : ReadyHandle) (run : PhaseRun) : Prop :=
  match run.phase with
  | .warmup =>
      run.deadlines = (ScheduledStep.fromWarmup handle.warmup).map (fun step => ⟨step.deadline⟩) ∧
        run.loadLevels = List.replicate handle.warmup.duration.toNat handle.warmup.rate
  | .load =>
      ∃ steps, ScheduledStep.fromProfile handle.profile = some steps ∧
        run.deadlines = steps.map (fun step => ⟨step.deadline⟩) ∧
          run.loadLevels = handle.profile.steps.map (·.count)

/-- The number of reports built before a phase. -/
def reportsBeforePhase (handle : ReadyHandle) : Phase → Nat
  | .warmup => 0
  | .load => handle.warmup.duration.toNat + handle.warmup.pause.toNat

/-- While `run_phase` runs: the channel holds the steps announced since the
`received`-th. -/
structure Running (handle : ReadyHandle) (run : PhaseRun) (received : Nat) : Prop where
  phaseOf : handle.PhaseOf run
  phase : handle.phase = run.phase
  numbered : handle.stepsDone.map (·.index) =
    List.range' received handle.stepsDone.length
  paced : ∃ pacer, handle.pacer = some pacer ∧ pacer.Coherent ∧
    pacer.targetTimes = run.deadlines ∧
      received + handle.stepsDone.length = pacer.nextStep
  notDrained : handle.history.drainSeconds = []

/-- No pacer thread is left that could dispatch. -/
def Idle (handle : ReadyHandle) : Prop :=
  ∀ pacer, handle.pacer = some pacer → pacer.position = .done

/-- What the head of a loop knows when `count` reports are built. -/
def AlignedAt (handle : ReadyHandle) (count : Nat) : LoopHead → Prop
  | .receive run =>
      ∃ received, count = handle.reportsBeforePhase run.phase + received ∧
        handle.Running run received
  | .pause _ second =>
      0 < second ∧ second ≤ handle.warmup.pause.toNat + 1 ∧
        count + 1 = handle.warmup.duration.toNat + second ∧
          handle.Idle ∧ handle.history.drainSeconds = []
  | .drain _ =>
      count = handle.scheduledReports + handle.history.drainSeconds.length ∧ handle.Idle

/-- What a position of the reporter knows when `count` reports are built. -/
def AlignedAs (handle : ReadyHandle) (count : Nat) : Reporter → Prop
  | .warmup => count = 0 ∧ handle.pacer = none ∧ handle.history.drainSeconds = []
  | .loop head | .sending _ head => handle.AlignedAt count head
  | .sleepStep run done =>
      count = handle.reportsBeforePhase run.phase + done.index ∧
        handle.Running run (done.index + 1)
  | .load =>
      count = handle.reportsBeforePhase .load ∧ handle.Idle ∧
        handle.history.drainSeconds = []
  | .sleepDrain timeZero targetTime =>
      count + 1 = handle.scheduledReports + handle.history.drainSeconds.length ∧
        handle.Idle ∧
          ∃ second, handle.history.drainSeconds.getLast? = some second ∧
            timeZero.addDeadline (drainDeadline second) = some targetTime
  | .clock _ | .finish | .finished =>
      count = handle.scheduledReports + handle.history.drainSeconds.length ∧ handle.Idle
  | .failed => True

/-- The number of reports that goes with the position of the reporter. -/
def Aligned (handle : ReadyHandle) : Prop :=
  handle.AlignedAs handle.reports.length handle.reporter

/-- The number of steps of a phase. -/
theorem length_deadlines {handle : ReadyHandle} {run : PhaseRun}
    (phaseOf : handle.PhaseOf run) :
    handle.reportsBeforePhase run.phase + run.deadlines.length =
      match run.phase with
      | .warmup => handle.warmup.duration.toNat
      | .load => handle.scheduledReports := by
  unfold PhaseOf at phaseOf
  cases phaseEq : run.phase with
  | warmup =>
      simp only [phaseEq] at phaseOf
      simp [phaseOf.1, reportsBeforePhase]
  | load =>
      simp only [phaseEq] at phaseOf
      obtain ⟨steps, converted, deadlinesEq, -⟩ := phaseOf
      obtain ⟨lengthEq, -, -⟩ := ScheduledStep.fromSteps_eq_some converted
      simp [deadlinesEq, lengthEq, reportsBeforePhase, scheduledReports]

theorem running_runPhase {handle : ReadyHandle} {phase : Phase}
    {steps : List ScheduledStep} {loadLevels : List UInt32}
    (indexed : ScheduledStep.Indexed 0 steps)
    (notDrained : handle.history.drainSeconds = [])
    (phaseOf : handle.PhaseOf
      ⟨phase, ⟨handle.now⟩, steps.map (fun step => ⟨step.deadline⟩), loadLevels⟩) :
    (handle.runPhase phase steps loadLevels).Running
      ⟨phase, ⟨handle.now⟩, steps.map (fun step => ⟨step.deadline⟩), loadLevels⟩ 0 where
  phaseOf := phaseOf
  phase := rfl
  numbered := rfl
  paced := ⟨_, rfl, Pacer.coherent_new _ indexed, rfl, rfl⟩
  notDrained := notDrained

/-- A pacer step keeps the channel numbered. -/
theorem Running.pace {handle next : ReadyHandle} {run : PhaseRun} {received : Nat}
    {gaps : List Duration} (running : handle.Running run received)
    (notFailed : handle.reporter ≠ .failed) (paced : handle.pace gaps = some next) :
    next.Running run received := by
  obtain ⟨phaseOf, phase, numbered, ⟨pacer, pacerEq, coherent, targets, counted⟩, notDrained⟩ :=
    running
  cases pace_cases paced with
  | quiet pacerEq' stepped =>
      obtain rfl : pacer = _ := Option.some.inj (pacerEq.symm.trans pacerEq')
      obtain ⟨coherent', targets', nextStep⟩ := Pacer.step_spec coherent stepped
      exact ⟨phaseOf, phase, numbered,
        ⟨_, rfl, coherent', targets'.trans targets, counted.trans nextStep.symm⟩, notDrained⟩
  | announced pacerEq' stepped =>
      obtain rfl : pacer = _ := Option.some.inj (pacerEq.symm.trans pacerEq')
      obtain ⟨coherent', targets', indexEq, nextStep⟩ := Pacer.step_spec coherent stepped
      refine ⟨phaseOf, phase, ?_, ⟨_, rfl, coherent', targets'.trans targets, ?_⟩, notDrained⟩
      · simp [numbered, indexEq, ← counted, List.range'_concat]
      · simp only [List.length_append, List.length_singleton]
        omega
  | receiverDropped failed => exact absurd failed notFailed
  | dispatched pacerEq' stepped =>
      obtain rfl : pacer = _ := Option.some.inj (pacerEq.symm.trans pacerEq')
      obtain ⟨coherent', targets', nextStep, -⟩ := Pacer.step_spec coherent stepped
      exact ⟨phaseOf, phase, numbered,
        ⟨_, rfl, coherent', targets'.trans targets, counted.trans nextStep.symm⟩, notDrained⟩

/-- An idle generator has no pacer step. -/
theorem Idle.pace {handle next : ReadyHandle} {gaps : List Duration}
    (idle : handle.Idle) : handle.pace gaps ≠ some next := by
  intro paced
  unfold ReadyHandle.pace at paced
  split at paced
  · cases paced
  · rename_i pacer pacerEq
    simp [Pacer.step, idle pacer pacerEq] at paced

/-- Steps that are none of the reporter leave everything about reports alone. -/
structure SameReports (handle next : ReadyHandle) : Prop where
  reporter : next.reporter = handle.reporter
  sent : next.sent = handle.sent
  warmup : next.warmup = handle.warmup
  profile : next.profile = handle.profile
  drainSeconds : next.history.drainSeconds = handle.history.drainSeconds

theorem sameReports_pace {handle next : ReadyHandle} {gaps : List Duration}
    (paced : handle.pace gaps = some next) : handle.SameReports next := by
  cases pace_cases paced <;> exact ⟨rfl, rfl, rfl, rfl, rfl⟩

namespace SameReports

variable {handle next : ReadyHandle}

theorem reports (same : handle.SameReports next) : next.reports = handle.reports := by
  rw [ReadyHandle.reports, ReadyHandle.reports, same.sent, same.reporter]

theorem scheduledReports (same : handle.SameReports next) :
    next.scheduledReports = handle.scheduledReports := by
  rw [ReadyHandle.scheduledReports, ReadyHandle.scheduledReports, same.warmup, same.profile]

theorem reportsBeforePhase (same : handle.SameReports next) (phase : Phase) :
    next.reportsBeforePhase phase = handle.reportsBeforePhase phase := by
  cases phase <;> simp only [ReadyHandle.reportsBeforePhase, same.warmup]

end SameReports

theorem Aligned.pace {handle next : ReadyHandle} {gaps : List Duration}
    (aligned : handle.Aligned) (paced : handle.pace gaps = some next) : next.Aligned := by
  have same := sameReports_pace paced
  have atHead : ∀ head, handle.reporter ≠ .failed →
      handle.AlignedAt handle.reports.length head →
        next.AlignedAt handle.reports.length head := by
    intro head notFailed alignedAt
    cases head with
    | receive run =>
        obtain ⟨received, reportsEq, running⟩ := alignedAt
        exact ⟨received, by rw [reportsEq, same.reportsBeforePhase],
          running.pace notFailed paced⟩
    | pause pauseZero second => exact absurd paced alignedAt.2.2.2.1.pace
    | drain timeZero => exact absurd paced alignedAt.2.pace
  unfold Aligned at aligned ⊢
  rw [same.reports, same.reporter]
  cases reporterEq : handle.reporter <;> rw [reporterEq] at aligned
  case warmup => simp [ReadyHandle.pace, aligned.2.1] at paced
  case loop | sending => exact atHead _ (by simp [reporterEq]) aligned
  case sleepStep run done =>
    exact ⟨by rw [aligned.1, same.reportsBeforePhase],
      aligned.2.pace (by simp [reporterEq]) paced⟩
  case load | sleepDrain => exact absurd paced aligned.2.1.pace
  case clock | finish | finished => exact absurd paced aligned.2.pace
  case failed => trivial

theorem reports_eq_of (handle : ReadyHandle) {next : ReadyHandle} (sentEq : next.sent = handle.sent)
    (unsentEq : next.reporter.unsent = handle.reporter.unsent) :
    next.reports = handle.reports := by
  rw [reports, reports, sentEq, unsentEq]

theorem reports_of_unsent {handle : ReadyHandle}
    (nothingUnsent : handle.reporter.unsent = []) :
    handle.reports = reportsIn handle.sent := by
  rw [reports, nothingUnsent, List.append_nil]

theorem reports_snapshot {handle : ReadyHandle} {targetTime : RelativeLoadTestTime}
    {loadLevel : UInt32} {finalBatchTime : Option RelativeLoadTestTime} {head : LoopHead}
    (nothingUnsent : handle.reporter.unsent = []) :
    (handle.snapshot targetTime loadLevel finalBatchTime head).reports =
      handle.reports ++ [{
        targetTime, loadLevel, finalBatchTime
        stats := handle.tracker.intervalStatistics.1 }] := by
  rw [reports, reports, nothingUnsent, List.append_nil]
  rfl

/-- Sending a report does not change which were built. -/
theorem reports_sent {handle next : ReadyHandle} {report : IntervalReport}
    (sending : handle.reporter.unsent = [report])
    (sentEq : next.sent = handle.sent ++ [.intervalReport report])
    (nothingUnsent : next.reporter.unsent = []) : next.reports = handle.reports := by
  rw [reports, reports, sending, sentEq, nothingUnsent, reportsIn_append, List.append_nil]
  rfl

/-- Sending the final update does not change which reports were built. -/
theorem reports_finished {handle next : ReadyHandle} (reporterEq : handle.reporter = .finish)
    (sentEq : next.sent = handle.sent ++ [.finished])
    (nothingUnsent : next.reporter.unsent = []) : next.reports = handle.reports := by
  rw [reports, reports, reporterEq, sentEq, nothingUnsent, reportsIn_append,
    reportsIn_finished, List.append_nil]
  rfl

theorem aligned_of_reports {next : ReadyHandle} {reports : List IntervalReport}
    (reportsEq : next.reports = reports)
    (alignedAs : next.AlignedAs reports.length next.reporter) : next.Aligned := by
  rw [Aligned, reportsEq]
  exact alignedAs

theorem Running.snapshot {handle : ReadyHandle} {run : PhaseRun} {received : Nat}
    (running : handle.Running run received) (targetTime : RelativeLoadTestTime)
    (loadLevel : UInt32) (finalBatchTime : Option RelativeLoadTestTime) (head : LoopHead) :
    (handle.snapshot targetTime loadLevel finalBatchTime head).Running run received :=
  ⟨running.phaseOf, running.phase, running.numbered, running.paced, running.notDrained⟩

/-- When `run_phase` returns, all of its steps have been reported. -/
theorem Running.returned {handle : ReadyHandle} {run : PhaseRun} {received : Nat}
    {pacer : Pacer} (running : handle.Running run received)
    (empty : handle.stepsDone = []) (pacerEq : handle.pacer = some pacer)
    (done : pacer.position = .done) : received = run.deadlines.length := by
  obtain ⟨pacer', pacerEq', coherent, targets, counted⟩ := running.paced
  obtain rfl : pacer = pacer' := Option.some.inj (pacerEq.symm.trans pacerEq')
  rw [empty, List.length_nil, Nat.add_zero, Pacer.nextStep_of_done coherent done,
    targets] at counted
  exact counted

/-- The next step is taken from the channel. -/
theorem Running.received {handle : ReadyHandle} {run : PhaseRun} {received : Nat}
    {done : StepDone} {stepsDone : List StepDone} {reporter : Reporter}
    (running : handle.Running run received) (channel : handle.stepsDone = done :: stepsDone) :
    done.index = received ∧
      { handle with stepsDone, reporter }.Running run (received + 1) := by
  obtain ⟨phaseOf, phase, numbered, ⟨pacer, pacerEq, coherent, targets, counted⟩,
    notDrained⟩ := running
  simp only [channel, List.map_cons, List.length_cons, List.range'_succ,
    List.cons.injEq] at numbered counted
  refine ⟨numbered.1, phaseOf, phase, numbered.2,
    ⟨pacer, pacerEq, coherent, targets, ?_⟩, notDrained⟩
  change received + 1 + stepsDone.length = pacer.nextStep
  omega

/-- The end of `run_phase` leads to the pause or to the drain loop. -/
theorem Running.afterPhase {handle : ReadyHandle} {run : PhaseRun} {received : Nat}
    {pacer : Pacer} (running : handle.Running run received)
    (empty : handle.stepsDone = []) (pacerEq : handle.pacer = some pacer)
    (done : pacer.position = .done) (reporter : Reporter) :
    { handle with reporter }.AlignedAt (handle.reportsBeforePhase run.phase + received)
      (handle.afterPhase run) := by
  have idle : handle.Idle := by
    intro pacer' pacerEq'
    obtain rfl : pacer = pacer' := Option.some.inj (pacerEq.symm.trans pacerEq')
    exact done
  have total := length_deadlines running.phaseOf
  rw [running.returned empty pacerEq done, total, ReadyHandle.afterPhase]
  cases run.phase with
  | warmup => exact ⟨Nat.one_pos, Nat.le_add_left _ _, rfl, idle, running.notDrained⟩
  | load =>
      refine ⟨?_, idle⟩
      rw [running.notDrained]
      rfl

theorem Aligned.report {handle next : ReadyHandle} (aligned : handle.Aligned)
    (reported : handle.report = some next) : next.Aligned := by
  have step := report_cases reported
  unfold Aligned at aligned
  cases step with
  | startWarmup reporterEq =>
      rw [reporterEq] at aligned
      obtain ⟨noReports, noPacer, notDrained⟩ := aligned
      refine aligned_of_reports (reports_eq_of handle rfl (by rw [reporterEq]; rfl))
        ⟨0, noReports, ?_⟩
      exact running_runPhase (ScheduledStep.fromWarmup_indexed _) notDrained ⟨rfl, by simp⟩
  | stepReceived reporterEq channel =>
      rw [reporterEq] at aligned
      obtain ⟨count, reportsEq, running⟩ := aligned
      obtain ⟨rfl, running'⟩ := running.received channel
      exact aligned_of_reports (reports_eq_of handle rfl (by rw [reporterEq]; rfl))
        ⟨reportsEq, running'⟩
  | phaseEnded reporterEq channel pacerEq done =>
      rw [reporterEq] at aligned
      obtain ⟨count, reportsEq, running⟩ := aligned
      refine aligned_of_reports (reports_eq_of handle rfl (by rw [reporterEq]; rfl)) ?_
      rw [reportsEq]
      exact running.afterPhase channel pacerEq done _
  | stepReported reporterEq =>
      rw [reporterEq] at aligned
      refine aligned_of_reports (reports_snapshot (by rw [reporterEq]; rfl))
        ⟨_, ?_, aligned.2.snapshot _ _ _ _⟩
      rw [List.length_append, aligned.1]
      rfl
  | secondReported reporterEq inPause =>
      rw [reporterEq] at aligned
      obtain ⟨positive, -, reportsEq, idle, notDrained⟩ := aligned
      refine aligned_of_reports (reports_snapshot (by rw [reporterEq]; rfl))
        ⟨Nat.succ_pos _, Nat.succ_le_succ inPause, ?_, idle, notDrained⟩
      rw [List.length_append, List.length_singleton, reportsEq, Nat.add_assoc]
      rfl
  | pauseEnded reporterEq afterPause =>
      rw [reporterEq] at aligned
      obtain ⟨positive, inPause, reportsEq, idle, notDrained⟩ := aligned
      refine aligned_of_reports (reports_eq_of handle rfl (by rw [reporterEq]; rfl))
        ⟨?_, idle, notDrained⟩
      change handle.reports.length = handle.warmup.duration.toNat + handle.warmup.pause.toNat
      omega
  | startLoad reporterEq converted =>
      rw [reporterEq] at aligned
      obtain ⟨reportsEq, idle, notDrained⟩ := aligned
      refine aligned_of_reports (reports_eq_of handle rfl (by rw [reporterEq]; rfl))
        ⟨0, reportsEq, ?_⟩
      exact running_runPhase (ScheduledStep.fromSteps_eq_some converted).2.1
        notDrained ⟨_, converted, rfl, rfl⟩
  | inflight reporterEq | drained reporterEq =>
      rw [reporterEq] at aligned
      exact aligned_of_reports (reports_eq_of handle rfl (by rw [reporterEq]; rfl)) aligned
  | clockRead reporterEq _ added =>
      rw [reporterEq] at aligned
      refine aligned_of_reports (reports_eq_of handle rfl (by rw [reporterEq]; rfl))
        ⟨?_, aligned.2, _, List.getLast?_concat, added⟩
      rw [aligned.1, List.length_append, Nat.add_assoc]
      rfl
  | drainReported reporterEq =>
      rw [reporterEq] at aligned
      refine aligned_of_reports (reports_snapshot (by rw [reporterEq]; rfl)) ⟨?_, aligned.2.1⟩
      rw [List.length_append]
      exact aligned.1
  | @sent report head reporterEq =>
      rw [reporterEq] at aligned
      refine aligned_of_reports (reports_sent (by rw [reporterEq]; rfl) rfl rfl) ?_
      cases head with
      | receive run =>
          obtain ⟨received, reportsEq, running⟩ := aligned
          exact ⟨received, reportsEq, running.phaseOf, running.phase, running.numbered,
            running.paced, running.notDrained⟩
      | pause pauseZero second => exact aligned
      | drain timeZero => exact aligned
  | finished reporterEq =>
      rw [reporterEq] at aligned
      exact aligned_of_reports (reports_finished reporterEq rfl rfl) aligned
  | panicked => trivial

/-- Steps that touch neither the pacer nor the reporter keep the alignment. -/
theorem Aligned.keep {handle next : ReadyHandle} (aligned : handle.Aligned)
    (same : handle.SameReports next) (phaseEq : next.phase = handle.phase)
    (pacerEq : next.pacer = handle.pacer) (channelEq : next.stepsDone = handle.stepsDone) :
    next.Aligned := by
  have running : ∀ run received, handle.Running run received → next.Running run received := by
    intro run received ⟨phaseOf, phase, numbered, paced, notDrained⟩
    refine ⟨?_, by rw [phaseEq, phase], by rw [channelEq, numbered],
      by rw [pacerEq, channelEq]; exact paced, by rw [same.drainSeconds, notDrained]⟩
    unfold PhaseOf at phaseOf ⊢
    rw [same.warmup, same.profile]
    exact phaseOf
  have idle : handle.Idle → next.Idle := by
    intro idle
    rw [Idle, pacerEq]
    exact idle
  have atHead : ∀ head, handle.AlignedAt handle.reports.length head →
      next.AlignedAt handle.reports.length head := by
    intro head alignedAt
    cases head with
    | receive run =>
        obtain ⟨received, reportsEq, isRunning⟩ := alignedAt
        exact ⟨received, by rw [reportsEq, same.reportsBeforePhase], running _ _ isRunning⟩
    | pause pauseZero second =>
        obtain ⟨positive, inPause, reportsEq, isIdle, notDrained⟩ := alignedAt
        exact ⟨positive, by rw [same.warmup]; exact inPause,
          by rw [same.warmup]; exact reportsEq, idle isIdle,
          by rw [same.drainSeconds, notDrained]⟩
    | drain timeZero =>
        exact ⟨by rw [same.scheduledReports, same.drainSeconds]; exact alignedAt.1,
          idle alignedAt.2⟩
  unfold Aligned at aligned ⊢
  rw [same.reports, same.reporter]
  cases reporterEq : handle.reporter <;> rw [reporterEq] at aligned
  case warmup =>
    exact ⟨aligned.1, by rw [pacerEq, aligned.2.1], by rw [same.drainSeconds, aligned.2.2]⟩
  case loop | sending => exact atHead _ aligned
  case sleepStep run done =>
    exact ⟨by rw [aligned.1, same.reportsBeforePhase], running _ _ aligned.2⟩
  case load =>
    exact ⟨by rw [aligned.1, same.reportsBeforePhase], idle aligned.2.1,
      by rw [same.drainSeconds, aligned.2.2]⟩
  case sleepDrain =>
    exact ⟨by rw [same.scheduledReports, same.drainSeconds]; exact aligned.1,
      idle aligned.2.1, by rw [same.drainSeconds]; exact aligned.2.2⟩
  case clock | finish | finished =>
    exact ⟨by rw [same.scheduledReports, same.drainSeconds]; exact aligned.1,
      idle aligned.2⟩
  case failed => trivial

/-- A step of the reporter either takes a snapshot, which becomes the next report,
or changes neither the tracker nor the reports. -/
theorem report_effect {handle next : ReadyHandle} (reported : handle.report = some next) :
    next.tasks = handle.tasks ∧
      next.history.dispatched = handle.history.dispatched ∧
      next.history.logged = handle.history.logged ∧
      (next.tracker = handle.tracker ∧ next.reports = handle.reports ∨
        next.tracker = handle.tracker.intervalStatistics.2 ∧
          ∃ report, next.reports = handle.reports ++ [report] ∧
            report.stats = handle.tracker.intervalStatistics.1) := by
  cases report_cases reported with
  | startWarmup reporterEq | stepReceived reporterEq | phaseEnded reporterEq
  | pauseEnded reporterEq | startLoad reporterEq | inflight reporterEq | drained reporterEq
  | clockRead reporterEq =>
      exact ⟨rfl, rfl, rfl, .inl ⟨rfl, reports_eq_of handle rfl (by rw [reporterEq]; rfl)⟩⟩
  | stepReported reporterEq | secondReported reporterEq | drainReported reporterEq =>
      exact ⟨rfl, rfl, rfl, .inr ⟨rfl, _, reports_snapshot (by rw [reporterEq]; rfl), rfl⟩⟩
  | sent reporterEq =>
      exact ⟨rfl, rfl, rfl, .inl ⟨rfl, reports_sent (by rw [reporterEq]; rfl) rfl rfl⟩⟩
  | finished reporterEq => exact ⟨rfl, rfl, rfl, .inl ⟨rfl, reports_finished reporterEq rfl rfl⟩⟩
  | panicked nothingUnsent =>
      exact ⟨rfl, rfl, rfl, .inl ⟨rfl, reports_eq_of handle rfl nothingUnsent.symm⟩⟩

theorem aligned_new (loadgeneratorId : LoadGeneratorId) (profile : LoadProfile)
    (warmup : Warmup) (now : Instant) :
    (new loadgeneratorId profile warmup now).Aligned :=
  ⟨rfl, rfl, rfl⟩

theorem Aligned.step {handle next : ReadyHandle} {event : Event}
    (aligned : handle.Aligned) (stepped : handle.step event = some next) :
    next.Aligned := by
  cases event with
  | tick elapsed =>
      cases stepped
      exact aligned.keep ⟨rfl, rfl, rfl, rfl, rfl⟩ rfl rfl rfl
  | pace gaps => exact aligned.pace stepped
  | report => exact aligned.report stepped
  | sendFails =>
      obtain rfl := sendFails_eq_some stepped
      trivial
  | complete index outcome finishedAt =>
      obtain ⟨task, -, rfl⟩ := complete_eq_some stepped
      exact aligned.keep ⟨rfl, rfl, rfl, rfl, rfl⟩ rfl rfl rfl

end ReadyHandle

end CreoBench
