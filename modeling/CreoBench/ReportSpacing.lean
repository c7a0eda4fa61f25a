import CreoBench.ReportTimes

/-!
# The spacing of reports

Reports come in the order of their kinds and no earlier than their target times.
The target times of drain reports are whole seconds that grow from report to
report, because each of them lies after the moment at which the clock is read.
-/

namespace CreoBench

namespace ReadyHandle

/-- The report of a step: its deadline, the start of its phase, and the time of its last dispatch
as its pacer thread has announced it. -/
def StepNoted (handle : ReadyHandle) (pacing : Phase → Option PacerRun) (note : ReportNote)
    (phase : Phase) (index : Nat) : Prop :=
  ∃ paced steps step, pacing phase = some paced ∧ handle.StepsOf phase steps ∧
    steps[index]? = some step ∧ note.timeZero = paced.pacer.timeZero ∧
      note.report.targetTime = ⟨step.deadline⟩ ∧
        ∃ done ∈ paced.announced, done.index = index ∧
          note.report.finalBatchTime = done.lastDispatch

theorem StepNoted.mono {handle next : ReadyHandle} {pacing pacing' : Phase → Option PacerRun}
    {note : ReportNote} {phase : Phase} {index : Nat}
    (noted : handle.StepNoted pacing note phase index) (profile : next.profile = handle.profile)
    (warmup : next.warmup = handle.warmup) (grows : ReportRun.Grows pacing pacing') :
    next.StepNoted pacing' note phase index := by
  obtain ⟨paced, steps, step, found, stepsOf, stepAt, timeZero, target, done, member, announced⟩ :=
    noted
  obtain ⟨paced', found', kept, more⟩ := grows phase paced found
  exact ⟨paced', steps, step, found', stepsOf.congr profile warmup, stepAt,
    timeZero.trans kept.symm, target, done, more done member, announced⟩

/-- The steps and deadlines that the reporter keeps for a phase. -/
theorem PhaseOf.step {handle : ReadyHandle} {run : PhaseRun} (phaseOf : handle.PhaseOf run)
    {index : Nat} {deadline : RelativeLoadTestTime}
    (deadlineEq : run.deadlines[index]? = some deadline) :
    ∃ steps step, handle.StepsOf run.phase steps ∧ steps[index]? = some step ∧
      deadline = ⟨step.deadline⟩ := by
  unfold PhaseOf at phaseOf
  cases phaseEq : run.phase with
  | warmup =>
      rw [phaseEq] at phaseOf
      rw [phaseOf.1, List.getElem?_map, Option.map_eq_some_iff] at deadlineEq
      obtain ⟨step, stepAt, rfl⟩ := deadlineEq
      exact ⟨_, step, rfl, stepAt, rfl⟩
  | load =>
      rw [phaseEq] at phaseOf
      obtain ⟨steps, converted, deadlines, -⟩ := phaseOf
      rw [deadlines, List.getElem?_map, Option.map_eq_some_iff] at deadlineEq
      obtain ⟨step, stepAt, rfl⟩ := deadlineEq
      exact ⟨steps, step, converted, stepAt, rfl⟩

theorem StepsOf.unique {handle : ReadyHandle} {phase : Phase} {steps other : List ScheduledStep}
    (stepsOf : handle.StepsOf phase steps) (otherOf : handle.StepsOf phase other) :
    steps = other := by
  cases phase with
  | warmup => exact Eq.trans stepsOf (Eq.symm otherOf)
  | load => exact Option.some.inj (Eq.trans (Eq.symm stepsOf) otherOf)

theorem PhaseOf.deadlines_eq {handle : ReadyHandle} {run : PhaseRun}
    (phaseOf : handle.PhaseOf run) {steps : List ScheduledStep}
    (stepsOf : handle.StepsOf run.phase steps) :
    run.deadlines = steps.map fun step => ⟨step.deadline⟩ := by
  unfold PhaseOf at phaseOf
  cases phaseEq : run.phase with
  | warmup =>
      rw [phaseEq] at phaseOf stepsOf
      rw [phaseOf.1, show steps = _ from stepsOf]
  | load =>
      rw [phaseEq] at phaseOf stepsOf
      obtain ⟨other, converted, deadlines, -⟩ := phaseOf
      have loadSteps : handle.StepsOf .load other := converted
      rw [deadlines, stepsOf.unique loadSteps]

/-! ## Kinds -/

theorem kindAt_congr {handle next : ReadyHandle} (profile : next.profile = handle.profile)
    (warmup : next.warmup = handle.warmup) (index : Nat) :
    next.kindAt index = handle.kindAt index := by
  unfold kindAt reportsBeforePhase scheduledReports
  rw [profile, warmup]

theorem kindAt_step {handle : ReadyHandle} {run : PhaseRun} (phaseOf : handle.PhaseOf run)
    {index : Nat} (inPhase : index < run.deadlines.length) :
    handle.kindAt (handle.reportsBeforePhase run.phase + index) = .step run.phase index := by
  have total := length_deadlines phaseOf
  cases phaseEq : run.phase with
  | warmup =>
      simp only [phaseEq, reportsBeforePhase, Nat.zero_add] at total ⊢
      rw [kindAt, if_pos (by omega)]
  | load =>
      simp only [phaseEq] at total ⊢
      have warmupLe : handle.warmup.duration.toNat ≤ handle.reportsBeforePhase .load :=
        Nat.le_add_right _ _
      rw [kindAt, if_neg (by omega), if_neg (by omega), if_pos (by omega),
        Nat.add_sub_cancel_left]

theorem kindAt_pause {handle : ReadyHandle} {index second : Nat} (positive : 0 < second)
    (inPause : second ≤ handle.warmup.pause.toNat)
    (counted : index + 1 = handle.warmup.duration.toNat + second) :
    handle.kindAt index = .pauseSecond second := by
  have before : handle.reportsBeforePhase .load =
      handle.warmup.duration.toNat + handle.warmup.pause.toNat := rfl
  rw [kindAt, if_neg (by omega), if_pos (by omega)]
  congr 1
  omega

theorem kindAt_drain {handle : ReadyHandle} {index : Nat}
    (late : handle.scheduledReports ≤ index) : handle.kindAt index = .drain := by
  have before : handle.reportsBeforePhase .load =
      handle.warmup.duration.toNat + handle.warmup.pause.toNat := rfl
  have scheduled : handle.scheduledReports = handle.warmup.duration.toNat +
      handle.warmup.pause.toNat + handle.profile.steps.length := rfl
  rw [kindAt, if_neg (by omega), if_neg (by omega), if_neg (by omega)]

namespace ReportRun

/-! ## Notes -/

/-- What the notes say about the reports. -/
structure Noted (run : ReportRun) : Prop where
  reports : run.notes.map (·.report) = run.handle.reports
  kinds : ∀ (index : Nat) (note : ReportNote), run.notes[index]? = some note →
    note.kind = run.handle.kindAt index
  steps : ∀ note ∈ run.notes, ∀ phase index, note.kind = .step phase index →
    run.handle.StepNoted run.pacing note phase index
  onTime : ∀ note ∈ run.notes, note.OnTime ∧ note.sentAt ≤ run.handle.now

variable {run : ReportRun} {next : ReadyHandle} {pacing : Phase → Option PacerRun}

theorem Noted.keep (noted : run.Noted) (reports : next.reports = run.handle.reports)
    (profile : next.profile = run.handle.profile) (warmup : next.warmup = run.handle.warmup)
    (clock : run.handle.now ≤ next.now) (grows : Grows run.pacing pacing) :
    Noted ⟨next, pacing, run.notes⟩ := by
  constructor
  · exact noted.reports.trans reports.symm
  · intro index note found
    rw [kindAt_congr profile warmup]
    exact noted.kinds index note found
  · intro note member phase index kind
    exact (noted.steps note member phase index kind).mono profile warmup grows
  · intro note member
    obtain ⟨onTime, sent⟩ := noted.onTime note member
    exact ⟨onTime, sent.trans clock⟩

/-- One more report. -/
theorem Noted.add (noted : run.Noted) {note : ReportNote}
    (reports : next.reports = run.handle.reports ++ [note.report])
    (profile : next.profile = run.handle.profile) (warmup : next.warmup = run.handle.warmup)
    (clock : next.now = run.handle.now) (grows : Grows run.pacing pacing)
    (kind : note.kind = run.handle.kindAt run.handle.reports.length)
    (step : ∀ phase index, note.kind = .step phase index →
      run.handle.StepNoted run.pacing note phase index)
    (onTime : note.OnTime) (sentAt : note.sentAt = run.handle.now) :
    Noted ⟨next, pacing, run.notes ++ [note]⟩ := by
  have count : run.notes.length = run.handle.reports.length := by
    rw [← noted.reports, List.length_map]
  constructor
  · rw [List.map_append, noted.reports, reports, List.map_singleton]
  · intro index other found
    rw [kindAt_congr profile warmup]
    rcases List.getElem?_concat_eq_some.mp found with old | ⟨rfl, rfl⟩
    · exact noted.kinds index other old
    · rw [kind, count]
  · intro other member phase index kindEq
    rcases List.mem_append.mp member with old | new
    · exact (noted.steps other old phase index kindEq).mono profile warmup grows
    · rw [List.mem_singleton.mp new] at kindEq ⊢
      exact (step phase index kindEq).mono profile warmup grows
  · intro other member
    rcases List.mem_append.mp member with old | new
    · rw [clock]
      exact noted.onTime other old
    · rw [List.mem_singleton.mp new]
      exact ⟨onTime, by rw [sentAt, clock]⟩

/-- A snapshot is noted. -/
theorem Noted.snapshot (noted : run.Noted) {kind : ReportKind} {timeZero : LoadTestTime}
    {targetTime : RelativeLoadTestTime} {loadLevel : UInt32}
    {finalBatchTime : Option RelativeLoadTestTime} {head : LoopHead}
    (nothingUnsent : run.handle.reporter.unsent = []) (grows : Grows run.pacing pacing)
    (kindEq : kind = run.handle.kindAt run.handle.reports.length)
    (step : ∀ phase index, kind = .step phase index →
      run.handle.StepNoted run.pacing ⟨kind, timeZero, run.handle.now,
        ⟨targetTime, loadLevel, run.handle.tracker.intervalStatistics.1, finalBatchTime⟩⟩
        phase index)
    (due : timeZero.instant + targetTime.duration ≤ run.handle.now) :
    Noted ⟨run.handle.snapshot targetTime loadLevel finalBatchTime head, pacing,
      run.notes ++ [⟨kind, timeZero, run.handle.now,
        ⟨targetTime, loadLevel, run.handle.tracker.intervalStatistics.1, finalBatchTime⟩⟩]⟩ :=
  noted.add (reports_snapshot nothingUnsent) rfl rfl rfl grows kindEq step due rfl

/-- The target time of a sleep that is over. -/
theorem onTime_of_due {timeZero targetTime : LoadTestTime} {deadline : LoadStepDeadline}
    {now : Instant} (added : timeZero.addDeadline deadline = some targetTime)
    (due : targetTime.instant ≤ now) :
    timeZero.instant + (targetTime.durationSince timeZero).duration ≤ now := by
  obtain ⟨duration, -, rfl⟩ := Option.map_eq_some_iff.mp added
  rw [LoadTestTime.add_durationSince]
  exact due

/-- A step of the reporter adds the note on the report that it builds. -/
theorem Noted.report (noted : run.Noted) (linked : run.Linked) (aligned : run.handle.Aligned)
    (reported : run.handle.report = some next) (grows : Grows run.pacing pacing) :
    Noted ⟨next, pacing, run.notes ++ noteOf run.handle next⟩ := by
  have step := report_cases reported
  unfold Aligned at aligned
  cases step with
  | @stepReported phaseRun done deadline loadLevel reporterEq deadlineEq levelEq due =>
      have note : noteOf run.handle
          (run.handle.snapshot deadline loadLevel done.lastDispatch (.receive phaseRun)) =
          [⟨.step phaseRun.phase done.index, phaseRun.timeZero, run.handle.now,
            ⟨deadline, loadLevel, run.handle.tracker.intervalStatistics.1, done.lastDispatch⟩⟩] := by
        simp [noteOf, reporterEq, ReadyHandle.snapshot]
      rw [reporterEq] at aligned
      obtain ⟨count, running⟩ := aligned
      have inPhase := (List.getElem?_eq_some_iff.mp deadlineEq).1
      rw [note]
      apply noted.snapshot (by rw [reporterEq]; rfl) grows
      · rw [count, kindAt_step running.phaseOf inPhase]
      · rintro _ _ ⟨⟩
        obtain ⟨steps, step, stepsOf, stepAt, rfl⟩ := running.phaseOf.step deadlineEq
        obtain ⟨paced, found, timeZero⟩ := linked.running phaseRun (by rw [reporterEq]; rfl)
        obtain ⟨other, found', member⟩ := linked.sleeping phaseRun done reporterEq
        rw [found] at found'
        cases found'
        exact ⟨paced, steps, step, found, stepsOf, stepAt, timeZero.symm, rfl, done, member, rfl,
          rfl⟩
      · exact due
  | @secondReported pauseZero targetTime second reporterEq inPause added due =>
      have note : noteOf run.handle (run.handle.snapshot (targetTime.durationSince pauseZero) 0 none
          (.pause pauseZero (second + 1))) =
          [⟨.pauseSecond second, pauseZero, run.handle.now, ⟨targetTime.durationSince pauseZero, 0,
            run.handle.tracker.intervalStatistics.1, none⟩⟩] := by
        simp [noteOf, reporterEq, ReadyHandle.snapshot]
      rw [reporterEq] at aligned
      obtain ⟨positive, -, count, -, -⟩ := aligned
      rw [note]
      apply noted.snapshot (by rw [reporterEq]; rfl) grows
      · rw [kindAt_pause positive inPause count]
      · rintro _ _ ⟨⟩
      · exact onTime_of_due added due
  | @drainReported timeZero targetTime reporterEq due =>
      have note : noteOf run.handle (run.handle.snapshot (targetTime.durationSince timeZero) 0 none
          (.drain timeZero)) =
          [⟨.drain, timeZero, run.handle.now, ⟨targetTime.durationSince timeZero, 0,
            run.handle.tracker.intervalStatistics.1, none⟩⟩] := by
        simp [noteOf, reporterEq, ReadyHandle.snapshot]
      rw [reporterEq] at aligned
      obtain ⟨count, -, second, last, added⟩ := aligned
      have drained : 0 < run.handle.history.drainSeconds.length := by
        rw [List.length_pos_iff]
        rintro empty
        rw [empty] at last
        cases last
      rw [note]
      apply noted.snapshot (by rw [reporterEq]; rfl) grows
      · rw [kindAt_drain (by omega)]
      · rintro _ _ ⟨⟩
      · exact onTime_of_due added due
  | startWarmup reporterEq | stepReceived reporterEq | phaseEnded reporterEq
  | pauseEnded reporterEq | startLoad reporterEq | inflight reporterEq | drained reporterEq
  | clockRead reporterEq =>
      simp only [noteOf, reporterEq, List.append_nil]
      exact noted.keep (reports_eq_of run.handle rfl (by rw [reporterEq]; rfl)) rfl rfl
        (Nat.le_refl _) grows
  | sent reporterEq =>
      simp only [noteOf, reporterEq, List.append_nil]
      exact noted.keep (reports_sent (by rw [reporterEq]; rfl) rfl rfl) rfl rfl (Nat.le_refl _) grows
  | finished reporterEq =>
      simp only [noteOf, reporterEq, List.append_nil]
      exact noted.keep (reports_finished reporterEq rfl rfl) rfl rfl (Nat.le_refl _) grows
  | panicked nothingUnsent =>
      rw [noteOf_of_failed rfl, List.append_nil]
      exact noted.keep (reports_eq_of run.handle rfl nothingUnsent.symm) rfl rfl (Nat.le_refl _)
        grows

/-- Every step but a failing send keeps the notes in step with the reports. -/
theorem Noted.step {next : ReportRun} {event : Event} (noted : run.Noted) (linked : run.Linked)
    (aligned : run.handle.Aligned) (sends : event ≠ .sendFails)
    (stepped : machine.step run event = some next) : next.Noted := by
  have grows := (linked.step aligned stepped).2
  obtain ⟨moved, -, notesEq⟩ := step_eq_some stepped
  obtain ⟨handle, pacing, notes⟩ := next
  dsimp only at moved notesEq grows
  rw [notesEq]
  cases event with
  | sendFails => exact absurd rfl sends
  | report => exact noted.report linked aligned moved grows
  | tick elapsed =>
      cases moved
      rw [noteOf_of_same, List.append_nil]
      · exact noted.keep rfl rfl rfl (Nat.le_add_right _ _) grows
      · rfl
  | pace gaps =>
      have same := sameReports_pace moved
      obtain ⟨-, -, -, -, -, -, -, -, clock, -⟩ := pace_eq_some moved
      rw [noteOf_of_same same.reporter, List.append_nil]
      exact noted.keep same.reports same.profile same.warmup clock.ge grows
  | complete index outcome finishedAt =>
      obtain ⟨task, -, rfl⟩ := complete_eq_some moved
      rw [noteOf_of_same, List.append_nil]
      · exact noted.keep rfl rfl rfl (Nat.le_refl _) grows
      · rfl

theorem noted_new (loadgeneratorId : LoadGeneratorId) (profile : LoadProfile) (warmup : Warmup)
    (now : Instant) : (new loadgeneratorId profile warmup now).Noted := by
  constructor
  · rfl
  · simp [new]
  · simp [new]
  · simp [new]

end ReportRun

/-! ## Drain rounds -/

/-- The start of the load phase in a drain round. -/
def Reporter.drainZero? : Reporter → Option LoadTestTime
  | .loop (.drain timeZero) | .sending _ (.drain timeZero) | .clock timeZero
  | .sleepDrain timeZero _ => some timeZero
  | _ => none

@[simp]
theorem drainZero?_sending (report : IntervalReport) (head : LoopHead) :
    (Reporter.sending report head).drainZero? = (Reporter.loop head).drainZero? := by
  cases head <;> rfl

/-- All steps of the load phase end before `time`. -/
def StepsEndBefore (handle : ReadyHandle) (time : Duration) : Prop :=
  ∀ steps, handle.StepsOf .load steps → ∀ step ∈ steps, step.deadline < time

theorem StepsEndBefore.congr {handle next : ReadyHandle} {time : Duration}
    (before : handle.StepsEndBefore time) (profile : next.profile = handle.profile)
    (warmup : next.warmup = handle.warmup) : next.StepsEndBefore time :=
  fun steps stepsOf => before steps (stepsOf.congr profile.symm warmup.symm)

def drainTargets (notes : List ReportNote) : List Duration :=
  notes.filterMap ReportNote.drainTarget?

theorem mem_drainTargets {notes : List ReportNote} {target : Duration} :
    target ∈ drainTargets notes ↔
      ∃ note ∈ notes, note.kind = .drain ∧ note.report.targetTime.duration = target := by
  simp only [drainTargets, List.mem_filterMap, ReportNote.drainTarget?, Option.ite_none_right_eq_some,
    Option.some.injEq]

theorem drainTargets_append_of_others {notes added : List ReportNote}
    (others : ∀ note ∈ added, note.kind ≠ .drain) :
    drainTargets (notes ++ added) = drainTargets notes := by
  have none : added.filterMap ReportNote.drainTarget? = [] := by
    rw [List.filterMap_eq_nil_iff]
    exact fun note member => if_neg (others note member)
  rw [drainTargets, List.filterMap_append, none, List.append_nil]
  rfl

namespace ReportRun

/-- The start of the load phase, as its pacer thread has it. -/
def StartsLoadAt (pacing : Phase → Option PacerRun) (timeZero : LoadTestTime) : Prop :=
  ∃ paced, pacing .load = some paced ∧ paced.pacer.timeZero = timeZero

theorem StartsLoadAt.mono {pacing pacing' : Phase → Option PacerRun} {timeZero : LoadTestTime}
    (starts : StartsLoadAt pacing timeZero) (grows : Grows pacing pacing') :
    StartsLoadAt pacing' timeZero := by
  obtain ⟨paced, found, timeZeroEq⟩ := starts
  obtain ⟨paced', found', kept, -⟩ := grows .load paced found
  exact ⟨paced', found', kept.trans timeZeroEq⟩

/-- What drain rounds keep. -/
structure Drains (run : ReportRun) : Prop where
  zero : ∀ timeZero, run.handle.reporter.drainZero? = some timeZero →
    StartsLoadAt run.pacing timeZero ∧ ∀ steps, run.handle.StepsOf .load steps →
      ∀ step ∈ steps, timeZero.instant + step.deadline ≤ run.handle.now
  notes : ∀ note ∈ run.notes, note.kind = .drain →
    StartsLoadAt run.pacing note.timeZero ∧ ∃ second,
      note.report.targetTime = ⟨Duration.fromSecs second⟩ ∧
        run.handle.StepsEndBefore (Duration.fromSecs second)
  spaced : (drainTargets run.notes).Pairwise (· < ·)
  sleeping : ∀ timeZero targetTime, run.handle.reporter = .sleepDrain timeZero targetTime →
    ∃ second, targetTime = ⟨timeZero.instant + Duration.fromSecs second⟩ ∧
      run.handle.StepsEndBefore (Duration.fromSecs second) ∧
        ∀ target ∈ drainTargets run.notes, target < Duration.fromSecs second

variable {run : ReportRun} {next : ReadyHandle} {pacing : Phase → Option PacerRun}

/-- Steps that are not about drain rounds. -/
theorem Drains.keep (drains : run.Drains) {added : List ReportNote}
    (profile : next.profile = run.handle.profile) (warmup : next.warmup = run.handle.warmup)
    (clock : run.handle.now ≤ next.now) (grows : Grows run.pacing pacing)
    (others : ∀ note ∈ added, note.kind ≠ .drain)
    (zero : ∀ timeZero, next.reporter.drainZero? = some timeZero →
      run.handle.reporter.drainZero? = some timeZero)
    (sleeping : ∀ timeZero targetTime, next.reporter = .sleepDrain timeZero targetTime →
      run.handle.reporter = .sleepDrain timeZero targetTime) :
    Drains ⟨next, pacing, run.notes ++ added⟩ := by
  constructor
  · intro timeZero zeroEq
    obtain ⟨starts, ended⟩ := drains.zero timeZero (zero timeZero zeroEq)
    refine ⟨starts.mono grows, fun steps stepsOf step member => ?_⟩
    exact (ended steps (stepsOf.congr profile.symm warmup.symm) step member).trans clock
  · intro note member kind
    rcases List.mem_append.mp member with old | new
    · obtain ⟨starts, second, target, before⟩ := drains.notes note old kind
      exact ⟨starts.mono grows, second, target, before.congr profile warmup⟩
    · exact absurd kind (others note new)
  · rw [drainTargets_append_of_others others]
    exact drains.spaced
  · intro timeZero targetTime asleep
    obtain ⟨second, target, before, later⟩ :=
      drains.sleeping timeZero targetTime (sleeping timeZero targetTime asleep)
    refine ⟨second, target, before.congr profile warmup, ?_⟩
    rw [drainTargets_append_of_others others]
    exact later

/-- Steps outside of the drain rounds. -/
theorem Drains.outside (drains : run.Drains) {added : List ReportNote}
    (profile : next.profile = run.handle.profile) (warmup : next.warmup = run.handle.warmup)
    (clock : run.handle.now ≤ next.now) (grows : Grows run.pacing pacing)
    (others : ∀ note ∈ added, note.kind ≠ .drain) (outside : next.reporter.drainZero? = none) :
    Drains ⟨next, pacing, run.notes ++ added⟩ := by
  apply drains.keep profile warmup clock grows others
  · intro timeZero inside
    rw [outside] at inside
    cases inside
  · intro timeZero targetTime asleep
    rw [asleep] at outside
    cases outside

/-- When the load phase returns, all of its deadlines are past. -/
theorem Noted.ended (noted : run.Noted) {phaseRun : PhaseRun} {received : Nat} {pacer : Pacer}
    (count : run.handle.reports.length = run.handle.reportsBeforePhase phaseRun.phase + received)
    (running : run.handle.Running phaseRun received) (channel : run.handle.stepsDone = [])
    (pacerEq : run.handle.pacer = some pacer) (done : pacer.position = .done)
    {paced : PacerRun} (found : run.pacing phaseRun.phase = some paced)
    {steps : List ScheduledStep} (stepsOf : run.handle.StepsOf phaseRun.phase steps)
    {step : ScheduledStep} (member : step ∈ steps) :
    paced.pacer.timeZero.instant + step.deadline ≤ run.handle.now := by
  have all := running.returned channel pacerEq done
  obtain ⟨index, stepAt⟩ := List.getElem?_of_mem member
  have bound : index < phaseRun.deadlines.length := by
    rw [running.phaseOf.deadlines_eq stepsOf, List.length_map]
    exact (List.getElem?_eq_some_iff.mp stepAt).1
  -- the report of the step has been built, and so its deadline was past
  have inNotes : run.handle.reportsBeforePhase phaseRun.phase + index < run.notes.length := by
    have length := congrArg List.length noted.reports
    rw [List.length_map] at length
    omega
  have noteAt := List.getElem?_eq_getElem inNotes
  have noteMem := List.mem_of_getElem? noteAt
  have kind := noted.kinds _ _ noteAt
  rw [kindAt_step running.phaseOf bound] at kind
  obtain ⟨paced', steps', step', found', stepsOf', stepAt', timeZero, target, -⟩ :=
    noted.steps _ noteMem _ _ kind
  obtain ⟨onTime, sent⟩ := noted.onTime _ noteMem
  rw [found] at found'
  cases found'
  rw [stepsOf'.unique stepsOf, stepAt] at stepAt'
  cases stepAt'
  rw [ReportNote.OnTime, timeZero, target] at onTime
  exact onTime.trans sent

theorem Drains.notes_mono (drains : run.Drains) (profile : next.profile = run.handle.profile)
    (warmup : next.warmup = run.handle.warmup) (grows : Grows run.pacing pacing) :
    ∀ note ∈ run.notes, note.kind = .drain → StartsLoadAt pacing note.timeZero ∧
      ∃ second, note.report.targetTime = ⟨Duration.fromSecs second⟩ ∧
        next.StepsEndBefore (Duration.fromSecs second) := by
  intro note member kind
  obtain ⟨starts, second, target, before⟩ := drains.notes note member kind
  exact ⟨starts.mono grows, second, target, before.congr profile warmup⟩

/-- The load phase returns and the drain rounds begin. -/
theorem Drains.phaseEnded (drains : run.Drains) (noted : run.Noted) (linked : run.Linked)
    {phaseRun : PhaseRun} {pacer : Pacer}
    (aligned : run.handle.AlignedAt run.handle.reports.length (.receive phaseRun))
    (reporterEq : run.handle.reporter = .loop (.receive phaseRun))
    (channel : run.handle.stepsDone = []) (pacerEq : run.handle.pacer = some pacer)
    (done : pacer.position = .done) (grows : Grows run.pacing pacing) :
    Drains ⟨{ run.handle with reporter := .loop (run.handle.afterPhase phaseRun) }, pacing,
      run.notes⟩ := by
  obtain ⟨received, count, running⟩ := aligned
  obtain ⟨paced, found, timeZeroEq⟩ := linked.running phaseRun (by rw [reporterEq]; rfl)
  constructor
  · intro timeZero zeroEq
    unfold afterPhase at zeroEq
    cases phaseEq : phaseRun.phase with
    | warmup =>
        rw [phaseEq] at zeroEq
        cases zeroEq
    | load =>
        rw [phaseEq] at zeroEq
        cases zeroEq
        rw [phaseEq] at found
        refine ⟨StartsLoadAt.mono ⟨paced, found, timeZeroEq⟩ grows, ?_⟩
        intro steps stepsOf step member
        rw [← timeZeroEq]
        exact noted.ended count running channel pacerEq done (by rw [phaseEq]; exact found)
          (by rw [phaseEq]; exact stepsOf) member
  · exact drains.notes_mono rfl rfl grows
  · exact drains.spaced
  · intro timeZero targetTime asleep
    unfold afterPhase at asleep
    cases phaseEq : phaseRun.phase <;> rw [phaseEq] at asleep <;> cases asleep

/-- A drain round reads the clock, after all earlier target times. -/
theorem Drains.clockRead (drains : run.Drains) (noted : run.Noted)
    {timeZero targetTime : LoadTestTime} (reporterEq : run.handle.reporter = .clock timeZero)
    (exact : ExactSeconds run.handle.now)
    (added : timeZero.addDeadline (drainDeadline (drainSecond timeZero run.handle.now)) =
      some targetTime) {history : History} (grows : Grows run.pacing pacing) :
    Drains ⟨{ run.handle with reporter := .sleepDrain timeZero targetTime, history }, pacing,
      run.notes⟩ := by
  obtain ⟨starts, ended⟩ := drains.zero timeZero (by rw [reporterEq]; rfl)
  obtain ⟨targetEq, later⟩ := addDeadline_drainDeadline exact added
  have inTime : ∀ time : Duration, timeZero.instant + time ≤ run.handle.now →
      time < Duration.fromSecs (drainSecond timeZero run.handle.now + 1) := by
    intro time past
    exact Nat.lt_of_add_lt_add_left (past.trans_lt later)
  constructor
  · rintro _ ⟨⟩
    exact ⟨starts.mono grows, ended⟩
  · exact drains.notes_mono rfl rfl grows
  · exact drains.spaced
  · rintro _ _ ⟨⟩
    refine ⟨drainSecond timeZero run.handle.now + 1, targetEq, ?_, ?_⟩
    · exact fun steps stepsOf step member => inTime _ (ended steps stepsOf step member)
    · intro target member
      obtain ⟨note, noteMem, kind, rfl⟩ := mem_drainTargets.mp member
      obtain ⟨paced, found, timeZeroEq⟩ := starts
      obtain ⟨⟨other, found', otherEq⟩, -⟩ := drains.notes note noteMem kind
      obtain ⟨onTime, sent⟩ := noted.onTime note noteMem
      rw [found] at found'
      cases found'
      rw [ReportNote.OnTime, ← otherEq, timeZeroEq] at onTime
      exact inTime _ (onTime.trans sent)

/-- The report of a drain round. -/
theorem Drains.drainReported (drains : run.Drains) {timeZero targetTime : LoadTestTime}
    {report : IntervalReport} (reporterEq : run.handle.reporter = .sleepDrain timeZero targetTime)
    (targetEq : report.targetTime = targetTime.durationSince timeZero)
    (grows : Grows run.pacing pacing) :
    Drains ⟨{ run.handle with
        tracker := run.handle.tracker.intervalStatistics.2
        reporter := .sending report (.drain timeZero) }, pacing,
      run.notes ++ [⟨.drain, timeZero, run.handle.now, report⟩]⟩ := by
  obtain ⟨starts, ended⟩ := drains.zero timeZero (by rw [reporterEq]; rfl)
  obtain ⟨second, rfl, before, later⟩ := drains.sleeping timeZero targetTime reporterEq
  have targetTimeEq : report.targetTime = ⟨Duration.fromSecs second⟩ :=
    targetEq.trans (LoadTestTime.add_durationSince timeZero ⟨Duration.fromSecs second⟩)
  constructor
  · rintro _ ⟨⟩
    exact ⟨starts.mono grows, ended⟩
  · intro note member kind
    rcases List.mem_append.mp member with old | new
    · exact drains.notes_mono rfl rfl grows note old kind
    · rw [List.mem_singleton.mp new]
      exact ⟨starts.mono grows, second, targetTimeEq, before⟩
  · have target : drainTargets (run.notes ++ [⟨.drain, timeZero, run.handle.now, report⟩]) =
        drainTargets run.notes ++ [Duration.fromSecs second] := by
      simp [drainTargets, ReportNote.drainTarget?, targetTimeEq]
    rw [target, List.pairwise_append]
    refine ⟨drains.spaced, List.pairwise_singleton _ _, ?_⟩
    intro earlier member last lastMem
    rw [List.mem_singleton.mp lastMem]
    exact later earlier member
  · rintro _ _ ⟨⟩

theorem Drains.report (drains : run.Drains) (noted : run.Noted) (linked : run.Linked)
    (aligned : run.handle.Aligned) (exact : ExactSeconds run.handle.now)
    (reported : run.handle.report = some next) (grows : Grows run.pacing pacing) :
    Drains ⟨next, pacing, run.notes ++ noteOf run.handle next⟩ := by
  have step := report_cases reported
  unfold Aligned at aligned
  cases step with
  | phaseEnded reporterEq channel pacerEq done =>
      rw [reporterEq] at aligned
      simp only [noteOf, reporterEq, List.append_nil]
      exact drains.phaseEnded noted linked aligned reporterEq channel pacerEq done grows
  | clockRead reporterEq secondEq added =>
      subst secondEq
      simp only [noteOf, reporterEq, List.append_nil]
      exact drains.clockRead noted reporterEq exact added grows
  | drainReported reporterEq =>
      simp only [noteOf, reporterEq, ReadyHandle.snapshot]
      exact drains.drainReported reporterEq rfl grows
  | stepReported reporterEq | secondReported reporterEq =>
      simp only [noteOf, reporterEq, ReadyHandle.snapshot]
      exact drains.outside rfl rfl (Nat.le_refl _) grows (by simp) rfl
  | startWarmup reporterEq | stepReceived reporterEq | pauseEnded reporterEq
  | startLoad reporterEq | drained reporterEq | finished reporterEq =>
      simp only [noteOf, reporterEq]
      exact drains.outside rfl rfl (Nat.le_refl _) grows (by simp) rfl
  | inflight reporterEq =>
      simp only [noteOf, reporterEq]
      refine drains.keep rfl rfl (Nat.le_refl _) grows ?_ ?_ ?_
      · simp
      · rw [reporterEq]
        exact fun _ => id
      · rintro _ _ ⟨⟩
  | sent reporterEq =>
      simp only [noteOf, reporterEq]
      refine drains.keep rfl rfl (Nat.le_refl _) grows ?_ ?_ ?_
      · simp
      · rw [reporterEq, drainZero?_sending]
        exact fun _ => id
      · rintro _ _ ⟨⟩
  | panicked =>
      rw [noteOf_of_failed rfl]
      exact drains.outside rfl rfl (Nat.le_refl _) grows (by simp) rfl

/-- Every step but a failing send keeps the drain rounds apart, as long as seconds are exact. -/
theorem Drains.step {next : ReportRun} {event : Event} (drains : run.Drains) (noted : run.Noted)
    (linked : run.Linked) (aligned : run.handle.Aligned) (sends : event ≠ .sendFails)
    (exact : ExactSeconds run.handle.now) (stepped : machine.step run event = some next) :
    next.Drains := by
  have grows := (linked.step aligned stepped).2
  obtain ⟨moved, -, notesEq⟩ := step_eq_some stepped
  obtain ⟨handle, pacing, notes⟩ := next
  dsimp only at moved notesEq grows
  rw [notesEq]
  cases event with
  | sendFails => exact absurd rfl sends
  | report => exact drains.report noted linked aligned exact moved grows
  | tick elapsed =>
      cases moved
      rw [noteOf_of_same]
      · exact drains.keep rfl rfl (Nat.le_add_right _ _) grows (by simp) (fun _ => id)
          (fun _ _ => id)
      · rfl
  | pace gaps =>
      have same := sameReports_pace moved
      obtain ⟨-, -, -, -, -, -, -, -, clock, -⟩ := pace_eq_some moved
      rw [noteOf_of_same same.reporter]
      refine drains.keep same.profile same.warmup clock.ge grows (by simp) ?_ ?_
      · rw [same.reporter]
        exact fun _ => id
      · rw [same.reporter]
        exact fun _ _ => id
  | complete index outcome finishedAt =>
      obtain ⟨task, -, rfl⟩ := complete_eq_some moved
      rw [noteOf_of_same]
      · exact drains.keep rfl rfl (Nat.le_refl _) grows (by simp) (fun _ => id) (fun _ _ => id)
      · rfl

theorem drains_new (loadgeneratorId : LoadGeneratorId) (profile : LoadProfile) (warmup : Warmup)
    (now : Instant) : (new loadgeneratorId profile warmup now).Drains := by
  constructor
  · rintro _ ⟨⟩
  · simp [new]
  · exact .nil
  · rintro _ _ ⟨⟩

/-- No send fails, and seconds of the clock are exact. -/
def Undisturbed (run : ReportRun) (event : Event) : Prop :=
  event ≠ .sendFails ∧ ExactSeconds run.handle.now

instance (run : ReportRun) (event : Event) : Decidable (run.Undisturbed event) :=
  inferInstanceAs (Decidable (_ ∧ _ < _))

theorem noted_of_reachable (reachable : machine.ReachableBy Undisturbed run) :
    run.Noted ∧ run.Drains := by
  have known : ∀ run, machine.Reachable run → run.Linked ∧ run.handle.Aligned := fun _ reached =>
    ⟨linked_of_reachable reached, (wellReported_of_reachable (handle_of_reachable reached)).aligned⟩
  apply reachable.invariant_of_known known
  · rintro _ ⟨loadgeneratorId, profile, warmup, now, rfl⟩
    exact ⟨noted_new loadgeneratorId profile warmup now,
      drains_new loadgeneratorId profile warmup now⟩
  · rintro _ _ _ ⟨linked, aligned⟩ ⟨noted, drains⟩ ⟨sends, exact⟩ stepped
    exact ⟨noted.step linked aligned sends stepped,
      drains.step noted linked aligned sends exact stepped⟩

/-- How a generator reports. -/
structure WellTimed (run : ReportRun) : Prop where
  /-- The final update comes once, after all reports. -/
  finished : run.handle.sent = (reportsIn run.handle.sent).map .intervalReport ++
    if run.handle.reporter = .finished then [.finished] else []
  reports : run.notes.map (·.report) = run.handle.reports
  kinds : ∀ (index : Nat) (note : ReportNote), run.notes[index]? = some note →
    note.kind = run.handle.kindAt index
  complete : run.handle.reporter = .finished → run.handle.scheduledReports ≤ run.notes.length
  /-- The accounts are those of pacer threads over the steps of the two phases. -/
  accounts : ∀ phase paced, run.pacing phase = some paced →
    ∃ steps, run.handle.StepsOf phase steps ∧
      paced.AccountedFor run.handle.loadgeneratorId steps paced.pacer.timeZero
  steps : ∀ note ∈ run.notes, ∀ phase index, note.kind = .step phase index →
    ∃ paced steps step, run.pacing phase = some paced ∧ run.handle.StepsOf phase steps ∧
      steps[index]? = some step ∧
        (note.report.finalBatchTime.isSome ↔ ∃ arrival ∈ paced.arrivals, arrival.step = index) ∧
          paced.pacer.timeZero.instant + step.deadline ≤ note.sentAt
  drains : ∀ note ∈ run.notes, note.kind = .drain →
    ∃ paced second, run.pacing .load = some paced ∧
      note.report.targetTime = ⟨Duration.fromSecs second⟩ ∧
        run.handle.StepsEndBefore (Duration.fromSecs second) ∧
          paced.pacer.timeZero.instant + Duration.fromSecs second ≤ note.sentAt
  /-- No second is covered by two drain reports. -/
  spaced : (drainTargets run.notes).Pairwise (· < ·)

theorem indexed_of_stepsOf {handle : ReadyHandle} {phase : Phase} {steps : List ScheduledStep}
    (stepsOf : handle.StepsOf phase steps) : ScheduledStep.Indexed 0 steps := by
  cases phase with
  | warmup =>
      rw [show steps = _ from stepsOf]
      exact ScheduledStep.fromWarmup_indexed _
  | load => exact (ScheduledStep.fromSteps_eq_some stepsOf).2.1

/-- Whatever the clock shows and however long the sends take, the reports of a generator come in
order, no earlier than their target times, and no second is reported twice. -/
theorem wellTimed_of_reachable (reachable : machine.ReachableBy Undisturbed run) :
    run.WellTimed := by
  have reached := handle_of_reachable reachable
  have linked := linked_of_reachable reachable
  have aligned := (wellReported_of_reachable reached).aligned
  obtain ⟨noted, drains⟩ := noted_of_reachable reachable
  have accounts : ∀ phase paced, run.pacing phase = some paced →
      ∃ steps, run.handle.StepsOf phase steps ∧
        paced.AccountedFor run.handle.loadgeneratorId steps paced.pacer.timeZero := by
    intro phase paced found
    obtain ⟨steps, stepsOf, pacedReached⟩ := linked.reached phase paced found
    exact ⟨steps, stepsOf,
      PacerRun.accountedFor_of_reachable (indexed_of_stepsOf stepsOf) pacedReached⟩
  constructor
  · have sent := (streams_of_reachable reached).ended.sent
    cases reporterEq : run.handle.reporter <;> rw [reporterEq] at sent <;>
      simpa [Reporter.finalUpdate] using sent
  · exact noted.reports
  · exact noted.kinds
  · intro finished
    rw [Aligned, finished] at aligned
    have length := congrArg List.length noted.reports
    rw [List.length_map, aligned.1] at length
    omega
  · exact accounts
  · intro note member phase index kind
    obtain ⟨paced, steps, step, found, stepsOf, stepAt, timeZero, target, done, doneMem, rfl,
      announced⟩ := noted.steps note member phase index kind
    obtain ⟨_, -, accounted⟩ := accounts phase paced found
    obtain ⟨onTime, -⟩ := noted.onTime note member
    rw [ReportNote.OnTime, timeZero, target] at onTime
    refine ⟨paced, steps, step, found, stepsOf, stepAt, ?_, onTime⟩
    rw [announced]
    exact (accounted.lastDispatch done doneMem).1
  · intro note member kind
    obtain ⟨⟨paced, found, timeZero⟩, second, target, before⟩ := drains.notes note member kind
    obtain ⟨onTime, -⟩ := noted.onTime note member
    rw [ReportNote.OnTime, ← timeZero, target] at onTime
    exact ⟨paced, second, found, target, before, onTime⟩
  · exact drains.spaced

theorem wellTimed_of_reachable_oneDrain :
    ∃ run : ReportRun, run.WellTimed ∧
      (run.notes.map (·.kind) = [.step .load 0, .drain] ∧ .finished ∈ run.handle.sent) := by
  have initial : machine.initial (.new ⟨0⟩ ⟨[⟨.fromSecs 1, 1⟩]⟩ ⟨0, 0, 0⟩ 0) := ⟨_, _, _, _, rfl⟩
  obtain ⟨run, reachable, seen⟩ := machine.exists_reachableBy_of_exec
    (fun run event => of_decide_eq_true (p := run.Undisturbed event)) initial
    [.report, .pace [], .pace [], .report, .report, .report, .pace [500000000], .tick 500000000,
      .pace [], .pace [], .pace [500000000], .pace [], .pace [], .report, .tick 500000000,
      .report, .report, .report, .report, .report, .tick 1000000000, .report,
      .complete 0 (.dropped none .late) 1000000000, .report, .report, .report]
    (fun run => decide (run.notes.map (·.kind) = [.step .load 0, .drain] ∧
      .finished ∈ run.handle.sent)) (by decide +kernel)
  exact ⟨run, wellTimed_of_reachable reachable, of_decide_eq_true seen⟩

end ReportRun

end ReadyHandle

end CreoBench
