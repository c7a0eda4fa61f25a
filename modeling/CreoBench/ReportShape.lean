import CreoBench.Library.ListIndex
import CreoBench.ReportAlignment

/-!
# The shape of a generator's report stream

Every report carries the target time and the load level that its number calls
for: first the seconds of the warmup, then the seconds of the pause, then the
steps of the profile, and after them one report per drain round.
-/

namespace CreoBench

namespace ReadyHandle

/-- What the report number `index` says about its time and its load. -/
structure RowAt (handle : ReadyHandle) (index : Nat) (report : IntervalReport) : Prop where
  warmup : index < handle.warmup.duration.toNat →
    report.targetTime = ⟨Duration.fromSecs (index + 1)⟩ ∧
      report.loadLevel = handle.warmup.rate
  pause : handle.warmup.duration.toNat ≤ index →
    index < handle.warmup.duration.toNat + handle.warmup.pause.toNat →
      report.targetTime =
          ⟨Duration.fromSecs (index - handle.warmup.duration.toNat + 1)⟩ ∧
        report.loadLevel = 0 ∧ report.finalBatchTime = none
  load : ∀ step, handle.reportsBeforePhase .load ≤ index →
    handle.profile.steps[index - handle.reportsBeforePhase .load]? = some step →
      Duration.fromSecsF64 step.deadline.value = some report.targetTime.duration ∧
        report.loadLevel = step.count
  drain : handle.scheduledReports ≤ index →
    (∃ second, handle.history.drainSeconds[index - handle.scheduledReports]? = some second ∧
      Duration.fromSecsF64 (drainDeadline second).value =
        some report.targetTime.duration) ∧
      report.loadLevel = 0 ∧ report.finalBatchTime = none

/-- Every report built so far is the one its position calls for. -/
def Shaped (handle : ReadyHandle) : Prop :=
  ∀ index report, handle.reports[index]? = some report → handle.RowAt index report

/-- A row stays as it is when the configuration stays and drain rounds are added. -/
theorem RowAt.mono {handle next : ReadyHandle} {index : Nat} {report : IntervalReport}
    (row : handle.RowAt index report) (warmupEq : next.warmup = handle.warmup)
    (profileEq : next.profile = handle.profile)
    (extended : handle.history.drainSeconds <+: next.history.drainSeconds) :
    next.RowAt index report := by
  have before : next.reportsBeforePhase .load = handle.reportsBeforePhase .load := by
    simp only [reportsBeforePhase, warmupEq]
  have scheduled : next.scheduledReports = handle.scheduledReports := by
    rw [scheduledReports, scheduledReports, warmupEq, profileEq]
  refine ⟨?_, ?_, ?_, ?_⟩
  · rw [warmupEq]
    exact row.warmup
  · rw [warmupEq]
    exact row.pause
  · rw [before, profileEq]
    exact row.load
  · rw [scheduled]
    intro drained
    obtain ⟨⟨second, found, converted⟩, flat⟩ := row.drain drained
    exact ⟨⟨second, extended.getElem?_eq_some found, converted⟩, flat⟩

theorem Shaped.mono {handle next : ReadyHandle} (shaped : handle.Shaped)
    (reportsEq : next.reports = handle.reports) (warmupEq : next.warmup = handle.warmup)
    (profileEq : next.profile = handle.profile)
    (extended : handle.history.drainSeconds <+: next.history.drainSeconds) :
    next.Shaped := by
  intro index report found
  rw [reportsEq] at found
  exact (shaped index report found).mono warmupEq profileEq extended

/-- A snapshot adds one row. -/
theorem Shaped.snapshot {handle : ReadyHandle} {targetTime : RelativeLoadTestTime}
    {loadLevel : UInt32} {finalBatchTime : Option RelativeLoadTestTime} {head : LoopHead}
    (shaped : handle.Shaped) (nothingUnsent : handle.reporter.unsent = [])
    (row : ∀ stats, handle.RowAt handle.reports.length
      { targetTime, loadLevel, stats, finalBatchTime }) :
    (handle.snapshot targetTime loadLevel finalBatchTime head).Shaped := by
  intro index report found
  rw [reports_snapshot nothingUnsent] at found
  have rowBefore : handle.RowAt index report := by
    rcases List.getElem?_concat_eq_some.mp found with old | ⟨rfl, rfl⟩
    · exact shaped index report old
    · exact row _
  exact rowBefore.mono rfl rfl (List.prefix_refl _)

/-- The report of a step carries the step's deadline and load level. -/
theorem rowAt_step {handle : ReadyHandle} {run : PhaseRun} {index : Nat}
    {deadline : RelativeLoadTestTime} {report : IntervalReport}
    (phaseOf : handle.PhaseOf run) (deadlineEq : run.deadlines[index]? = some deadline)
    (levelEq : run.loadLevels[index]? = some report.loadLevel)
    (targetEq : report.targetTime = deadline) :
    handle.RowAt (handle.reportsBeforePhase run.phase + index) report := by
  have total := length_deadlines phaseOf
  obtain ⟨bound, -⟩ := List.getElem?_eq_some_iff.mp deadlineEq
  unfold PhaseOf at phaseOf
  cases phaseEq : run.phase with
  | warmup =>
      simp only [phaseEq, reportsBeforePhase, Nat.zero_add] at phaseOf total ⊢
      rw [total] at bound
      refine ⟨fun _ => ?_, by omega, ?_, ?_⟩
      · simp only [phaseOf.1, phaseOf.2, ScheduledStep.fromWarmup, List.map_map,
          List.getElem?_map, List.getElem?_range bound, List.getElem?_replicate,
          if_pos bound, Option.map_some, Option.some.injEq] at deadlineEq levelEq
        exact ⟨targetEq.trans deadlineEq.symm, levelEq.symm⟩
      · intro step late
        simp only [reportsBeforePhase] at late
        omega
      · intro late
        simp only [scheduledReports] at late
        omega
  | load =>
      simp only [phaseEq] at phaseOf total ⊢
      obtain ⟨steps, converted, deadlinesEq, levelsEq⟩ := phaseOf
      refine ⟨?_, ?_, ?_, ?_⟩
      · simp only [reportsBeforePhase]
        omega
      · simp only [reportsBeforePhase]
        omega
      · intro step _ stepEq
        rw [Nat.add_sub_cancel_left] at stepEq
        obtain ⟨-, -, deadlines⟩ := ScheduledStep.fromSteps_eq_some converted
        have sameDeadline := congrArg (fun entries => entries[index]?) deadlines
        simp only [levelsEq, deadlinesEq, List.getElem?_map, stepEq, Option.map_some,
          Option.some.injEq, Option.map_eq_some_iff] at levelEq deadlineEq sameDeadline
        obtain ⟨scheduled, scheduledEq, rfl⟩ := deadlineEq
        simp only [scheduledEq, Option.map_some, Option.some.injEq] at sameDeadline
        exact ⟨by rw [sameDeadline, targetEq], levelEq.symm⟩
      · intro late
        omega

/-- The report of a second of the pause. -/
theorem rowAt_pause {handle : ReadyHandle} {index second : Nat} {report : IntervalReport}
    (positive : 0 < second) (inPause : second ≤ handle.warmup.pause.toNat)
    (counted : index + 1 = handle.warmup.duration.toNat + second)
    (targetEq : report.targetTime = ⟨Duration.fromSecs second⟩)
    (level : report.loadLevel = 0) (noBatch : report.finalBatchTime = none) :
    handle.RowAt index report := by
  refine ⟨by omega, fun _ _ => ⟨?_, level, noBatch⟩, ?_, ?_⟩
  · rw [targetEq]
    congr 2
    omega
  · intro step late
    simp only [reportsBeforePhase] at late
    omega
  · intro late
    simp only [scheduledReports] at late
    omega

/-- The report of a drain round. -/
theorem rowAt_drain {handle : ReadyHandle} {index second : Nat} {report : IntervalReport}
    (counted : index + 1 = handle.scheduledReports + handle.history.drainSeconds.length)
    (last : handle.history.drainSeconds.getLast? = some second)
    (converted : Duration.fromSecsF64 (drainDeadline second).value =
      some report.targetTime.duration)
    (level : report.loadLevel = 0) (noBatch : report.finalBatchTime = none) :
    handle.RowAt index report := by
  have drained : handle.history.drainSeconds ≠ [] := by
    intro none
    simp [none] at last
  have positive : 0 < handle.history.drainSeconds.length :=
    List.length_pos_iff.mpr drained
  have late : handle.scheduledReports ≤ index := by omega
  have found : handle.history.drainSeconds[index - handle.scheduledReports]? =
      some second := by
    rw [List.getLast?_eq_getElem?] at last
    rw [← last]
    congr 1
    omega
  refine ⟨?_, ?_, ?_, fun _ => ⟨⟨second, found, converted⟩, level, noBatch⟩⟩
  · simp only [scheduledReports] at late
    omega
  · simp only [scheduledReports] at late
    omega
  · intro step _ stepEq
    obtain ⟨bound, -⟩ := List.getElem?_eq_some_iff.mp stepEq
    simp only [scheduledReports, reportsBeforePhase] at late bound
    omega

/-- The target time of a deadline, relative to the time it was added to. -/
theorem durationSince_of_addDeadline {time targetTime : LoadTestTime}
    {deadline : LoadStepDeadline} (added : time.addDeadline deadline = some targetTime) :
    Duration.fromSecsF64 deadline.value =
      some (targetTime.durationSince time).duration := by
  obtain ⟨duration, converted, rfl⟩ := Option.map_eq_some_iff.mp added
  rw [converted, LoadTestTime.add_durationSince]

theorem Shaped.report {handle next : ReadyHandle} (shaped : handle.Shaped)
    (aligned : handle.Aligned) (reported : handle.report = some next) : next.Shaped := by
  have step := report_cases reported
  unfold Aligned at aligned
  cases step with
  | startWarmup reporterEq | stepReceived reporterEq | phaseEnded reporterEq
  | pauseEnded reporterEq | startLoad reporterEq | inflight reporterEq
  | drained reporterEq =>
      exact shaped.mono (reports_eq_of handle rfl (by rw [reporterEq]; rfl)) rfl rfl
        (List.prefix_refl _)
  | stepReported reporterEq deadlineEq levelEq =>
      rw [reporterEq] at aligned
      refine shaped.snapshot (by rw [reporterEq]; rfl) fun stats => ?_
      rw [aligned.1]
      exact rowAt_step aligned.2.phaseOf deadlineEq levelEq rfl
  | @secondReported pauseZero targetTime second reporterEq inPause added =>
      rw [reporterEq] at aligned
      obtain ⟨positive, -, reportsEq, -, -⟩ := aligned
      have small : second < 2 ^ 53 := by
        have := handle.warmup.pause.toNat_lt
        omega
      have converted := durationSince_of_addDeadline added
      rw [LoadStepDeadline.fromSecs, Duration.fromSecsF64_ofNat small,
        Option.some.injEq] at converted
      exact shaped.snapshot (by rw [reporterEq]; rfl) fun stats =>
        rowAt_pause positive inPause reportsEq (by rw [converted]) rfl rfl
  | clockRead reporterEq =>
      exact shaped.mono (reports_eq_of handle rfl (by rw [reporterEq]; rfl)) rfl rfl
        (List.prefix_append _ _)
  | drainReported reporterEq =>
      rw [reporterEq] at aligned
      obtain ⟨counted, -, second, last, added⟩ := aligned
      exact shaped.snapshot (by rw [reporterEq]; rfl) fun stats =>
        rowAt_drain counted last (durationSince_of_addDeadline added) rfl rfl
  | sent reporterEq =>
      exact shaped.mono (reports_sent (by rw [reporterEq]; rfl) rfl rfl) rfl rfl
        (List.prefix_refl _)
  | finished reporterEq =>
      exact shaped.mono (reports_finished reporterEq rfl rfl) rfl rfl (List.prefix_refl _)
  | panicked nothingUnsent =>
      exact shaped.mono (reports_eq_of handle rfl nothingUnsent.symm) rfl rfl
        (List.prefix_refl _)

/-- A failed send loses the report that was being sent. -/
theorem Shaped.sendFails {handle next : ReadyHandle} (shaped : handle.Shaped)
    (failed : handle.sendFails = some next) : next.Shaped := by
  obtain rfl := sendFails_eq_some failed
  have isPrefix : { handle with reporter := .failed }.reports <+: handle.reports := by
    change reportsIn handle.sent ++ [] <+: reportsIn handle.sent ++ handle.reporter.unsent
    rw [List.append_nil]
    exact List.prefix_append _ _
  intro index report found
  exact (shaped index report (isPrefix.getElem?_eq_some found)).mono rfl rfl
    (List.prefix_refl _)

theorem Shaped.step {handle next : ReadyHandle} {event : Event} (shaped : handle.Shaped)
    (aligned : handle.Aligned) (stepped : handle.step event = some next) : next.Shaped := by
  cases event with
  | tick elapsed =>
      cases stepped
      exact shaped.mono rfl rfl rfl (List.prefix_refl _)
  | pace gaps =>
      have same := sameReports_pace stepped
      exact shaped.mono same.reports same.warmup same.profile
        (same.drainSeconds ▸ List.prefix_refl _)
  | report => exact shaped.report aligned stepped
  | sendFails => exact shaped.sendFails stepped
  | complete index outcome finishedAt =>
      obtain ⟨task, -, rfl⟩ := complete_eq_some stepped
      exact shaped.mono rfl rfl rfl (List.prefix_refl _)

/-- Position and shape of the reports, as one invariant. -/
structure WellReported (handle : ReadyHandle) : Prop where
  aligned : handle.Aligned
  shaped : handle.Shaped

theorem wellReported_of_reachable {allowed : ReadyHandle → Event → Prop}
    {handle : ReadyHandle} (reachable : machine.ReachableBy allowed handle) :
    handle.WellReported := by
  refine reachable.invariant ?_ fun _ _ _ invariant _ stepped =>
    ⟨invariant.aligned.step stepped, invariant.shaped.step invariant.aligned stepped⟩
  rintro _ ⟨loadgeneratorId, profile, warmup, now, rfl⟩
  exact ⟨aligned_new loadgeneratorId profile warmup now, nofun⟩

end ReadyHandle

end CreoBench
