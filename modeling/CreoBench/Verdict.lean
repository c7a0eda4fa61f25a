import CreoBench.ReportedLoad

/-!
# What makes a run invalid

The verdict counts the dropped transactions of all reports after the warmup and the
pause.  A transaction of the load phase is never reported before, but one of the
warmup may be reported late.
-/

open scoped List

namespace CreoBench

namespace ReadyHandle

/-- Transactions of the load phase begin after the reports of warmup and pause were
sent. -/
structure LoadLate (handle : ReadyHandle) : Prop where
  phase : handle.phase = .load →
    handle.reportsBeforePhase .load ≤ (reportsIn handle.sent).length
  tasks : ∀ task ∈ handle.tasks, task.phase = .load →
    handle.reportsBeforePhase .load ≤ (reportsIn handle.sent).length
  logged : ∀ entry ∈ handle.history.logged, entry.task.phase = .load →
    handle.reportsBeforePhase .load ≤ entry.reportsBefore

/-- Steps that begin nothing. -/
theorem LoadLate.keep {handle next : ReadyHandle} (late : handle.LoadLate)
    (warmup : next.warmup = handle.warmup) (sent : handle.sent <+: next.sent)
    (phase : next.phase = handle.phase) (tasks : next.tasks = handle.tasks)
    (logged : next.history.logged = handle.history.logged) : next.LoadLate := by
  have before : next.reportsBeforePhase .load = handle.reportsBeforePhase .load := by
    simp only [reportsBeforePhase, warmup]
  have longer : (reportsIn handle.sent).length ≤ (reportsIn next.sent).length :=
    (sent.filterMap _).length_le
  refine ⟨?_, ?_, ?_⟩
  · rw [before, phase]
    exact fun load => (late.phase load).trans longer
  · rw [before, tasks]
    exact fun task member load => (late.tasks task member load).trans longer
  · rw [before, logged]
    exact late.logged

theorem LoadLate.report {handle next : ReadyHandle} (late : handle.LoadLate)
    (aligned : handle.Aligned) (reported : handle.report = some next) : next.LoadLate := by
  have stepped : handle.step .report = some next := reported
  have sent := sent_prefix stepped
  cases report_cases reported with
  | startWarmup => exact ⟨by rintro ⟨⟩, late.tasks, late.logged⟩
  | startLoad reporterEq =>
      rw [Aligned, reporterEq, reports_of_unsent (by rw [reporterEq]; rfl)] at aligned
      exact ⟨fun _ => aligned.1.ge, late.tasks, late.logged⟩
  | _ => exact late.keep rfl sent rfl rfl rfl

theorem LoadLate.step {handle next : ReadyHandle} {event : Event} (late : handle.LoadLate)
    (aligned : handle.Aligned) (stepped : handle.step event = some next) : next.LoadLate := by
  cases event with
  | tick elapsed =>
      cases stepped
      exact late.keep rfl (List.prefix_refl _) rfl rfl rfl
  | pace gaps =>
      cases pace_cases stepped with
      | quiet | announced | receiverDropped =>
          exact late.keep rfl (List.prefix_refl _) rfl rfl rfl
      | dispatched =>
          refine ⟨late.phase, fun task member load => ?_, late.logged⟩
          rcases List.mem_append.mp member with old | new
          · exact late.tasks task old load
          · obtain rfl := List.mem_singleton.mp new
            exact late.phase load
  | report => exact late.report aligned stepped
  | sendFails =>
      obtain rfl := sendFails_eq_some stepped
      exact late.keep rfl (List.prefix_refl _) rfl rfl rfl
  | complete index outcome finishedAt =>
      rcases complete_eq_some stepped with ⟨task, found, rfl⟩
      refine ⟨late.phase, fun other member => late.tasks other (List.mem_of_mem_eraseIdx member),
        fun entry member load => ?_⟩
      rcases List.mem_append.mp member with old | new
      · exact late.logged entry old load
      · obtain rfl := List.mem_singleton.mp new
        exact (late.tasks task (List.mem_of_getElem? found) load).trans
          handle.reports_prefix.length_le

theorem loadLate_of_reachable {handle : ReadyHandle} (reachable : machine.Reachable handle) :
    handle.LoadLate := by
  apply reachable.invariant_of_known (fun _ reached => (wellReported_of_reachable reached).aligned)
  · rintro _ ⟨loadgeneratorId, profile, warmup, now, rfl⟩
    exact ⟨by rintro ⟨⟩, by rintro _ ⟨⟩, by rintro _ ⟨⟩⟩
  · intro _ _ _ aligned late _ stepped
    exact late.step aligned stepped

theorem reporter_ne_failed {handle next : ReadyHandle} {event : Event}
    (stepped : handle.step event = some next) (notFailed : next.reporter ≠ .failed) :
    handle.reporter ≠ .failed ∧ event ≠ .sendFails := by
  cases event with
  | tick elapsed =>
      cases stepped
      exact ⟨notFailed, by simp⟩
  | pace gaps =>
      rw [(sameReports_pace stepped).reporter] at notFailed
      exact ⟨notFailed, by simp⟩
  | report =>
      refine ⟨fun failed => ?_, by simp⟩
      simp [step, report, failed] at stepped
  | sendFails =>
      obtain rfl := sendFails_eq_some stepped
      exact absurd rfl notFailed
  | complete index outcome finishedAt =>
      rcases complete_eq_some stepped with ⟨task, -, rfl⟩
      exact ⟨notFailed, by simp⟩

/-- Unless a send has failed, the results of a report are those logged since the report
before it. -/
theorem delivered_of_reachable {handle : ReadyHandle} (reachable : machine.Reachable handle) :
    handle.reporter ≠ .failed → handle.Delivered := by
  induction reachable with
  | start initial =>
      rcases initial with ⟨loadgeneratorId, profile, warmup, now, rfl⟩
      exact fun _ => delivered_new loadgeneratorId profile warmup now
  | step _ _ stepped ih =>
      intro notFailed
      rcases reporter_ne_failed stepped notFailed with ⟨before, notFails⟩
      exact (ih before).step notFails stepped

/-- What holds at the end of a load test. -/
structure Completed (handle : ReadyHandle) : Prop where
  delivered : handle.Delivered
  late : handle.LoadLate
  reports : reportsIn handle.sent = handle.reports
  tasks : handle.history.logged.map (·.task) ~ handle.history.dispatched

theorem completed_of_finished {handle : ReadyHandle} (reachable : machine.Reachable handle)
    (finished : .finished ∈ handle.sent) : handle.Completed := by
  have streams := streams_of_reachable reachable
  have atEnd := streams.ended.finished finished
  refine ⟨delivered_of_reachable reachable (by rw [atEnd]; simp), loadLate_of_reachable reachable,
    (reports_of_unsent (by rw [atEnd]; rfl)).symm, ?_⟩
  have tasks := streams.conserved.tasks
  rw [streams.ended.idle (.inr atEnd), List.nil_append] at tasks
  exact tasks

/-- A result is in the report that was built next after its log entry. -/
theorem Completed.mem_results {handle : ReadyHandle} (completed : handle.Completed)
    {result : TransactionResult} {index : Nat} :
    (∃ report, handle.reports[index]? = some report ∧ result ∈ report.results) ↔
      ∃ entry ∈ handle.history.logged, entry.reportsBefore = index ∧ entry.result = result ∧
        index < handle.reports.length := by
  have memResults : result ∈ resultsAfter handle.history.logged index ↔
      ∃ entry ∈ handle.history.logged, entry.reportsBefore = index ∧ entry.result = result := by
    simp [resultsAfter, and_assoc]
  constructor
  · rintro ⟨report, found, member⟩
    rw [completed.delivered.reported index report found, memResults] at member
    rcases member with ⟨entry, entryMem, before, same⟩
    exact ⟨entry, entryMem, before, same, (List.getElem?_eq_some_iff.mp found).1⟩
  · rintro ⟨entry, entryMem, before, same, bound⟩
    have found := List.getElem?_eq_getElem bound
    refine ⟨_, found, ?_⟩
    rw [completed.delivered.reported _ _ found, memResults]
    exact ⟨entry, entryMem, before, same⟩

/-- No result stays behind when the last one is kept. -/
theorem reportsBefore_lt_of_keepsLastResult {handle : ReadyHandle}
    (reachable : machine.ReachableBy KeepsLastResult handle)
    (finished : .finished ∈ handle.sent) :
    ∀ entry ∈ handle.history.logged, entry.reportsBefore < handle.reports.length := by
  intro entry member
  have accounted := accounted_of_reachableBy reachable
  have delivered := accounted.delivered
  have nonePending := accounted.pendingResults_of_finished finished
  apply Nat.lt_of_le_of_ne (delivered.bounded entry member)
  intro pending
  have isPending : entry.result ∈ handle.pendingResults := by
    rw [delivered.pending, resultsAfter, List.mem_map]
    exact ⟨entry, List.mem_filter.mpr ⟨member, decide_eq_true pending⟩, rfl⟩
  rw [nonePending] at isPending
  cases isPending

end ReadyHandle

namespace LoadGenerator

/-- The results logged so far. -/
def logged (generator : LoadGenerator) : List ReadyHandle.Logged :=
  match generator.position with
  | .started handle => handle.history.logged
  | _ => []

theorem logged_of_started {generator : LoadGenerator} {handle : ReadyHandle}
    (positionEq : generator.position = .started handle) :
    generator.logged = handle.history.logged := by
  rw [logged, positionEq]

theorem dispatched_of_started {generator : LoadGenerator} {handle : ReadyHandle}
    (positionEq : generator.position = .started handle) :
    generator.dispatched = handle.history.dispatched := by
  rw [dispatched, positionEq]

def KeepsLastResult (generator : LoadGenerator) (event : ReadyHandle.Event) : Prop :=
  match generator.position with
  | .started handle => handle.KeepsLastResult event
  | _ => True

/-- Every step of the load test has kept the last result. -/
def HasKept (generator : LoadGenerator) : Prop :=
  ∀ handle, generator.position = .started handle →
    ReadyHandle.machine.ReachableBy ReadyHandle.KeepsLastResult handle

theorem HasKept.step {generator next : LoadGenerator} {event : Event} (kept : generator.HasKept)
    (keeps : ∀ move, event = .run move → generator.KeepsLastResult move)
    (stepped : generator.step event = some next) : next.HasKept := by
  intro handle positionEq
  cases testStep_of_step stepped with
  | same same => exact kept handle (same ▸ positionEq)
  | waits _ after => exact absurd positionEq (after handle)
  | @begins started _ startedEq initial =>
      rw [startedEq] at positionEq
      cases positionEq
      exact .start initial
  | @moves move before after eventEq beforeEq moved afterEq =>
      rw [afterEq] at positionEq
      cases positionEq
      have permitted := keeps move eventEq
      unfold KeepsLastResult at permitted
      rw [beforeEq] at permitted
      exact (kept before beforeEq).step permitted moved

end LoadGenerator

namespace LoadTestRunner

/-- No generator loses the result of the last transaction in flight. -/
def KeepsLastResults (runner : LoadTestRunner) : Event → Prop
  | .generator index (.run event) =>
      ∀ generator ∈ runner.ends[index]?, generator.KeepsLastResult event
  | _ => True

theorem hasKept_of_reachable {runner : LoadTestRunner}
    (reachable : machine.ReachableBy KeepsLastResults runner) :
    ∀ generator ∈ runner.ends, generator.HasKept := by
  induction reachable with
  | start initial =>
      rcases initial with ⟨config, -, -, rfl⟩
      intro generator member handle positionEq
      rw [eq_new_of_mem_ends member] at positionEq
      cases positionEq
  | step _ permitted stepped kept =>
      intro generator member
      cases endsStep_of_step stepped with
      | same endsEq =>
          rw [endsEq] at member
          exact kept generator member
      | arrived found endsEq =>
          rw [endsEq] at member
          rcases List.mem_or_eq_of_mem_set member with old | rfl
          · exact kept generator old
          · have own := kept _ (List.mem_of_getElem? found)
            exact own
      | moved eventEq found moved endsEq =>
          rw [endsEq] at member
          rcases List.mem_or_eq_of_mem_set member with old | rfl
          · exact kept generator old
          · refine (kept _ (List.mem_of_getElem? found)).step ?_ moved
            rintro move rfl
            subst eventEq
            exact permitted _ found

/-- When is a transaction counted against the run: it is one of the load phase, or its
result is logged after the reports of warmup and pause. -/
def CountsAt (config : LoadTestConfig) (entry : ReadyHandle.Logged) : Prop :=
  entry.result.isDropped ∧ (entry.task.phase = .load ∨
    config.warmup.duration.toNat + config.warmup.pause.toNat ≤ entry.reportsBefore)

theorem phaseOf_eq_load {warmupDuration warmupPause : UInt32} {index : Nat} :
    phaseOf warmupDuration warmupPause index = .load ↔
      warmupDuration.toNat + warmupPause.toNat ≤ index := by
  change (if index < warmupDuration.toNat then Phase.warmup
    else if index < warmupDuration.toNat + warmupPause.toNat then .pause else .load) = .load ↔ _
  split
  · simp only [reduceCtorEq, false_iff]
    omega
  · split
    · simp only [reduceCtorEq, false_iff]
      omega
    · simp only [true_iff]
      omega

/-- A dropped transaction of a merged report is one of a report of some generator. -/
theorem exists_dropped_iff {links : List Link} {index : Nat} {merged : IntervalReport}
    (isMerge : IntervalReport.IsMerge (reportsAt links index) merged) :
    (∃ result ∈ merged.results, result.isDropped) ↔
      ∃ link ∈ links, ∃ original, link.generator.reported[index]? = some original ∧
        ∃ result ∈ original.results, result.isDropped := by
  constructor
  · rintro ⟨result, member, dropped⟩
    rcases List.mem_flatMap.mp (isMerge.results.mem_iff.mp member) with
      ⟨report, reportMem, inReport⟩
    rcases List.mem_filterMap.mp reportMem with ⟨link, linkMem, reported⟩
    rcases Option.map_eq_some_iff.mp reported with ⟨original, found, rfl⟩
    rw [IntervalReport.results_seen] at inReport
    rcases List.mem_map.mp inReport with ⟨own, ownMem, rfl⟩
    rw [TransactionResult.isDropped_seen] at dropped
    exact ⟨link, linkMem, original, found, own, ownMem, dropped⟩
  · rintro ⟨link, linkMem, original, found, result, member, dropped⟩
    refine ⟨TransactionResult.codec.seen result, isMerge.results.mem_iff.mpr ?_, ?_⟩
    · apply List.mem_flatMap.mpr
      refine ⟨IntervalReport.codec.seen original, List.mem_filterMap.mpr ⟨link, linkMem, ?_⟩, ?_⟩
      · rw [Link.report, found]
        rfl
      · rw [IntervalReport.results_seen]
        exact List.mem_map_of_mem member
    · rw [TransactionResult.isDropped_seen]
      exact dropped

/-! ## The verdict -/

/-- What a generator whose stream has ended has logged. -/
structure Accounts (link : Link) (config : LoadTestConfig) : Prop where
  late : ∀ entry ∈ link.generator.logged, entry.task.phase = .load →
    config.warmup.duration.toNat + config.warmup.pause.toNat ≤ entry.reportsBefore
  tasks : link.generator.logged.map (·.task) ~ link.generator.dispatched
  results : ∀ index result,
    (∃ report, link.generator.reported[index]? = some report ∧ result ∈ report.results) ↔
      ∃ entry ∈ link.generator.logged, entry.reportsBefore = index ∧ entry.result = result ∧
        index < link.generator.reported.length

theorem Sound.accounts {runner : LoadTestRunner} (sound : runner.Sound) {index : Nat}
    {link : Link} (found : runner.links[index]? = some link) (ended : link.HasEnded) :
    Accounts link runner.config := by
  have linkSound := sound.links link (List.mem_of_getElem? found)
  have shared := sound.sharedBy found
  rcases LoadGenerator.exists_started (List.ne_nil_of_mem ended) with ⟨handle, positionEq⟩
  rcases linkSound.started positionEq with ⟨reachable, -, warmup⟩
  unfold Link.HasEnded at ended
  rw [LoadGenerator.updates_of_started positionEq] at ended
  have completed := ReadyHandle.completed_of_finished reachable ended
  have loggedEq := LoadGenerator.logged_of_started positionEq
  have reportedEq : link.generator.reported = handle.reports := by
    rw [LoadGenerator.reported, LoadGenerator.updates_of_started positionEq, completed.reports]
  refine ⟨?_, ?_, ?_⟩
  · have late := completed.late.logged
    rw [ReadyHandle.reportsBeforePhase, warmup, shared.duration, shared.pause] at late
    rw [loggedEq]
    exact late
  · rw [loggedEq, LoadGenerator.dispatched_of_started positionEq]
    exact completed.tasks
  · intro position result
    rw [loggedEq, reportedEq]
    exact completed.mem_results

/-- No result stays behind at a generator that keeps the last one. -/
theorem Sound.reportsBefore_lt {runner : LoadTestRunner} (sound : runner.Sound) {link : Link}
    (member : link ∈ runner.links) (kept : link.generator.HasKept) (ended : link.HasEnded) :
    ∀ entry ∈ link.generator.logged, entry.reportsBefore < link.generator.reported.length := by
  rcases LoadGenerator.exists_started (List.ne_nil_of_mem ended) with ⟨handle, positionEq⟩
  have reachable := ((sound.links link member).started positionEq).1
  unfold Link.HasEnded at ended
  rw [LoadGenerator.updates_of_started positionEq] at ended
  rw [LoadGenerator.logged_of_started positionEq, LoadGenerator.reported,
    LoadGenerator.updates_of_started positionEq,
    (ReadyHandle.completed_of_finished reachable ended).reports]
  exact ReadyHandle.reportsBefore_lt_of_keepsLastResult (kept handle positionEq) ended

/-- A run that succeeds is invalid if and only if some generator has reported a dropped
transaction that counts.  All transactions have ended then, and only where the last one
in flight ends too late can a result be missing from the reports. -/
theorem invalid_iff_countsAt {runner : LoadTestRunner} {metadata : RunMetadata}
    (reachable : machine.Reachable runner) (succeeded : runner.program = .succeeded metadata) :
    (metadata.valid = false ↔
      ∃ link ∈ runner.links, ∃ entry ∈ link.generator.logged,
        CountsAt runner.config entry ∧
          entry.reportsBefore < link.generator.reported.length) ∧
    (∀ link ∈ runner.links,
      link.generator.logged.map (·.task) ~ link.generator.dispatched) ∧
    (machine.ReachableBy KeepsLastResults runner →
      ∀ link ∈ runner.links, ∀ entry ∈ link.generator.logged,
        entry.reportsBefore < link.generator.reported.length) := by
  have sound := sound_of_reachable reachable
  have collected := collected_of_reachable reachable
  have program := collected.program
  rw [succeeded] at program
  rcases program with ⟨validEq, gone⟩
  have accounts : ∀ link ∈ runner.links, Accounts link runner.config := by
    intro link member
    rcases List.mem_iff_getElem?.mp member with ⟨index, found⟩
    exact sound.accounts found (gone link member).ended
  refine ⟨?_, fun link member => (accounts link member).tasks, fun keeps link member => ?_⟩
  · rw [validEq, collected.summary, DropSummary.isValid_recordAll]
    constructor
    · rintro ⟨index, merged, mergedAt, phaseEq, dropped⟩
      rcases (exists_dropped_iff (collected.rounds index merged mergedAt)).mp dropped with
        ⟨link, member, report, found, result, inReport, isDropped⟩
      rcases ((accounts link member).results index result).mp ⟨report, found, inReport⟩ with
        ⟨entry, logged, rfl, rfl, bound⟩
      exact ⟨link, member, entry, logged, ⟨isDropped, .inr (phaseOf_eq_load.mp phaseEq)⟩, bound⟩
    · rintro ⟨link, member, entry, logged, ⟨isDropped, counts⟩, bound⟩
      have late : runner.config.warmup.duration.toNat + runner.config.warmup.pause.toNat ≤
          entry.reportsBefore := by
        rcases counts with load | late
        · exact (accounts link member).late entry logged load
        · exact late
      have mergedAt := List.getElem?_eq_getElem (bound.trans_le (gone link member).short)
      rcases ((accounts link member).results _ entry.result).mpr ⟨entry, logged, rfl, rfl, bound⟩
        with ⟨report, found, inReport⟩
      exact ⟨_, _, mergedAt, phaseOf_eq_load.mpr late,
        (exists_dropped_iff (collected.rounds _ _ mergedAt)).mpr
          ⟨link, member, report, found, entry.result, inReport, isDropped⟩⟩
  · exact sound.reportsBefore_lt member
      (hasKept_of_reachable keeps _ (List.mem_map_of_mem member)) (gone link member).ended

instance (generator : LoadGenerator) (event : ReadyHandle.Event) :
    Decidable (generator.KeepsLastResult event) :=
  match position : generator.position with
  | .started handle => decidable_of_iff (handle.KeepsLastResult event)
      (by rw [LoadGenerator.KeepsLastResult, position])
  | .waitForConfig | .setUp _ | .sendAborted | .sendSetupFailed _ | .sendReady ..
  | .waitForCommand _ | .failed _ =>
      isTrue (by rw [LoadGenerator.KeepsLastResult, position]; trivial)

instance (runner : LoadTestRunner) (event : Event) : Decidable (KeepsLastResults runner event) :=
  match event with
  | .generator _ (.run _) => inferInstanceAs (Decidable (∀ _ ∈ _, _))
  | .generator _ (.arrive _) | .generator _ (.receive _) | .generator _ .disconnect
  | .generator _ (.setUp _) | .generator _ .send | .generator _ .sendFails
  | .task .. | .commandTask .. | .deliver _ | .run _ => inferInstanceAs (Decidable True)

/-! A transaction of the warmup ends five milliseconds after the pause. -/

section Straggler

private def stragglerConfig : LoadTestConfig :=
  { twoGenerators with profile := ⟨[⟨Binary64.ofNat 1, 1⟩]⟩, warmup := ⟨1, 1, 0⟩ }

/-- The only transaction is dispatched at the end of the warmup. -/
private def stragglerTest : List ReadyHandle.Event :=
  [.report, .pace [995000000], .tick 995000000, .pace [], .pace [], .pace [995000000],
    .pace [], .pace [], .report, .tick 5000000, .report, .report, .report, .report, .report,
    .pace [2000000000], .pace [2000000000], .report, .pace [2000000000], .tick 5000000,
    .complete 0 (.dropped none .noVirtualUser) 1005000000, .tick 995000000, .report, .report,
    .report]

private def otherTest : List ReadyHandle.Event :=
  quietPhase ++ [.report] ++ quietPhase ++ finishes

private def stragglerRun : List Event :=
  untilReady ++ starts 0 ++ starts 1 ++
    (stragglerTest ++ finishes).map (fun event => .generator 0 (.run event)) ++
    otherTest.map (fun event => .generator 1 (.run event)) ++
    List.replicate 16 (.run .proceeds)

private def isInvalid : Program → Bool
  | .succeeded metadata => !metadata.valid
  | _ => false

private theorem exists_invalid {program : Program} (invalid : isInvalid program) :
    ∃ metadata, program = .succeeded metadata ∧ metadata.valid = false := by
  unfold isInvalid at invalid
  split at invalid
  · exact ⟨_, rfl, by simpa using invalid⟩
  · cases invalid

private theorem stragglerConfig_initial : machine.initial (new stragglerConfig) :=
  ⟨stragglerConfig, by decide, by decide, rfl⟩

theorem invalid_iff_countsAt_straggler : ∃ runner metadata,
    machine.ReachableBy KeepsLastResults runner ∧ runner.program = .succeeded metadata ∧
      metadata.valid = false ∧
      (∃ link ∈ runner.links, ∃ entry ∈ link.generator.logged,
        CountsAt runner.config entry ∧
          entry.reportsBefore < link.generator.reported.length) ∧
      ∀ link ∈ runner.links, ∀ entry ∈ link.generator.logged,
        entry.reportsBefore < link.generator.reported.length := by
  rcases machine.exists_reachableBy_of_exec
    (fun runner event => of_decide_eq_true (p := KeepsLastResults runner event))
    stragglerConfig_initial stragglerRun (fun runner => isInvalid runner.program)
    (by decide +kernel) with ⟨runner, reachable, checked⟩
  rcases exists_invalid checked with ⟨metadata, succeeded, invalid⟩
  have settled := invalid_iff_countsAt reachable.reachable succeeded
  exact ⟨runner, metadata, reachable, succeeded, invalid, settled.1.mp invalid,
    settled.2.2 reachable⟩

/-- The run is invalid, although no transaction of the load phase was dropped. -/
theorem straggler_invalidates :
    ¬ ∀ runner metadata, machine.Reachable runner → runner.program = .succeeded metadata →
      (metadata.valid = false ↔
        ∃ link ∈ runner.links, ∃ entry ∈ link.generator.logged,
          entry.task.phase = .load ∧ entry.result.isDropped) := by
  intro always
  rcases machine.exists_reachable_of_exec stragglerConfig_initial stragglerRun
    (fun runner => isInvalid runner.program && decide (∀ link ∈ runner.links,
      ∀ entry ∈ link.generator.logged, ¬ (entry.task.phase = .load ∧ entry.result.isDropped)))
    (by decide +kernel) with ⟨runner, reachable, checked⟩
  rcases Bool.and_eq_true_iff.mp checked with ⟨isInvalid, noneDropped⟩
  rcases exists_invalid isInvalid with ⟨metadata, succeeded, invalid⟩
  rcases (always runner metadata reachable succeeded).mp invalid with
    ⟨link, member, entry, logged, dropped⟩
  exact of_decide_eq_true noneDropped link member entry logged dropped

end Straggler

end LoadTestRunner

end CreoBench
