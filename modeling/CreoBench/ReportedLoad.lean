import CreoBench.CollectRounds

/-!
# Configured load and reported load

The load of a profile is split over the generators, scheduled, reported by each of
them and added up again by the orchestrator, where the phase of a round is only a
count.  Round by round, what is reported is what was configured.
-/

open scoped List

namespace CreoBench

namespace LoadTestConfig

/-- The number of rounds at fixed times. -/
def scheduledRounds (config : LoadTestConfig) : Nat :=
  config.warmup.duration.toNat + config.warmup.pause.toNat + config.profile.steps.length

/-- The configured load of a round. -/
def loadLevelAt (config : LoadTestConfig) (index : Nat) : UInt32 :=
  if index < config.warmup.duration.toNat then config.warmup.rate
  else if index < config.warmup.duration.toNat + config.warmup.pause.toNat then 0
  else
    (config.profile.steps[index - (config.warmup.duration.toNat + config.warmup.pause.toNat)]?.map
      (·.count)).getD 0

/-- The configured target time of a round. -/
structure TargetTimeAt (config : LoadTestConfig) (index : Nat) (time : RelativeLoadTestTime) :
    Prop where
  warmup : index < config.warmup.duration.toNat → time = ⟨Duration.fromSecs (index + 1)⟩
  pause : config.warmup.duration.toNat ≤ index →
    index < config.warmup.duration.toNat + config.warmup.pause.toNat →
      time = ⟨Duration.fromSecs (index - config.warmup.duration.toNat + 1)⟩
  load : ∀ step, config.warmup.duration.toNat + config.warmup.pause.toNat ≤ index →
    config.profile.steps[index -
        (config.warmup.duration.toNat + config.warmup.pause.toNat)]? = some step →
      ∃ deadline, Duration.fromSecsF64 step.deadline = some deadline ∧
        time = RelativeLoadTestTime.codec.seen ⟨deadline⟩

/-- The target time of a round at a fixed time is fixed. -/
theorem TargetTimeAt.unique {config : LoadTestConfig} {index : Nat}
    {time other : RelativeLoadTestTime} (first : config.TargetTimeAt index time)
    (second : config.TargetTimeAt index other) (scheduled : index < config.scheduledRounds) :
    time = other := by
  rcases Nat.lt_or_ge index config.warmup.duration.toNat with warmup | afterWarmup
  · rw [first.warmup warmup, second.warmup warmup]
  rcases Nat.lt_or_ge index
    (config.warmup.duration.toNat + config.warmup.pause.toNat) with pause | afterPause
  · rw [first.pause afterWarmup pause, second.pause afterWarmup pause]
  · have bound : index - (config.warmup.duration.toNat + config.warmup.pause.toNat) <
        config.profile.steps.length := by
      unfold scheduledRounds at scheduled
      omega
    have found := List.getElem?_eq_getElem bound
    rcases first.load _ afterPause found with ⟨deadline, converted, rfl⟩
    rcases second.load _ afterPause found with ⟨deadline', converted', rfl⟩
    rw [converted] at converted'
    cases converted'
    rfl

/-- What the merged report of a round says, and its phase. -/
structure Row (config : LoadTestConfig) (index : Nat) (report : IntervalReport)
    (phase : Phase) : Prop where
  warmup : index < config.warmup.duration.toNat →
    report.targetTime = ⟨Duration.fromSecs (index + 1)⟩ ∧
      report.loadLevel = config.warmup.rate ∧ phase = .warmup
  pause : config.warmup.duration.toNat ≤ index →
    index < config.warmup.duration.toNat + config.warmup.pause.toNat →
      report.targetTime =
          ⟨Duration.fromSecs (index - config.warmup.duration.toNat + 1)⟩ ∧
        report.loadLevel = 0 ∧ report.finalBatchTime = none ∧ phase = .pause
  load : ∀ step, config.warmup.duration.toNat + config.warmup.pause.toNat ≤ index →
    config.profile.steps[index -
        (config.warmup.duration.toNat + config.warmup.pause.toNat)]? = some step →
      (∃ deadline, Duration.fromSecsF64 step.deadline = some deadline ∧
        report.targetTime = RelativeLoadTestTime.codec.seen ⟨deadline⟩) ∧
          report.loadLevel = step.count ∧ phase = .load
  drain : config.scheduledRounds ≤ index →
    report.loadLevel = 0 ∧ report.finalBatchTime = none ∧ phase = .load

/-- The share of a generator in the configuration. -/
structure SharedBy (config : LoadTestConfig) (index : Nat) (own : LoadGeneratorConfig) :
    Prop where
  duration : own.warmup.duration = config.warmup.duration
  pause : own.warmup.pause = config.warmup.pause
  rate : own.warmup.rate =
    (distributeCount config.warmup.rate config.generators.length).getD index 0
  steps : own.profile.steps = config.profile.steps.map fun step =>
    ⟨⟨step.deadline⟩, (distributeCount step.count config.generators.length).getD index 0⟩

theorem sharedBy_of_split {config : LoadTestConfig} {index : Nat} {own : LoadGeneratorConfig}
    (found : config.split[index]? = some own) : config.SharedBy index own := by
  have within : index < config.generators.length := by
    rw [← LoadTestRunner.length_split]
    exact (List.getElem?_eq_some_iff.mp found).1
  unfold split at found
  simp only [List.getElem?_map, List.getElem?_zip_eq_some, Option.map_eq_some_iff,
    Prod.exists] at found
  rcases found with ⟨id, profile, warmup, ⟨-, profileAt, warmupAt⟩, rfl⟩
  rw [distributeProfile_getElem? _ within] at profileAt
  rw [distributeWarmup_getElem? _ within] at warmupAt
  cases profileAt
  cases warmupAt
  refine ⟨rfl, rfl, rfl, ?_⟩
  simp [LoadProfile.ofConfig, LoadStepConfig.shareOf]

theorem loadLevelAt_warmup {config : LoadTestConfig} {index : Nat}
    (warmup : index < config.warmup.duration.toNat) :
    config.loadLevelAt index = config.warmup.rate :=
  if_pos warmup

theorem loadLevelAt_pause {config : LoadTestConfig} {index : Nat}
    (late : config.warmup.duration.toNat ≤ index)
    (pause : index < config.warmup.duration.toNat + config.warmup.pause.toNat) :
    config.loadLevelAt index = 0 := by
  rw [loadLevelAt, if_neg (by omega), if_pos pause]

theorem loadLevelAt_load {config : LoadTestConfig} {index : Nat} {step : LoadStepConfig}
    (late : config.warmup.duration.toNat + config.warmup.pause.toNat ≤ index)
    (stepAt : config.profile.steps[index -
      (config.warmup.duration.toNat + config.warmup.pause.toNat)]? = some step) :
    config.loadLevelAt index = step.count := by
  rw [loadLevelAt, if_neg (by omega), if_neg (by omega), stepAt]
  rfl

theorem loadLevelAt_drain {config : LoadTestConfig} {index : Nat}
    (drained : config.scheduledRounds ≤ index) : config.loadLevelAt index = 0 := by
  unfold scheduledRounds at drained
  rw [loadLevelAt, if_neg (by omega), if_neg (by omega), List.getElem?_eq_none (by omega)]
  rfl

end LoadTestConfig

theorem distributeCount_zero_getD (divisor index : Nat) :
    (distributeCount 0 divisor).getD index 0 = 0 := by
  have allZero : ∀ share ∈ distributeCount 0 divisor, share = 0 := by
    intro share member
    simp only [distributeCount, List.mem_map] at member
    rcases member with ⟨position, -, rfl⟩
    simp
  cases found : (distributeCount 0 divisor)[index]? with
  | none => rw [List.getD_eq_getElem?_getD, found]; rfl
  | some share =>
      rw [List.getD_eq_getElem?_getD, found]
      exact allZero share (List.mem_of_getElem? found)

namespace LoadTestRunner

/-! ## One generator -/

/-- The link at a position runs with its share of the configuration. -/
theorem Sound.sharedBy {runner : LoadTestRunner} (sound : runner.Sound) {index : Nat}
    {link : Link} (found : runner.links[index]? = some link) :
    runner.config.SharedBy index link.config := by
  apply LoadTestConfig.sharedBy_of_split
  rw [← sound.configs, List.getElem?_map, found]
  rfl

theorem Sound.length_links {runner : LoadTestRunner} (sound : runner.Sound) :
    runner.links.length = runner.config.generators.length := by
  rw [← length_split, ← sound.configs, List.length_map]

theorem Sound.scheduledReports {runner : LoadTestRunner} (sound : runner.Sound) {index : Nat}
    {link : Link} (found : runner.links[index]? = some link) :
    link.scheduledReports = runner.config.scheduledRounds := by
  have shared := sound.sharedBy found
  rw [Link.scheduledReports, LoadTestConfig.scheduledRounds, shared.duration, shared.pause,
    shared.steps, List.length_map]

/-- What the report of one generator says about time and load. -/
theorem Sound.reportAt {runner : LoadTestRunner} (sound : runner.Sound) {generator index : Nat}
    {link : Link} {report : IntervalReport} (found : runner.links[generator]? = some link)
    (reported : link.report index = some report) :
    runner.config.TargetTimeAt index report.targetTime ∧
      report.loadLevel = (distributeCount (runner.config.loadLevelAt index)
        runner.config.generators.length).getD generator 0 ∧
      (runner.config.warmup.duration.toNat ≤ index →
        index < runner.config.warmup.duration.toNat + runner.config.warmup.pause.toNat ∨
          runner.config.scheduledRounds ≤ index → report.finalBatchTime = none) := by
  have shared := sound.sharedBy found
  have linkSound := sound.links link (List.mem_of_getElem? found)
  rcases linkSound.row reported with ⟨handle, original, positionEq, -, row, rfl⟩
  rcases linkSound.started positionEq with ⟨-, profileEq, warmupEq⟩
  have before : handle.reportsBeforePhase .load =
      runner.config.warmup.duration.toNat + runner.config.warmup.pause.toNat := by
    rw [ReadyHandle.reportsBeforePhase, warmupEq, shared.duration, shared.pause]
  have scheduled : handle.scheduledReports = runner.config.scheduledRounds := by
    rw [linkSound.scheduledReports_started positionEq, sound.scheduledReports found]
  have onWarmup := row.warmup
  have onPause := row.pause
  have onLoad := row.load
  have onDrain := row.drain
  rw [warmupEq, shared.duration] at onWarmup
  rw [warmupEq, shared.duration, shared.pause] at onPause
  rw [before, profileEq, shared.steps] at onLoad
  rw [scheduled] at onDrain
  have small := runner.config.warmup.duration.toNat_lt
  have smallPause := runner.config.warmup.pause.toNat_lt
  have atStep : ∀ step, runner.config.warmup.duration.toNat +
      runner.config.warmup.pause.toNat ≤ index →
      runner.config.profile.steps[index - (runner.config.warmup.duration.toNat +
        runner.config.warmup.pause.toNat)]? = some step →
      Duration.fromSecsF64 step.deadline = some original.targetTime.duration ∧
        original.loadLevel =
          (distributeCount step.count runner.config.generators.length).getD generator 0 := by
    intro step late stepAt
    exact onLoad _ late (by rw [List.getElem?_map, stepAt]; rfl)
  refine ⟨⟨?_, ?_, ?_⟩, ?_, ?_⟩
  · intro warmup
    change RelativeLoadTestTime.codec.seen original.targetTime = _
    rw [(onWarmup warmup).1]
    exact RelativeLoadTestTime.seen_fromSecs (by omega)
  · intro late pause
    change RelativeLoadTestTime.codec.seen original.targetTime = _
    rw [(onPause late pause).1]
    exact RelativeLoadTestTime.seen_fromSecs (by omega)
  · intro step late stepAt
    exact ⟨original.targetTime.duration, (atStep step late stepAt).1, rfl⟩
  · rw [IntervalReport.loadLevel_seen]
    by_cases warmup : index < runner.config.warmup.duration.toNat
    · rw [(onWarmup warmup).2, shared.rate, LoadTestConfig.loadLevelAt_warmup warmup]
    by_cases pause : index <
        runner.config.warmup.duration.toNat + runner.config.warmup.pause.toNat
    · rw [(onPause (by omega) pause).2.1, LoadTestConfig.loadLevelAt_pause (by omega) pause,
        distributeCount_zero_getD]
    cases stepAt : runner.config.profile.steps[index -
        (runner.config.warmup.duration.toNat + runner.config.warmup.pause.toNat)]? with
    | some step =>
        rw [(atStep step (by omega) stepAt).2,
          LoadTestConfig.loadLevelAt_load (by omega) stepAt]
    | none =>
        have past := List.getElem?_eq_none_iff.mp stepAt
        have drained : runner.config.scheduledRounds ≤ index := by
          unfold LoadTestConfig.scheduledRounds
          omega
        rw [(onDrain drained).2.1, LoadTestConfig.loadLevelAt_drain drained,
          distributeCount_zero_getD]
  · intro late flat
    apply IntervalReport.finalBatchTime_seen
    rcases flat with pause | drained
    · exact (onPause late pause).2.2
    · exact (onDrain drained).2.2

/-! ## All generators -/

variable {runner : LoadTestRunner}

/-- Every generator has a report for every round at a fixed time. -/
theorem Sound.exists_report (sound : runner.Sound) {generator index : Nat} {link : Link}
    (found : runner.links[generator]? = some link) (settled : link.Settled (index + 1))
    (scheduled : index < runner.config.scheduledRounds) :
    ∃ report, link.report index = some report := by
  apply Option.isSome_iff_exists.mp
  rw [Link.report_isSome]
  rcases settled with long | ended
  · exact long
  · have linkSound := sound.links link (List.mem_of_getElem? found)
    have long := linkSound.scheduled_of_hasEnded ended
    rw [sound.scheduledReports found] at long
    exact scheduled.trans_le long

theorem mem_reportsAt {links : List Link} {index : Nat} {report : IntervalReport} :
    report ∈ reportsAt links index ↔
      ∃ (generator : Nat) (link : Link), links[generator]? = some link ∧
        link.report index = some report := by
  rw [reportsAt, List.mem_filterMap]
  constructor
  · rintro ⟨link, member, reported⟩
    rcases List.mem_iff_getElem?.mp member with ⟨generator, found⟩
    exact ⟨generator, link, found, reported⟩
  · rintro ⟨generator, link, found, reported⟩
    exact ⟨link, List.mem_of_getElem? found, reported⟩

/-- The load levels of a round add up to the configured load, without overflow. -/
theorem sum_loadLevels (sound : runner.Sound) (collected : runner.Collected) {index : Nat}
    (settled : ∀ link ∈ runner.links, link.Settled (index + 1)) :
    ((reportsAt runner.links index).map (·.loadLevel.toNat)).sum =
      (runner.config.loadLevelAt index).toNat := by
  have sizeEq := sound.length_links
  have size := collected.size
  rcases Nat.lt_or_ge index runner.config.scheduledRounds with scheduled | drained
  · have levels : (reportsAt runner.links index).map (·.loadLevel) =
        distributeCount (runner.config.loadLevelAt index)
          runner.config.generators.length := by
      apply List.map_filterMap_eq
      · rw [length_distributeCount, sizeEq]
      · intro generator link share found shareAt
        rcases sound.exists_report found (settled link (List.mem_of_getElem? found)) scheduled
          with ⟨report, reported⟩
        refine ⟨report, reported, ?_⟩
        rw [(sound.reportAt found reported).2.1, List.getD_eq_getElem?_getD, shareAt]
        rfl
    have sums := congrArg (fun levels => (levels.map UInt32.toNat).sum) levels
    rw [List.map_map] at sums
    exact sums.trans (sum_distributeCount (by omega) (by omega))
  · have noLoad := LoadTestConfig.loadLevelAt_drain drained
    rw [noLoad]
    apply List.sum_eq_zero
    intro level member
    rcases List.mem_map.mp member with ⟨report, reportMem, rfl⟩
    rcases mem_reportsAt.mp reportMem with ⟨generator, link, found, reported⟩
    rw [(sound.reportAt found reported).2.1, noLoad, distributeCount_zero_getD]
    rfl

/-- No two reports of a round at a fixed time disagree. -/
theorem Sound.not_differ (sound : runner.Sound) {index : Nat}
    (scheduled : index < runner.config.scheduledRounds) : ¬ Differ runner.links index := by
  rintro ⟨first, firstMem, second, secondMem, report, other, firstAt, secondAt, different⟩
  rcases List.mem_iff_getElem?.mp firstMem with ⟨firstIndex, firstFound⟩
  rcases List.mem_iff_getElem?.mp secondMem with ⟨secondIndex, secondFound⟩
  exact different ((sound.reportAt firstFound firstAt).1.unique
    (sound.reportAt secondFound secondAt).1 scheduled)

/-- The target time of a merged report is that of its round. -/
theorem targetTimeAt_of_isMerge (sound : runner.Sound) (collected : runner.Collected)
    {index : Nat} {report : IntervalReport}
    (isMerge : IntervalReport.IsMerge (reportsAt runner.links index) report)
    (settled : ∀ link ∈ runner.links, link.Settled (index + 1))
    (scheduled : index < runner.config.scheduledRounds) :
    runner.config.TargetTimeAt index report.targetTime := by
  have found := List.getElem?_eq_getElem collected.size.1
  rcases sound.exists_report found (settled _ (List.mem_of_getElem? found)) scheduled with
    ⟨own, reported⟩
  rw [← isMerge.targetTime own (mem_reportsAt.mpr ⟨0, _, found, reported⟩)]
  exact (sound.reportAt found reported).1

theorem loadLevel_of_isMerge (sound : runner.Sound) (collected : runner.Collected)
    {index : Nat} {report : IntervalReport}
    (isMerge : IntervalReport.IsMerge (reportsAt runner.links index) report)
    (settled : ∀ link ∈ runner.links, link.Settled (index + 1)) :
    report.loadLevel = runner.config.loadLevelAt index := by
  have sum := sum_loadLevels sound collected settled
  apply UInt32.toNat_inj.mp
  rw [isMerge.loadLevel_toNat (by rw [sum]; exact UInt32.toNat_lt _), sum]

/-- Without load no batch was dispatched. -/
theorem finalBatchTime_of_isMerge (sound : runner.Sound) {index : Nat}
    {report : IntervalReport}
    (isMerge : IntervalReport.IsMerge (reportsAt runner.links index) report)
    (late : runner.config.warmup.duration.toNat ≤ index)
    (flat : index < runner.config.warmup.duration.toNat + runner.config.warmup.pause.toNat ∨
      runner.config.scheduledRounds ≤ index) : report.finalBatchTime = none := by
  have none : (reportsAt runner.links index).filterMap (·.finalBatchTime) = [] := by
    rw [List.filterMap_eq_nil_iff]
    intro own member
    rcases mem_reportsAt.mp member with ⟨generator, link, found, reported⟩
    exact (sound.reportAt found reported).2.2 late flat
  rw [isMerge.finalBatchTime, none]
  rfl

/-- The merged reports with the phases that `classify` gives them one after the other. -/
def label (classifier : PhaseClassifier) :
    List IntervalReport → List (IntervalReport × Phase)
  | [] => []
  | report :: reports => (report, classifier.classify.1) :: label classifier.classify.2 reports

theorem label_getElem? (classifier : PhaseClassifier) (reports : List IntervalReport)
    (index : Nat) : (label classifier reports)[index]? = reports[index]?.map fun report =>
      (report, { classifier with count := classifier.count + index }.phase) := by
  induction reports generalizing classifier index with
  | nil => rfl
  | cons report reports ih =>
      cases index with
      | zero => rfl
      | succ index =>
          rw [label, List.getElem?_cons_succ, ih, List.getElem?_cons_succ]
          simp only [PhaseClassifier.classify, Nat.add_assoc, Nat.add_comm 1 index]

/-- The rows of a run. -/
def rows (runner : LoadTestRunner) : List (IntervalReport × Phase) :=
  label (.new runner.config.warmup.duration runner.config.warmup.pause) runner.merged

theorem row_of_collected (sound : runner.Sound) (collected : runner.Collected) {index : Nat}
    {report : IntervalReport} {phase : Phase}
    (row : runner.rows[index]? = some (report, phase)) :
    runner.config.Row index report phase := by
  rw [rows, label_getElem?] at row
  rcases Option.map_eq_some_iff.mp row with ⟨merged, mergedAt, same⟩
  cases same
  have isMerge := collected.rounds index report mergedAt
  have bound := (List.getElem?_eq_some_iff.mp mergedAt).1
  have settled : ∀ link ∈ runner.links, link.Settled (index + 1) := fun link member =>
    (collected.settled link member).imp (fun long => Nat.le_trans bound long) id
  have level := loadLevel_of_isMerge sound collected isMerge settled
  have target := targetTimeAt_of_isMerge sound collected isMerge settled
  have flat := finalBatchTime_of_isMerge sound isMerge
  simp only [PhaseClassifier.phase, PhaseClassifier.new, Nat.zero_add]
  refine ⟨fun warmup => ?_, fun late pause => ?_, fun step late stepAt => ?_, fun drained => ?_⟩
  · have scheduled : index < runner.config.scheduledRounds := by
      unfold LoadTestConfig.scheduledRounds
      omega
    exact ⟨(target scheduled).warmup warmup,
      level.trans (LoadTestConfig.loadLevelAt_warmup warmup), if_pos warmup⟩
  · have scheduled : index < runner.config.scheduledRounds := by
      unfold LoadTestConfig.scheduledRounds
      omega
    refine ⟨(target scheduled).pause late pause,
      level.trans (LoadTestConfig.loadLevelAt_pause late pause), flat late (.inl pause), ?_⟩
    rw [if_neg (by omega), if_pos pause]
  · have within := (List.getElem?_eq_some_iff.mp stepAt).1
    have scheduled : index < runner.config.scheduledRounds := by
      unfold LoadTestConfig.scheduledRounds
      omega
    refine ⟨(target scheduled).load step late stepAt,
      level.trans (LoadTestConfig.loadLevelAt_load late stepAt), ?_⟩
    rw [if_neg (by omega), if_neg (by omega)]
  · have late := drained
    unfold LoadTestConfig.scheduledRounds at late
    refine ⟨level.trans (LoadTestConfig.loadLevelAt_drain drained),
      flat (by omega) (.inr drained), ?_⟩
    rw [if_neg (by omega), if_neg (by omega)]

/-- Every row of every run is the one that the configuration calls for; the load levels
of a complete round add up without overflow; and whether a run ends with a mismatch of
target times or succeeds, all rounds at fixed times have been merged before. -/
theorem configured_load_reported {runner : LoadTestRunner}
    (reachable : machine.Reachable runner) :
    (∀ index report phase, runner.rows[index]? = some (report, phase) →
      runner.config.Row index report phase) ∧
    (∀ handles index roundReports, runner.program = .collect handles index roundReports →
      handles[index]? = none → (roundReports.map (·.loadLevel.toNat)).sum < 2 ^ 32) ∧
    (∀ address expected actual,
      runner.program = .failed (.collect (.timeMismatch address expected actual)) →
        runner.config.scheduledRounds ≤ runner.merged.length) ∧
    (∀ metadata, runner.program = .succeeded metadata →
      runner.config.scheduledRounds ≤ runner.merged.length) := by
  have sound := sound_of_reachable reachable
  have collected := collected_of_reachable reachable
  have program := collected.program
  refine ⟨fun index report phase => row_of_collected sound collected, ?_, ?_, ?_⟩
  · intro handles index roundReports programEq ended
    have names := sound.names
    rw [programEq] at names
    have round := collected.roundEnd programEq ended
    have gone := (collected.turns programEq).2
    have perm := round.perm names.1 names.2.1 gone
    rw [(perm.map _).sum_eq, sum_loadLevels sound collected (round.settled gone)]
    exact UInt32.toNat_lt _
  · intro address expected actual programEq
    rw [programEq] at program
    by_contra early
    exact sound.not_differ (Nat.lt_of_not_le early) program
  · intro metadata programEq
    rw [programEq] at program
    have found := List.getElem?_eq_getElem collected.size.1
    have gone := program.2 _ (List.mem_of_getElem? found)
    have linkSound := sound.links _ (List.mem_of_getElem? found)
    have long := linkSound.scheduled_of_hasEnded gone.ended
    rw [sound.scheduledReports found] at long
    exact long.trans gone.short

/-! Two generators share a second of warmup, a second of pause and one step, and dispatch
nothing. -/

section QuietRun

def quietConfig : LoadTestConfig :=
  { twoGenerators with profile := ⟨[⟨Binary64.ofNat 1, 3⟩]⟩, warmup := ⟨5, 1, 1⟩ }

/-- All gaps between arrivals are longer than the steps. -/
def quietPhase : List ReadyHandle.Event :=
  [.report, .pace [2000000000], .pace [2000000000], .report, .pace [2000000000],
    .tick 1000000000, .report, .report, .report]

def quietPause : List ReadyHandle.Event :=
  [.tick 1000000000, .report, .report, .report]

def finishes : List ReadyHandle.Event := [.report, .report]

def quietTest (index : Nat) : List Event :=
  (quietPhase ++ quietPause ++ quietPhase ++ finishes).map fun event =>
    .generator index (.run event)

theorem configured_load_reported_quiet : ∃ runner, machine.Reachable runner ∧
    runner.rows.map (fun row => (row.1.loadLevel, row.2)) =
      [(5, .warmup), (0, .pause), (3, .load)] ∧
      ∀ index report phase, runner.rows[index]? = some (report, phase) →
        runner.config.Row index report phase := by
  have initial : machine.initial (new quietConfig) := ⟨quietConfig, by decide, by decide, rfl⟩
  rcases machine.exists_reachable_of_exec initial
    (untilReady ++ starts 0 ++ starts 1 ++ quietTest 0 ++ quietTest 1 ++
      List.replicate 20 (.run .proceeds))
    (fun runner => decide (runner.rows.map (fun row => (row.1.loadLevel, row.2)) =
      [(5, .warmup), (0, .pause), (3, .load)]))
    (by decide +kernel) with ⟨runner, reachable, checked⟩
  exact ⟨runner, reachable, of_decide_eq_true checked, (configured_load_reported reachable).1⟩

end QuietRun

end LoadTestRunner

end CreoBench
