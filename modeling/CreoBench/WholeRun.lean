import CreoBench.CsvReadBack
import CreoBench.Library.Columns
import CreoBench.PersistedOnce
import CreoBench.Verdict

/-!
# The files of a whole run

`run` has been looked at twice: together with the generators, where the writer task is
an error signal, and together with the writer task, where the merged reports come from
nowhere.  Here the two views are put together, so that what the generators did is
related to what is in the files.
-/

open scoped List

namespace CreoBench

namespace DropSummary

theorem transactions_record (drops : PhaseDrops) (results : List TransactionResult) :
    (drops.record results).transactions = drops.transactions + results.length := by
  have kept : ∀ start : PhaseDrops,
      (results.foldl PhaseDrops.recordResult start).transactions = start.transactions := by
    induction results with
    | nil => exact fun _ => rfl
    | cons result results ih =>
        intro start
        rw [List.foldl_cons, ih]
        rcases result with _ | _ | _ | ⟨_, _, _ | _ | _⟩ <;> rfl
  exact kept _

/-- Both phases together count every result of every report. -/
theorem recordAll_counts (warmupDuration warmupPause : UInt32) (reports : List IntervalReport) :
    (recordAll warmupDuration warmupPause reports).load.transactions +
        (recordAll warmupDuration warmupPause reports).warmup.transactions =
      (reports.flatMap (·.results)).length ∧
    (recordAll warmupDuration warmupPause reports).load.total +
        (recordAll warmupDuration warmupPause reports).warmup.total =
      (reports.flatMap (·.results)).countP (·.isDropped) := by
  induction reports using List.reverseRecOn with
  | nil => exact ⟨rfl, rfl⟩
  | append_singleton reports report ih =>
      rw [recordAll_append, List.flatMap_append, List.flatMap_singleton, List.length_append,
        List.countP_append, ← ih.1, ← ih.2]
      unfold record
      simp only
      split <;> simp only [transactions_record, PhaseDrops.total_record] <;> omega

theorem report_eq_none_iff {summary : DropSummary} :
    summary.report = none ↔ summary.load.total + summary.warmup.total = 0 := by
  unfold report
  split_ifs with dropped <;> simp <;> omega

theorem eq_of_mem_report {summary : DropSummary} {drops : DropReport}
    (reported : drops ∈ summary.report) : drops = ⟨summary.load, summary.warmup⟩ := by
  unfold report at reported
  split_ifs at reported <;> cases reported
  rfl

end DropSummary

open LoadTestRunner (Program)

structure WholeRun where
  runner : LoadTestRunner
  run : CollectAndPersist
  deriving DecidableEq

namespace WholeRun

/-- What the fourth phase does, seen from the writer task, when the program takes a step. -/
def companion : Program → Program → Option CollectAndPersist.Event
  | .collect .., .persist _ report => some (.merged report)
  | .collect .., .finish => some .exhausted
  | .collect .., .failed (.collect error) => some (.collectFailed error)
  -- The aborts are sent after the writer task has been joined.
  | .collect .., .abortStarted _ | .persist .., .abortStarted _ => some .join
  | .persist .., .collect .. => some .send
  | .finish, .succeeded _ => some (.writeMetadata true)
  | .finish, .failed .output => some (.writeMetadata false)
  | .finish, .failed .persist => some .join
  | _, _ => none

def errorOf : CollectAndPersist.Error → LoadTestRunner.Error
  | .collect error => .collect error
  | .persist _ => .persist
  | .output => .output

/-- Where both views see `run`. -/
def agree : Program → CollectAndPersist.Collector → Bool
  | .collect .., .selecting => true
  | .persist _ report, .sending sent => report = sent
  -- The error has been taken, and the writer task is being joined.
  | .collect .., .joining (.persistFailed _) | .persist .., .joining (.persistFailed _) => true
  | .finish, .joining .exhausted | .finish, .writingMetadata => true
  | .succeeded _, .returned (.ok ()) => true
  | .failed error, .joining (.collectFailed collectError) => error = .collect collectError
  | .abortStarted _, .returned (.error (.persist _)) => true
  | .failed error, .returned (.error known) | .exited error, .returned (.error known) =>
      error = errorOf known
  -- Without a writer task nothing has been collected.
  | .joinConnects _, .selecting | .abortConnected _, .selecting | .awaitAborted .., .selecting
  | .joinConfigures _, .selecting | .abortConfigured _, .selecting | .joinStarts _, .selecting
  | .createPersisters, .selecting | .abortStarted _, .selecting | .failed _, .selecting
  | .exited _, .selecting => true
  | _, .panicked => true
  | _, _ => false

/-- `collect_reports` is polled by the `select!` only. -/
def polled (load : WholeRun) : LoadTestRunner.Event → Bool
  | .run .proceeds | .run .fails =>
      match load.runner.program with
      | .collect .. => load.run.collector = .selecting
      | _ => true
  | _ => true

inductive Event where
  | runner (event : LoadTestRunner.Event)
  /-- A step of the writer task, or one of `run` that the generators do not notice. -/
  | run (event : CollectAndPersist.Event)

def checked (runner : LoadTestRunner) (run : CollectAndPersist) : Option WholeRun :=
  if agree runner.program run.collector then some ⟨runner, run⟩ else none

def step (texts : Texts) (load : WholeRun) : Event → Option WholeRun
  | .runner event =>
      if load.polled event then do
        let runner ← load.runner.step event
        match companion load.runner.program runner.program with
        | none => checked runner load.run
        | some own => do
            let run ← load.run.step texts own
            checked runner run
      else none
  | .run event => do
      let run ← load.run.step texts event
      checked load.runner run

/-- Any number of generators with any outcomes of the persisters. -/
def machine (texts : Texts) : Machine WholeRun Event where
  initial load := LoadTestRunner.machine.initial load.runner ∧
    load.run = .new load.runner.config.warmup.duration load.runner.config.warmup.pause
  step := step texts

/-! ## The two views of a step -/

/-- Whether the fourth phase has begun and goes on. -/
def inPhaseFour : Program → Bool
  | .collect .. | .persist .. | .finish => true
  | _ => false

theorem companion_eq_none {before after : Program} (outside : inPhaseFour before = false) :
    companion before after = none := by
  unfold companion
  split <;> first | rfl | cases outside

theorem companion_self (program : Program) : companion program program = none := by
  cases program <;> rfl

/-- Nothing has been merged, and nothing is announced. -/
structure Keeps (runner next : LoadTestRunner) : Prop where
  config : next.config = runner.config
  merged : next.merged = runner.merged
  unfinished : ∀ metadata, next.program ≠ .succeeded metadata

/-- What a step of the generators and of `run` merges and announces. -/
inductive MergeStep (runner next : LoadTestRunner) : Prop
  | quiet (keeps : Keeps runner next)
      (nothing : ∀ report, companion runner.program next.program ≠ some (.merged report))
  | link (config : next.config = runner.config) (merged : next.merged = runner.merged)
      (program : next.program = runner.program) (metadata : next.metadata = runner.metadata)
  | ended {handles : List Nat} {report : IntervalReport} (config : next.config = runner.config)
      (merged : next.merged = runner.merged ++ [report])
      (program : next.program = .persist handles report)
      (together : companion runner.program next.program = some (.merged report))
  | announced (config : next.config = runner.config) (merged : next.merged = runner.merged)
      (finish : runner.program = .finish) (program : next.program = .succeeded next.metadata)

section Runner

variable {runner next : LoadTestRunner}

theorem MergeStep.config (merges : MergeStep runner next) : next.config = runner.config := by
  cases merges with
  | quiet keeps => exact keeps.config
  | link config | ended config | announced config => exact config

theorem MergeStep.merged (merges : MergeStep runner next) :
    (next.merged = runner.merged ∧
      ∀ report, companion runner.program next.program ≠ some (.merged report)) ∨
    ∃ report, next.merged = runner.merged ++ [report] ∧
      companion runner.program next.program = some (.merged report) := by
  cases merges with
  | quiet keeps nothing => exact .inl ⟨keeps.merged, nothing⟩
  | link _ merged program =>
      refine .inl ⟨merged, fun report => ?_⟩
      rw [program, companion_self]
      exact nofun
  | @ended _ report _ merged _ together => exact .inr ⟨report, merged, together⟩
  | announced _ merged finish program =>
      refine .inl ⟨merged, fun report => ?_⟩
      rw [finish, program]
      exact nofun

theorem MergeStep.metadata {metadata : RunMetadata} (merges : MergeStep runner next)
    (succeeded : next.program = .succeeded metadata) :
    metadata = next.metadata ∨
      runner.program = .succeeded metadata ∧ next.metadata = runner.metadata := by
  cases merges with
  | quiet keeps => exact absurd succeeded (keeps.unfinished metadata)
  | link _ _ program metadataEq => exact .inr ⟨program ▸ succeeded, metadataEq⟩
  | ended _ _ program =>
      rw [program] at succeeded
      cases succeeded
  | announced _ _ _ program =>
      rw [program] at succeeded
      cases succeeded
      exact .inl rfl

theorem MergeStep.of_keeps (keeps : Keeps runner next)
    (outside : inPhaseFour runner.program = false) : MergeStep runner next :=
  .quiet keeps fun report => by
    rw [companion_eq_none outside]
    exact nofun

theorem merge_spec {handles : List Nat} {index : Nat} {roundReports : List IntervalReport}
    (programEq : runner.program = .collect handles index roundReports) :
    MergeStep runner (runner.merge handles roundReports) := by
  unfold LoadTestRunner.merge
  split
  · refine .quiet ⟨rfl, rfl, nofun⟩ fun report => ?_
    rw [programEq]
    exact nofun
  · refine .ended rfl rfl rfl ?_
    rw [programEq]
    rfl
  · refine .quiet ⟨rfl, rfl, nofun⟩ fun report => ?_
    rw [programEq]
    exact nofun

theorem mergeStep_of_collectNext {handles : List Nat} {index : Nat}
    {roundReports : List IntervalReport}
    (programEq : runner.program = .collect handles index roundReports)
    (stepped : runner.collectNext handles index roundReports = some next) :
    MergeStep runner next := by
  unfold LoadTestRunner.collectNext at stepped
  split at stepped
  · cases stepped
    exact merge_spec programEq
  · rcases Option.bind_eq_some_iff.mp stepped with ⟨link, -, rest⟩
    rcases Option.bind_eq_some_iff.mp rest with ⟨update, -, made⟩
    obtain rfl := Option.some.inj made
    cases update <;> refine .quiet ⟨rfl, rfl, nofun⟩ fun report => ?_ <;> rw [programEq] <;>
      exact nofun

theorem mergeStep_of_collectFails {handles : List Nat} {index : Nat}
    {roundReports : List IntervalReport}
    (programEq : runner.program = .collect handles index roundReports)
    (stepped : runner.collectFails handles index = some next) : MergeStep runner next := by
  rcases Option.bind_eq_some_iff.mp stepped with ⟨generator, -, rest⟩
  rcases Option.bind_eq_some_iff.mp rest with ⟨link, -, made⟩
  obtain rfl := Option.some.inj made
  refine .quiet ⟨rfl, rfl, nofun⟩ fun report => ?_
  rw [programEq]
  exact nofun

theorem keeps_joinConnect {joined : Nat} (stepped : runner.joinConnect joined = some next) :
    Keeps runner next := by
  unfold LoadTestRunner.joinConnect at stepped
  split at stepped
  · cases stepped
    unfold LoadTestRunner.allConnected
    split_ifs <;> exact ⟨rfl, rfl, nofun⟩
  · split_ifs at stepped
    cases stepped
    exact ⟨rfl, rfl, nofun⟩

theorem keeps_joinConfigure {joined : Nat} (stepped : runner.joinConfigure joined = some next) :
    Keeps runner next := by
  unfold LoadTestRunner.joinConfigure at stepped
  split at stepped
  · cases stepped
    unfold LoadTestRunner.allReady
    split_ifs <;> exact ⟨rfl, rfl, nofun⟩
  · split_ifs at stepped
    cases stepped
    exact ⟨rfl, rfl, nofun⟩

theorem keeps_joinStart {joined : Nat} (stepped : runner.joinStart joined = some next) :
    Keeps runner next := by
  unfold LoadTestRunner.joinStart at stepped
  split at stepped
  · cases stepped
    exact ⟨rfl, rfl, nofun⟩
  · split_ifs at stepped <;> cases stepped <;> exact ⟨rfl, rfl, nofun⟩

theorem keeps_abortConnected {succeeds : Bool} {index : Nat} {remaining : List Nat}
    (stepped : runner.abortConnected succeeds index remaining = some next) :
    Keeps runner next := by
  unfold LoadTestRunner.abortConnected at stepped
  split at stepped <;> cases stepped <;> exact ⟨rfl, rfl, nofun⟩

theorem keeps_awaitAborted {succeeds : Bool} {index : Nat} {remaining : List Nat}
    (stepped : runner.awaitAborted succeeds index remaining = some next) :
    Keeps runner next := by
  unfold LoadTestRunner.awaitAborted at stepped
  split at stepped
  · split_ifs at stepped
    cases stepped
    exact ⟨rfl, rfl, nofun⟩
  · cases stepped

theorem keeps_abortConfigured {succeeds : Bool} {index : Nat} {remaining : List Nat}
    (stepped : runner.abortConfigured succeeds index remaining = some next) :
    Keeps runner next := by
  unfold LoadTestRunner.abortConfigured at stepped
  split at stepped <;> cases stepped <;> exact ⟨rfl, rfl, nofun⟩

theorem keeps_abortStarted {index : Nat} {remaining : List Nat}
    (stepped : runner.abortStarted index remaining = some next) : Keeps runner next := by
  rcases Option.bind_eq_some_iff.mp stepped with ⟨link, -, rest⟩
  rcases Option.bind_eq_some_iff.mp rest with ⟨changed, -, made⟩
  obtain rfl := Option.some.inj made
  exact ⟨rfl, rfl, nofun⟩

/-- What a step of one link leaves alone. -/
theorem same_of_stepLink {index : Nat} {change : Link → Option Link}
    (stepped : runner.stepLink index change = some next) :
    next.config = runner.config ∧ next.merged = runner.merged ∧
      next.program = runner.program ∧ next.metadata = runner.metadata := by
  rcases Option.bind_eq_some_iff.mp stepped with ⟨link, -, rest⟩
  rcases Option.bind_eq_some_iff.mp rest with ⟨changed, -, made⟩
  obtain rfl := Option.some.inj made
  exact ⟨rfl, rfl, rfl, rfl⟩

theorem mergeStep_of_stepRun {event : LoadTestRunner.RunEvent}
    (stepped : runner.stepRun event = some next) : MergeStep runner next := by
  revert stepped
  fun_cases LoadTestRunner.stepRun runner event <;> intro stepped <;> try rename_i programEq
  case case16 => exact mergeStep_of_collectNext programEq stepped
  case case17 => exact mergeStep_of_collectFails programEq stepped
  case case1 => exact .of_keeps (keeps_joinConnect stepped) (by rw [programEq]; rfl)
  case case3 | case4 => exact .of_keeps (keeps_abortConnected stepped) (by rw [programEq]; rfl)
  case case5 | case6 => exact .of_keeps (keeps_awaitAborted stepped) (by rw [programEq]; rfl)
  case case7 => exact .of_keeps (keeps_joinConfigure stepped) (by rw [programEq]; rfl)
  case case9 | case10 => exact .of_keeps (keeps_abortConfigured stepped) (by rw [programEq]; rfl)
  case case11 => exact .of_keeps (keeps_joinStart stepped) (by rw [programEq]; rfl)
  case case15 => exact .of_keeps (keeps_abortStarted stepped) (by rw [programEq]; rfl)
  all_goals cases stepped
  case case21 => exact .announced rfl rfl programEq rfl
  all_goals
    refine .quiet ⟨rfl, rfl, fun _ announced => ?_⟩ fun report together => ?_
    · cases announced
    · rw [programEq] at together
      cases together

theorem mergeStep_of_step {event : LoadTestRunner.Event}
    (stepped : runner.step event = some next) : MergeStep runner next := by
  have link : ∀ {index : Nat} {change : Link → Option Link},
      runner.stepLink index change = some next → MergeStep runner next := by
    intro index change moved
    rcases same_of_stepLink moved with ⟨config, merged, program, metadata⟩
    exact .link config merged program metadata
  cases event with
  | task index succeeds => exact link (LoadTestRunner.stepLink_of_stepTask stepped)
  | commandTask index succeeds => exact link (LoadTestRunner.stepLink_of_stepTask stepped)
  | deliver index => exact link stepped
  | generator index event => exact link stepped
  | run event => exact mergeStep_of_stepRun stepped

end Runner

variable {texts : Texts}

theorem merged_eq {run next : CollectAndPersist} {event : CollectAndPersist.Event}
    (stepped : run.step texts event = some next) (other : ∀ report, event ≠ .merged report) :
    next.merged = run.merged := by
  revert stepped other
  fun_cases CollectAndPersist.step texts run event <;> intro stepped other
  case case1 report _ => exact absurd rfl (other report)
  case case9 report _ =>
    unfold CollectAndPersist.send CollectAndPersist.expectError at stepped
    split_ifs at stepped <;> [split at stepped; skip] <;> cases stepped <;> rfl
  case case20 =>
    rcases Option.bind_eq_some_iff.mp stepped with ⟨writer, -, made⟩
    obtain rfl := Option.some.inj made
    rfl
  case case21 source left =>
    rcases Option.bind_eq_some_iff.mp stepped with ⟨⟨writer, error⟩, -, made⟩
    obtain rfl := Option.some.inj made
    rfl
  all_goals cases stepped
  case case7 =>
    unfold CollectAndPersist.expectError
    split <;> rfl
  case case11 outcome _ _ =>
    unfold CollectAndPersist.join
    split <;> rfl
  all_goals rfl

theorem merged_eq_some {run next : CollectAndPersist} {report : IntervalReport}
    (stepped : run.step texts (.merged report) = some next) :
    run.collector = .selecting ∧ next.collector = .sending report ∧
      next.merged = run.merged ++ [report] := by
  cases selecting : run.collector <;> simp only [CollectAndPersist.step, selecting] at stepped <;>
    cases stepped
  exact ⟨rfl, rfl, rfl⟩

theorem checked_eq_some {runner : LoadTestRunner} {run : CollectAndPersist} {next : WholeRun}
    (checked : checked runner run = some next) :
    agree runner.program run.collector ∧ next = ⟨runner, run⟩ := by
  unfold WholeRun.checked at checked
  split_ifs at checked with agrees
  exact ⟨agrees, (Option.some.inj checked).symm⟩

/-- What a step does to the two views. -/
inductive StepBy (texts : Texts) (load next : WholeRun) : Event → Prop
  | alone {event : LoadTestRunner.Event} (stepped : load.runner.step event = some next.runner)
      (run : next.run = load.run)
      (nothing : companion load.runner.program next.runner.program = none) :
      StepBy texts load next (.runner event)
  | together {event : LoadTestRunner.Event} {own : CollectAndPersist.Event}
      (stepped : load.runner.step event = some next.runner)
      (moved : load.run.step texts own = some next.run)
      (companionEq : companion load.runner.program next.runner.program = some own) :
      StepBy texts load next (.runner event)
  | unnoticed {event : CollectAndPersist.Event} (runner : next.runner = load.runner)
      (moved : load.run.step texts event = some next.run) : StepBy texts load next (.run event)

theorem stepBy_of_step {load next : WholeRun} {event : Event}
    (stepped : load.step texts event = some next) :
    agree next.runner.program next.run.collector ∧ StepBy texts load next event := by
  cases event with
  | runner event =>
      simp only [WholeRun.step] at stepped
      split_ifs at stepped
      rcases Option.bind_eq_some_iff.mp stepped with ⟨runner, moved, rest⟩
      split at rest
      · rename_i nothing
        rcases checked_eq_some rest with ⟨agrees, rfl⟩
        exact ⟨agrees, .alone moved rfl nothing⟩
      · rename_i own companionEq
        rcases Option.bind_eq_some_iff.mp rest with ⟨run, ownMoved, last⟩
        rcases checked_eq_some last with ⟨agrees, rfl⟩
        exact ⟨agrees, .together moved ownMoved companionEq⟩
  | run event =>
      rcases Option.bind_eq_some_iff.mp stepped with ⟨run, moved, rest⟩
      rcases checked_eq_some rest with ⟨agrees, rfl⟩
      exact ⟨agrees, .unnoticed rfl moved⟩

/-! ## Both views at once -/

/-- The two views of a run agree. -/
structure Joined (load : WholeRun) : Prop where
  agrees : agree load.runner.program load.run.collector
  merged : load.run.merged = load.runner.merged

theorem Joined.step {load next : WholeRun} {event : Event} (joined : load.Joined)
    (stepped : load.step texts event = some next) : next.Joined := by
  rcases stepBy_of_step stepped with ⟨agrees, by_⟩
  refine ⟨agrees, ?_⟩
  cases by_ with
  | alone moved run nothing =>
      rw [run, joined.merged]
      rcases (mergeStep_of_step moved).merged with ⟨same, -⟩ | ⟨report, -, together⟩
      · exact same.symm
      · rw [nothing] at together
        cases together
  | @together _ own moved ownMoved companionEq =>
      rcases (mergeStep_of_step moved).merged with
        ⟨same, notMerged⟩ | ⟨report, merged, together⟩
      · rw [same, ← joined.merged]
        refine merged_eq ownMoved fun report isMerged => notMerged report ?_
        rw [companionEq, isMerged]
      · rw [companionEq] at together
        cases together
        rw [(merged_eq_some ownMoved).2.2, merged, joined.merged]
  | @unnoticed own runner moved =>
      rw [runner, ← joined.merged]
      refine merged_eq moved ?_
      rintro report rfl
      rcases merged_eq_some moved with ⟨selecting, sending, -⟩
      have before := joined.agrees
      rw [runner, sending] at agrees
      rw [selecting] at before
      cases programEq : load.runner.program <;> rw [programEq] at before agrees <;>
        first | cases before; done | cases agrees

variable {allowed : WholeRun → Event → Prop} {load : WholeRun}

theorem joined_of_reachable (reachable : (machine texts).ReachableBy allowed load) :
    load.Joined := by
  apply reachable.invariant
  · rintro load ⟨⟨config, -, -, runner⟩, run⟩
    refine ⟨?_, ?_⟩ <;> rw [run, runner] <;> rfl
  · intro _ _ _ joined _ stepped
    exact joined.step stepped

theorem runner_of_reachable {permits : LoadTestRunner → LoadTestRunner.Event → Prop}
    (permitted : ∀ load event, allowed load (.runner event) → permits load.runner event)
    (reachable : (machine texts).ReachableBy allowed load) :
    LoadTestRunner.machine.ReachableBy permits load.runner := by
  apply reachable.project (fun load => load.runner)
  · exact fun _ initial => initial.1
  · intro before event next ok stepped
    cases (stepBy_of_step stepped).2 with
    | alone moved => exact .inr ⟨_, permitted _ _ ok, moved⟩
    | together moved => exact .inr ⟨_, permitted _ _ ok, moved⟩
    | unnoticed runner => exact .inl runner

/-- The writer task works with the configuration of the run. -/
theorem run_of_reachable (reachable : (machine texts).ReachableBy allowed load) :
    (CollectAndPersist.machine texts load.runner.config.warmup.duration
      load.runner.config.warmup.pause).Reachable load.run := by
  induction reachable with
  | start initial => exact .start initial.2
  | step _ _ stepped ih =>
      cases (stepBy_of_step stepped).2 with
      | alone moved run =>
          rw [run, (mergeStep_of_step moved).config]
          exact ih
      | together moved ownMoved =>
          rw [(mergeStep_of_step moved).config]
          exact ih.step trivial ownMoved
      | unnoticed runner ownMoved =>
          rw [runner]
          exact ih.step trivial ownMoved

/-- What is announced at the end is what was counted. -/
theorem metadata_of_reachable {permits : LoadTestRunner → LoadTestRunner.Event → Prop}
    {runner : LoadTestRunner} (reachable : LoadTestRunner.machine.ReachableBy permits runner) :
    ∀ metadata, runner.program = .succeeded metadata → metadata = runner.metadata := by
  induction reachable with
  | start initial =>
      rcases initial with ⟨config, -, -, rfl⟩
      exact nofun
  | step _ _ stepped ih =>
      intro metadata succeeded
      rcases (mergeStep_of_step stepped).metadata succeeded with now | ⟨before, same⟩
      · exact now
      · rw [same]
        exact ih metadata before

/-! ## What the generators have reported -/

/-- The results of a generator that are in one of its reports, as they come off the wire. -/
def recorded (link : Link) : List TransactionResult :=
  (link.generator.logged.filter (·.reportsBefore < link.generator.reported.length)).map
    fun entry => TransactionResult.codec.seen entry.result

theorem resultsIn_perm {handle : ReadyHandle} (completed : handle.Completed) :
    handle.reports.flatMap (·.results) ~
      (handle.history.logged.filter (·.reportsBefore < handle.reports.length)).map
        (·.result) := by
  have delivered := completed.delivered
  have pending : handle.pendingResults =
      (handle.history.logged.filter fun entry =>
        !decide (entry.reportsBefore < handle.reports.length)).map (·.result) := by
    rw [delivered.pending, ReadyHandle.resultsAfter]
    congr 1
    apply List.filter_congr
    intro entry member
    have bounded := delivered.bounded entry member
    simp only [decide_eq_decide, ← decide_not]
    omega
  have parts := (List.filter_append_perm
    (fun entry => decide (entry.reportsBefore < handle.reports.length))
    handle.history.logged).map (·.result)
  rw [List.map_append, ← pending, ← delivered.flow] at parts
  exact ((List.perm_append_right_iff _).mp parts).symm

theorem recorded_perm {runner : LoadTestRunner} {link : Link} (sound : runner.Sound)
    (member : link ∈ runner.links) (ended : link.HasEnded) :
    (link.generator.reported.map IntervalReport.codec.seen).flatMap (·.results) ~
      recorded link := by
  rcases LoadGenerator.exists_started (List.ne_nil_of_mem ended) with ⟨handle, positionEq⟩
  have reachable := ((sound.links link member).started positionEq).1
  unfold Link.HasEnded at ended
  rw [LoadGenerator.updates_of_started positionEq] at ended
  have completed := ReadyHandle.completed_of_finished reachable ended
  have reportedEq : link.generator.reported = handle.reports := by
    rw [LoadGenerator.reported, LoadGenerator.updates_of_started positionEq, completed.reports]
  have seen : (handle.reports.map IntervalReport.codec.seen).flatMap (·.results) =
      (handle.reports.flatMap (·.results)).map TransactionResult.codec.seen := by
    rw [List.flatMap_map, List.map_flatMap]
    rfl
  rw [recorded, reportedEq, LoadGenerator.logged_of_started positionEq, seen]
  have perm := (resultsIn_perm completed).map TransactionResult.codec.seen
  rw [List.map_map] at perm
  exact perm

/-- The merged reports of a run that has collected everything. -/
theorem merged_perm {runner : LoadTestRunner} (sound : runner.Sound)
    (collected : runner.Collected)
    (gone : ∀ link ∈ runner.links, link.Gone runner.merged.length) :
    runner.merged.flatMap (·.results) ~ runner.links.flatMap recorded := by
  let streams := runner.links.map fun link =>
    link.generator.reported.map IntervalReport.codec.seen
  have column : ∀ index, streams.column index = LoadTestRunner.reportsAt runner.links index := by
    intro index
    simp only [streams, List.column, List.filterMap_map, LoadTestRunner.reportsAt]
    congr 1
    funext link
    exact List.getElem?_map
  have within : ∀ stream ∈ streams, stream.length ≤ runner.merged.length := by
    intro stream member
    rcases List.mem_map.mp member with ⟨link, linkMem, rfl⟩
    rw [List.length_map]
    exact (gone link linkMem).short
  calc runner.merged.flatMap (·.results)
      = (List.range runner.merged.length).flatMap fun index =>
          runner.merged[index]?.toList.flatMap (·.results) := by
        rw [← List.flatMap_assoc, List.flatMap_range_getElem? (Nat.le_refl _)]
    _ ~ (List.range runner.merged.length).flatMap fun index =>
          (streams.column index).flatMap (·.results) := by
        refine List.Perm.flatMap_left _ fun index member => ?_
        have found := List.getElem?_eq_getElem (List.mem_range.mp member)
        rw [found, column, Option.toList_some, List.flatMap_singleton]
        exact (collected.rounds index _ found).results
    _ = ((List.range runner.merged.length).flatMap streams.column).flatMap (·.results) :=
        List.flatMap_assoc.symm
    _ ~ streams.flatten.flatMap (·.results) :=
        (List.flatMap_column_perm within).flatMap_right _
    _ = runner.links.flatMap fun link =>
          (link.generator.reported.map IntervalReport.codec.seen).flatMap (·.results) := by
        simp only [streams, ← List.flatMap_def, List.flatMap_assoc]
    _ ~ runner.links.flatMap recorded :=
        List.Perm.flatMap_left _ fun link member =>
          recorded_perm sound member (gone link member).ended

/-! ## What is in the files -/

/-- The row of a dropped transaction. -/
def isDroppedRow (row : List String) : Bool := row[8]? = some "dropped"

theorem isDroppedRow_fields (texts : Texts) (result : TransactionResult) :
    isDroppedRow (TransactionCsvPersister.fields texts result) = result.isDropped := by
  cases result <;> rfl

/-- No generator loses the result of the last transaction in flight. -/
def KeepsLastResults (load : WholeRun) : Event → Prop
  | .runner event => LoadTestRunner.KeepsLastResults load.runner event
  | .run _ => True

/-- Where both views see the end of a run that succeeds. -/
theorem Joined.returned {metadata : RunMetadata} (joined : load.Joined)
    (notPanicked : load.run.collector ≠ .panicked)
    (succeeded : load.runner.program = .succeeded metadata) :
    load.run.collector = .returned (.ok ()) := by
  have agrees := joined.agrees
  rw [succeeded] at agrees
  cases collectorEq : load.run.collector with
  | panicked => exact absurd collectorEq notPanicked
  | returned result =>
      rw [collectorEq] at agrees
      cases result with
      | ok => rfl
      | error error => cases agrees
  | selecting | sending | joining | writingMetadata =>
      rw [collectorEq] at agrees
      cases agrees

/-- A run that succeeds has written all merged reports. -/
theorem files_of_succeeded {metadata : RunMetadata}
    (reachable : (machine texts).ReachableBy allowed load)
    (succeeded : load.runner.program = .succeeded metadata) :
    load.run.writer.interval.file =
        IntervalCsvPersister.expected texts load.runner.config.warmup.duration
          load.runner.config.warmup.pause load.runner.merged ∧
      load.run.writer.transactions.file =
        TransactionCsvPersister.expected texts load.runner.merged := by
  have joined := joined_of_reachable reachable
  have sound := CollectAndPersist.sound_of_reachable (run_of_reachable reachable)
  rcases sound.state with healthy | ⟨error, failed⟩
  · have isHealthy := healthy.collector
    have notPanicked : load.run.collector ≠ .panicked := by
      intro panicked
      rw [panicked] at isHealthy
      exact isHealthy
    rw [← joined.merged]
    exact healthy.files (joined.returned notPanicked succeeded)
  · have known := failed.collector
    have notPanicked : load.run.collector ≠ .panicked := by
      intro panicked
      rw [panicked] at known
      exact known
    rcases failed.result (joined.returned notPanicked succeeded) with result | ⟨_, result⟩ <;>
      cases result

/-- Whatever the interleaving of generators, network, collector and writer task, a run that
succeeds leaves behind a `transactions.csv` with one row for each result that a generator
has reported, and these are the results of all dispatched transactions unless the last one
in flight ended too late.  The counts in `run.json` are those of the rows. -/
theorem files_account_for_everything {metadata : RunMetadata} (skipsBlankLines : Bool)
    (reachable : (machine texts).Reachable load)
    (succeeded : load.runner.program = .succeeded metadata) :
    ∃ rows, Csv.parse skipsBlankLines load.run.writer.transactions.file.toList =
        some (TransactionCsvPersister.columns :: rows) ∧
      rows ~ (load.runner.links.flatMap recorded).map (TransactionCsvPersister.fields texts) ∧
      (∀ link ∈ load.runner.links,
        link.generator.logged.map (·.task) ~ link.generator.dispatched) ∧
      ((machine texts).ReachableBy KeepsLastResults load →
        ∀ link ∈ load.runner.links, recorded link =
          link.generator.logged.map fun entry => TransactionResult.codec.seen entry.result) ∧
      (metadata.drops = none ↔ ∀ row ∈ rows, isDroppedRow row = false) ∧
      ∀ drops ∈ metadata.drops,
        drops.load.transactions + drops.warmup.transactions = rows.length ∧
          drops.load.total + drops.warmup.total = rows.countP isDroppedRow := by
  have runnerReachable : LoadTestRunner.machine.Reachable load.runner :=
    runner_of_reachable (fun _ _ _ => trivial) reachable
  have sound := LoadTestRunner.sound_of_reachable runnerReachable
  have collected := LoadTestRunner.collected_of_reachable runnerReachable
  have program := collected.program
  rw [succeeded] at program
  rcases program with ⟨-, gone⟩
  have announced := metadata_of_reachable runnerReachable metadata succeeded
  have perm := merged_perm sound collected gone
  have file := (files_of_succeeded reachable succeeded).2
  have counts := DropSummary.recordAll_counts load.runner.config.warmup.duration
    load.runner.config.warmup.pause load.runner.merged
  rw [← collected.summary] at counts
  have dropsEq : metadata.drops = load.runner.summary.report := by rw [announced]; rfl
  have isDropped : ∀ results : List TransactionResult,
      (results.map (TransactionCsvPersister.fields texts)).countP isDroppedRow =
        results.countP (·.isDropped) := by
    intro results
    rw [List.countP_map]
    exact congrArg (List.countP · results) (funext (isDroppedRow_fields texts))
  refine ⟨(load.runner.merged.flatMap (·.results)).map (TransactionCsvPersister.fields texts),
    ?_, perm.map _, ?_, ?_, ?_, ?_⟩
  · rw [file]
    exact TransactionCsvPersister.parse_expected ..
  · intro link member
    rcases List.mem_iff_getElem?.mp member with ⟨index, found⟩
    exact (sound.accounts found (gone link member).ended).tasks
  · intro keeps link member
    have kept := LoadTestRunner.hasKept_of_reachable
      (runner_of_reachable (fun _ _ permitted => permitted) keeps) _
      (List.mem_map_of_mem (f := (·.generator)) member)
    have early := sound.reportsBefore_lt member kept (gone link member).ended
    rw [recorded, List.filter_eq_self.mpr fun entry inLog => decide_eq_true (early entry inLog)]
  · rw [dropsEq, DropSummary.report_eq_none_iff, counts.2, ← isDropped, List.countP_eq_zero]
    simp only [Bool.not_eq_true]
  · intro drops reported
    rw [dropsEq] at reported
    rw [DropSummary.eq_of_mem_report reported, List.length_map, isDropped]
    exact counts

/-- The `interval.csv` of a run that succeeds is the one that the configuration calls for,
however the load was split: it has a row for every second of warmup and pause and for every
step of the profile, each with its load level, its phase and its target time, and every row
after them is one without load. -/
theorem intervals_as_configured {metadata : RunMetadata} (skipsBlankLines : Bool)
    (reachable : (machine texts).Reachable load)
    (succeeded : load.runner.program = .succeeded metadata) :
    ∃ rows, Csv.parse skipsBlankLines load.run.writer.interval.file.toList =
        some (IntervalCsvPersister.columns :: rows) ∧
      load.runner.config.scheduledRounds ≤ rows.length ∧
      ∀ index row, rows[index]? = some row →
        row[1]? = some (toString (load.runner.config.loadLevelAt index).toNat) ∧
        row[8]? = some (phaseOf load.runner.config.warmup.duration
          load.runner.config.warmup.pause index).text ∧
        (index < load.runner.config.scheduledRounds → ∃ time,
          load.runner.config.TargetTimeAt index time ∧
            row[0]? = some (texts.seconds time.duration.asSecsF64)) := by
  have runnerReachable : LoadTestRunner.machine.Reachable load.runner :=
    runner_of_reachable (fun _ _ _ => trivial) reachable
  have sound := LoadTestRunner.sound_of_reachable runnerReachable
  have collected := LoadTestRunner.collected_of_reachable runnerReachable
  have program := collected.program
  rw [succeeded] at program
  rcases program with ⟨-, gone⟩
  have file := (files_of_succeeded reachable succeeded).1
  refine ⟨_, by rw [file]; exact IntervalCsvPersister.parse_expected .., ?_, ?_⟩
  · have found := List.getElem?_eq_getElem collected.size.1
    have linkGone := gone _ (List.mem_of_getElem? found)
    have long := (sound.links _ (List.mem_of_getElem? found)).scheduled_of_hasEnded linkGone.ended
    rw [sound.scheduledReports found] at long
    rw [List.length_mapIdx]
    exact long.trans linkGone.short
  · intro index row rowAt
    rw [List.getElem?_mapIdx] at rowAt
    rcases Option.map_eq_some_iff.mp rowAt with ⟨report, mergedAt, rfl⟩
    have isMerge := collected.rounds index report mergedAt
    have bound := (List.getElem?_eq_some_iff.mp mergedAt).1
    have settled : ∀ link ∈ load.runner.links, link.Settled (index + 1) := fun link member =>
      (collected.settled link member).imp (fun long => Nat.le_trans bound long) id
    have level := LoadTestRunner.loadLevel_of_isMerge sound collected isMerge settled
    refine ⟨?_, rfl, fun scheduled => ⟨report.targetTime, ?_, rfl⟩⟩
    · rw [← level]
      rfl
    · exact LoadTestRunner.targetTimeAt_of_isMerge sound collected isMerge settled scheduled

instance (load : WholeRun) (event : Event) : Decidable (KeepsLastResults load event) :=
  match event with
  | .runner event => inferInstanceAs (Decidable (load.runner.KeepsLastResults event))
  | .run _ => inferInstanceAs (Decidable True)

section OneDropped

private def csvTexts : Texts := ⟨fun number => toString number.bits.toNat, id⟩

private def oneSecond : LoadTestConfig :=
  { LoadTestRunner.twoGenerators with profile := ⟨[⟨Binary64.ofNat 1, 1⟩]⟩ }

private def opens : List ReadyHandle.Event :=
  [.report, .pace [], .pace [], .report, .report, .report]

private def closes : List ReadyHandle.Event :=
  [.report, .report, .report, .pace [], .report, .report, .report]

/-- A transaction is dispatched after half a second. -/
private def busy : List ReadyHandle.Event :=
  [.pace [500000000], .tick 500000000, .pace [],
    .complete 0 (.dropped none .noVirtualUser) 500000000, .pace [2000000000],
    .pace [2000000000], .pace [2000000000], .tick 500000000]

private def quiet : List ReadyHandle.Event :=
  [.pace [2000000000], .pace [2000000000], .tick 1000000000]

private def generatorsRun : List LoadTestRunner.Event :=
  LoadTestRunner.untilReady ++ LoadTestRunner.starts 0 ++ LoadTestRunner.starts 1 ++
    (opens ++ busy ++ closes).map (fun event => .generator 0 (.run event)) ++
    (opens ++ quiet ++ closes).map (fun event => .generator 1 (.run event)) ++
    List.replicate 11 (.run .proceeds)

private def writerRun : List CollectAndPersist.Event :=
  [.receive] ++ List.replicate 8 .call ++ [.close] ++ List.replicate 4 .call ++ [.join]

private def wholeRun : List Event :=
  generatorsRun.map .runner ++ writerRun.map .run ++ [.runner (.run .proceeds)]

private def hasSucceeded : Program → Bool
  | .succeeded _ => true
  | _ => false

private theorem oneSecond_initial : (machine csvTexts).initial ⟨.new oneSecond, .new 0 0⟩ :=
  ⟨⟨oneSecond, by decide, by decide, rfl⟩, rfl⟩

theorem files_account_for_everything_oneDropped : ∃ load metadata rows,
    (machine csvTexts).ReachableBy KeepsLastResults load ∧
      load.runner.program = .succeeded metadata ∧
      load.runner.links.flatMap recorded ≠ [] ∧
      Csv.parse true load.run.writer.transactions.file.toList =
        some (TransactionCsvPersister.columns :: rows) ∧
      rows ~ (load.runner.links.flatMap recorded).map
        (TransactionCsvPersister.fields csvTexts) ∧
      (∀ link ∈ load.runner.links, recorded link =
        link.generator.logged.map fun entry => TransactionResult.codec.seen entry.result) ∧
      (metadata.drops = none ↔ ∀ row ∈ rows, isDroppedRow row = false) := by
  rcases (machine csvTexts).exists_reachableBy_of_exec
    (fun load event => of_decide_eq_true (p := KeepsLastResults load event))
    oneSecond_initial wholeRun
    (fun load => hasSucceeded load.runner.program &&
      decide (load.runner.links.flatMap recorded ≠ []))
    (by decide +kernel) with ⟨load, reachable, checked⟩
  rcases Bool.and_eq_true_iff.mp checked with ⟨succeeded, nonempty⟩
  cases programEq : load.runner.program <;> rw [programEq] at succeeded <;> cases succeeded
  rename_i metadata
  rcases files_account_for_everything true reachable.reachable programEq with
    ⟨rows, parsed, perm, -, kept, dropped, -⟩
  exact ⟨load, metadata, rows, reachable, programEq, of_decide_eq_true nonempty, parsed, perm,
    kept reachable, dropped⟩

theorem intervals_as_configured_oneStep : ∃ load metadata rows,
    (machine csvTexts).Reachable load ∧ load.runner.program = .succeeded metadata ∧
      load.runner.config = oneSecond ∧
      Csv.parse true load.run.writer.interval.file.toList =
        some (IntervalCsvPersister.columns :: rows) ∧
      oneSecond.scheduledRounds ≤ rows.length ∧
      ∀ index row, rows[index]? = some row →
        row[1]? = some (toString (oneSecond.loadLevelAt index).toNat) := by
  rcases (machine csvTexts).exists_reachable_of_exec oneSecond_initial wholeRun
    (fun load => hasSucceeded load.runner.program && decide (load.runner.config = oneSecond))
    (by decide +kernel) with ⟨load, reachable, checked⟩
  rcases Bool.and_eq_true_iff.mp checked with ⟨succeeded, sameConfig⟩
  have configEq := of_decide_eq_true sameConfig
  cases programEq : load.runner.program <;> rw [programEq] at succeeded <;> cases succeeded
  rename_i metadata
  rcases intervals_as_configured true reachable programEq with ⟨rows, parsed, long, shown⟩
  rw [configEq] at long shown
  exact ⟨load, metadata, rows, reachable, programEq, configEq, parsed, long,
    fun index row rowAt => (shown index row rowAt).1⟩

end OneDropped

end WholeRun

end CreoBench
