import CreoBench.ReportedLoad

/-!
# Whether the drain rounds stay in step

After the last step each generator chooses the target times of its drain reports from
its own clock, while the orchestrator pairs the reports by their number.  They agree
as long as all generators read the same whole second for the same round.
-/

namespace CreoBench

/-- Only a drain round that reads the clock adds a second. -/
theorem ReadyHandle.drainSeconds_of_report {handle next : ReadyHandle}
    (reported : handle.report = some next) :
    next.history.drainSeconds = handle.history.drainSeconds ∨
      ∃ timeZero, handle.reporter = .clock timeZero ∧
        next.history.drainSeconds =
          handle.history.drainSeconds ++ [drainSecond timeZero handle.now] := by
  cases report_cases reported with
  | clockRead reporterEq secondEq => exact .inr ⟨_, reporterEq, by rw [secondEq]⟩
  | _ => exact .inl rfl

namespace LoadGenerator

/-- The seconds that the drain rounds have read from the clock. -/
def drainSeconds (generator : LoadGenerator) : List Nat :=
  match generator.position with
  | .started handle => handle.history.drainSeconds
  | _ => []

/-- The number of the drain round that is about to read the clock, and the second that
the clock shows. -/
def nextDrainSecond (generator : LoadGenerator) : Option (Nat × Nat) :=
  match generator.position with
  | .started handle =>
      match handle.reporter with
      | .clock timeZero =>
          some (handle.history.drainSeconds.length,
            ReadyHandle.drainSecond timeZero handle.now)
      | _ => none
  | _ => none

theorem drainSeconds_of_started {generator : LoadGenerator} {handle : ReadyHandle}
    (positionEq : generator.position = .started handle) :
    generator.drainSeconds = handle.history.drainSeconds := by
  rw [drainSeconds, positionEq]

theorem drainSeconds_eq_nil {generator : LoadGenerator}
    (notStarted : ∀ handle, generator.position ≠ .started handle) :
    generator.drainSeconds = [] := by
  unfold drainSeconds
  split
  · rename_i handle positionEq
    exact absurd positionEq (notStarted handle)
  · rfl

theorem drainSeconds_of_step {generator next : LoadGenerator} {event : Event}
    (stepped : generator.step event = some next) :
    next.drainSeconds = generator.drainSeconds ∨
      event = .run .report ∧ ∃ second,
        generator.nextDrainSecond = some (generator.drainSeconds.length, second) ∧
          next.drainSeconds = generator.drainSeconds ++ [second] := by
  cases testStep_of_step stepped with
  | same positionEq =>
      left
      rw [drainSeconds, positionEq, drainSeconds]
  | waits before after =>
      exact .inl ((drainSeconds_eq_nil after).trans (drainSeconds_eq_nil before).symm)
  | begins before positionEq initial =>
      rcases initial with ⟨loadgeneratorId, profile, warmup, now, rfl⟩
      rw [drainSeconds_of_started positionEq, drainSeconds_eq_nil before]
      exact .inl rfl
  | @moves move handle handle' eventEq positionEq moved nextEq =>
      subst eventEq
      rw [drainSeconds_of_started positionEq, drainSeconds_of_started nextEq]
      cases move with
      | tick elapsed =>
          cases moved
          exact .inl rfl
      | pace gaps => exact .inl (ReadyHandle.sameReports_pace moved).drainSeconds
      | report =>
          rcases ReadyHandle.drainSeconds_of_report moved with same | ⟨timeZero, reporterEq, added⟩
          · exact .inl same
          · exact .inr ⟨rfl, _, by simp only [nextDrainSecond, positionEq, reporterEq], added⟩
      | sendFails =>
          obtain rfl := ReadyHandle.sendFails_eq_some moved
          exact .inl rfl
      | complete index outcome finishedAt =>
          rcases ReadyHandle.complete_eq_some moved with ⟨task, -, rfl⟩
          exact .inl rfl

end LoadGenerator

namespace LoadTestRunner

/-- A drain round that reads the clock reads the whole second that the other generators
have read for theirs. -/
def SameSeconds (runner : LoadTestRunner) : Event → Prop
  | .generator index (.run .report) =>
      ∀ generator ∈ runner.ends[index]?, ∀ read ∈ generator.nextDrainSecond,
        ∀ other ∈ runner.ends, ∀ second ∈ other.drainSeconds[read.1]?, read.2 = second
  | _ => True

/-- The drain rounds of all generators have read the same seconds. -/
def InSync (generators : List LoadGenerator) : Prop :=
  ∀ first ∈ generators, ∀ second ∈ generators, ∀ (round here there : Nat),
    first.drainSeconds[round]? = some here → second.drainSeconds[round]? = some there →
      here = there

theorem InSync.set {generators : List LoadGenerator} (inSync : InSync generators) {index : Nat}
    {generator changed : LoadGenerator} (found : generators[index]? = some generator)
    (same : changed.drainSeconds = generator.drainSeconds) :
    InSync (generators.set index changed) := by
  have before : ∀ other ∈ generators.set index changed, ∃ old ∈ generators,
      other.drainSeconds = old.drainSeconds := by
    intro other member
    rcases List.mem_or_eq_of_mem_set member with old | rfl
    · exact ⟨other, old, rfl⟩
    · exact ⟨generator, List.mem_of_getElem? found, same⟩
  intro first firstMem second secondMem round here there firstRead secondRead
  rcases before first firstMem with ⟨oldFirst, oldFirstMem, firstSame⟩
  rcases before second secondMem with ⟨oldSecond, oldSecondMem, secondSame⟩
  rw [firstSame] at firstRead
  rw [secondSame] at secondRead
  exact inSync oldFirst oldFirstMem oldSecond oldSecondMem round here there firstRead secondRead

/-- A round that reads what the others have read. -/
theorem InSync.read {generators : List LoadGenerator} (inSync : InSync generators)
    {index read : Nat} {generator changed : LoadGenerator}
    (found : generators[index]? = some generator)
    (added : changed.drainSeconds = generator.drainSeconds ++ [read])
    (agrees : ∀ other ∈ generators,
      ∀ second ∈ other.drainSeconds[generator.drainSeconds.length]?, read = second) :
    InSync (generators.set index changed) := by
  have member := List.mem_of_getElem? found
  -- what the changed generator has read agrees with everybody else
  have agreesAt : ∀ (round here there : Nat) (other : LoadGenerator), other ∈ generators →
      changed.drainSeconds[round]? = some here → other.drainSeconds[round]? = some there →
        here = there := by
    intro round here there other otherMem hereRead thereRead
    rw [added] at hereRead
    rcases List.getElem?_concat_eq_some.mp hereRead with old | ⟨rfl, rfl⟩
    · exact inSync generator member other otherMem round here there old thereRead
    · exact agrees other otherMem there thereRead
  intro first firstMem second secondMem round here there firstRead secondRead
  rcases List.mem_or_eq_of_mem_set firstMem with firstOld | rfl
  · rcases List.mem_or_eq_of_mem_set secondMem with secondOld | rfl
    · exact inSync first firstOld second secondOld round here there firstRead secondRead
    · exact (agreesAt round there here first firstOld secondRead firstRead).symm
  · rcases List.mem_or_eq_of_mem_set secondMem with secondOld | rfl
    · exact agreesAt round here there second secondOld firstRead secondRead
    · exact Option.some.inj (firstRead.symm.trans secondRead)

theorem InSync.step {runner next : LoadTestRunner} {event : Event}
    (inSync : InSync runner.ends) (permitted : SameSeconds runner event)
    (stepped : runner.step event = some next) : InSync next.ends := by
  cases endsStep_of_step stepped with
  | same endsEq =>
      rw [endsEq]
      exact inSync
  | arrived found endsEq =>
      rw [endsEq]
      exact inSync.set found rfl
  | moved eventEq found moved endsEq =>
      rw [endsEq]
      rcases LoadGenerator.drainSeconds_of_step moved with same | ⟨rfl, second, readEq, added⟩
      · exact inSync.set found same
      · subst eventEq
        exact inSync.read found added (permitted _ found _ readEq)

theorem inSync_of_reachable {runner : LoadTestRunner}
    (reachable : machine.ReachableBy SameSeconds runner) : InSync runner.ends := by
  induction reachable with
  | start initial =>
      rcases initial with ⟨config, -, -, rfl⟩
      intro first firstMem second _ round here there firstRead
      rw [eq_new_of_mem_ends firstMem] at firstRead
      cases firstRead
  | step _ permitted stepped inSync => exact inSync.step permitted stepped

/-- Generators that read the same seconds do not disagree on any target time. -/
theorem Sound.not_differ_of_inSync {runner : LoadTestRunner} (sound : runner.Sound)
    (inSync : InSync runner.ends) (index : Nat) : ¬ Differ runner.links index := by
  rcases Nat.lt_or_ge index runner.config.scheduledRounds with scheduled | drained
  · exact sound.not_differ scheduled
  rintro ⟨first, firstMem, second, secondMem, report, other, firstAt, secondAt, different⟩
  -- where the target time of a drain report comes from
  have drainAt : ∀ link ∈ runner.links, ∀ report, link.report index = some report →
      ∃ read deadline, link.generator.drainSeconds[index - runner.config.scheduledRounds]? =
          some read ∧
        Duration.fromSecsF64 (ReadyHandle.drainDeadline read).value = some deadline ∧
          report.targetTime = RelativeLoadTestTime.codec.seen ⟨deadline⟩ := by
    intro link member report reported
    rcases List.mem_iff_getElem?.mp member with ⟨generator, found⟩
    have linkSound := sound.links link member
    rcases linkSound.row reported with ⟨handle, original, positionEq, -, row, rfl⟩
    have scheduled : handle.scheduledReports = runner.config.scheduledRounds := by
      rw [linkSound.scheduledReports_started positionEq, sound.scheduledReports found]
    have onDrain := row.drain
    rw [scheduled] at onDrain
    rcases (onDrain drained).1 with ⟨read, readAt, converted⟩
    refine ⟨read, original.targetTime.duration, ?_, converted, rfl⟩
    rw [LoadGenerator.drainSeconds_of_started positionEq]
    exact readAt
  rcases drainAt first firstMem report firstAt with ⟨read, deadline, readAt, converted, target⟩
  rcases drainAt second secondMem other secondAt with
    ⟨read', deadline', readAt', converted', target'⟩
  obtain rfl := inSync _ (List.mem_map_of_mem firstMem) _ (List.mem_map_of_mem secondMem) _ _ _
    readAt readAt'
  rw [converted] at converted'
  cases converted'
  exact different (target.trans target'.symm)

/-- As long as all generators read the same whole second for the same drain round, no
round fails because of its target times, and all reports of a round carry the same one. -/
theorem in_step_of_sameSeconds {runner : LoadTestRunner}
    (reachable : machine.ReachableBy SameSeconds runner) :
    (∀ address expected actual,
      runner.program ≠ .failed (.collect (.timeMismatch address expected actual)) ∧
        runner.program ≠ .exited (.collect (.timeMismatch address expected actual))) ∧
    (∀ index, ∀ first ∈ runner.links, ∀ second ∈ runner.links, ∀ report other,
      first.report index = some report → second.report index = some other →
        report.targetTime = other.targetTime) := by
  have sound := sound_of_reachable reachable
  have inSync := inSync_of_reachable reachable
  have program := (collected_of_reachable reachable).program
  refine ⟨fun address expected actual => ⟨fun programEq => ?_, fun programEq => ?_⟩, ?_⟩
  · rw [programEq] at program
    exact sound.not_differ_of_inSync inSync _ program
  · rw [programEq] at program
    exact sound.not_differ_of_inSync inSync _ program
  · intro index first firstMem second secondMem report other firstAt secondAt
    by_contra different
    exact sound.not_differ_of_inSync inSync index
      ⟨first, firstMem, second, secondMem, report, other, firstAt, secondAt, different⟩

instance (runner : LoadTestRunner) (event : Event) : Decidable (SameSeconds runner event) :=
  match event with
  | .generator _ (.run .report) => inferInstanceAs (Decidable (∀ _ ∈ _, _))
  | .generator _ (.run (.tick _)) | .generator _ (.run (.pace _))
  | .generator _ (.run .sendFails) | .generator _ (.run (.complete ..))
  | .generator _ (.arrive _) | .generator _ (.receive _) | .generator _ .disconnect
  | .generator _ (.setUp _) | .generator _ .send | .generator _ .sendFails
  | .task .. | .commandTask .. | .deliver _ | .run _ => inferInstanceAs (Decidable True)

/-! Both generators have a transaction in flight after the only step. -/

section TwoDrains

def Event.succeeds : Event → Bool
  | .task _ succeeds | .commandTask _ succeeds => succeeds
  | .generator _ .disconnect | .generator _ (.setUp (.error _)) | .generator _ .sendFails
  | .generator _ (.run .sendFails) => false
  | .run .proceeds => true
  | .run _ => false
  | _ => true

/-- No call fails. -/
def NothingFails (_ : LoadTestRunner) (event : Event) : Prop := event.succeeds

/-- Until the drain loop has found the transaction in flight. -/
private def untilInflight : List ReadyHandle.Event :=
  [.report, .pace [], .pace [], .report, .report, .report, .pace [500000000],
    .tick 500000000, .pace [], .pace [], .pace [500000000], .pace [], .pace [], .report,
    .tick 500000000, .report, .report, .report, .report]

/-- The drain round of a generator after a further delay. -/
private def drainsAfter (delay : Duration) : List ReadyHandle.Event :=
  [.tick delay, .report, .tick 1000000000, .report, .report]

private def drainsBoth (delay : Duration) : List Event :=
  untilReady ++ starts 0 ++ starts 1 ++
    (untilInflight ++ drainsAfter 0).map (fun event => .generator 0 (.run event)) ++
    (untilInflight ++ drainsAfter delay).map (fun event => .generator 1 (.run event)) ++
    List.replicate 11 (.run .proceeds)

/-- The second generator reads its clock half a second later. -/
theorem in_step_of_sameSeconds_twoDrains : ∃ runner,
    machine.ReachableBy SameSeconds runner ∧
      runner.ends.map LoadGenerator.drainSeconds = [[1], [1]] ∧ runner.merged.length = 2 ∧
        ∀ address expected actual,
          runner.program ≠ .failed (.collect (.timeMismatch address expected actual)) ∧
            runner.program ≠ .exited (.collect (.timeMismatch address expected actual)) := by
  rcases machine.exists_reachableBy_of_exec
    (fun runner event => of_decide_eq_true (p := SameSeconds runner event))
    twoGenerators_initial (drainsBoth 500000000)
    (fun runner => decide (runner.ends.map LoadGenerator.drainSeconds = [[1], [1]] ∧
      runner.merged.length = 2)) (by decide +kernel) with ⟨runner, reachable, checked⟩
  rcases of_decide_eq_true checked with ⟨seconds, two⟩
  exact ⟨runner, reachable, seconds, two, (in_step_of_sameSeconds reachable).1⟩

def hasMismatch : Program → Bool
  | .failed (.collect (.timeMismatch ..)) => true
  | _ => false

theorem exists_mismatch_of_hasMismatch {program : Program} (mismatch : hasMismatch program) :
    ∃ address expected actual,
      program = .failed (.collect (.timeMismatch address expected actual)) := by
  unfold hasMismatch at mismatch
  split at mismatch
  · exact ⟨_, _, _, rfl⟩
  · cases mismatch

/-- The second generator reads its clock one second later, and the run is aborted though
nothing has failed. -/
theorem healthy_run_aborted :
    ¬ ∀ runner, machine.ReachableBy NothingFails runner →
      (∀ link ∈ runner.links, ∀ error, link.generator.result ≠ some (.error error)) →
        ∀ address expected actual,
          runner.program ≠ .failed (.collect (.timeMismatch address expected actual)) := by
  intro healthy
  have permitted : ∀ (runner : LoadTestRunner) (event : Event), event.succeeds = true →
      NothingFails runner event := fun _ _ succeeds => succeeds
  rcases machine.exists_reachableBy_of_exec permitted twoGenerators_initial
    (drainsBoth 1000000000)
    (fun runner => decide (hasMismatch runner.program ∧
      ∀ link ∈ runner.links, link.generator.result = none))
    (by decide +kernel) with ⟨runner, reachable, checked⟩
  rcases of_decide_eq_true checked with ⟨mismatch, running⟩
  rcases exists_mismatch_of_hasMismatch mismatch with ⟨address, expected, actual, programEq⟩
  refine healthy runner reachable ?_ address expected actual programEq
  intro link member error failed
  rw [running link member] at failed
  cases failed

end TwoDrains

end LoadTestRunner

end CreoBench
