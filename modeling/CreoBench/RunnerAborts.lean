import CreoBench.StartBarrier

/-!
# Aborts when a run fails

Every way out of a failing run has its own loop over the generators that are
left, or none.  The first part says which of them leave nobody behind without an
abort.  The second part follows a command to abort from the channel of a started
generator to its stream, which it need not reach before the process exits.
-/

namespace CreoBench

/-- The generator could not be reached, has failed, or has finished. -/
def Handle.isGone : Handle → Bool
  | .unreachable | .configureFailed | .startFailed | .finished | .crashed => true
  | _ => false

theorem Handle.isGone_of_isConfigured {handle : Handle} (configured : handle.isConfigured) :
    handle.isGone = false := by
  cases handle <;> first | rfl | cases configured

namespace LoadTestRunner

/-- Nobody who is still there is left without an abort. -/
def AbortsAll (runner : LoadTestRunner) : Prop :=
  ∀ link ∈ runner.links, link.handle.isGone ∨ link.issued

/-- `run` does not leave on the error of one generator while another one is waiting:
an abort that is sent instead of a start fails only for the last generator, a start fails
only if all starts do, a generator crashes only after all others have finished, and the
reports of a round agree. -/
def LeavesNobody (runner : LoadTestRunner) : Event → Prop
  | .run event =>
      match runner.program, event with
      | .abortConfigured (_ :: remaining), .fails => remaining = []
      | .joinStarts joined, .proceeds =>
          ∀ link, runner.links[joined]? = some link → link.handle = .startFailed →
            ∀ other ∈ runner.links, other.handle = .startFailed
      | .collect handles _ _, .fails => handles.length = 1
      | .collect handles index roundReports, .proceeds =>
          handles[index]? = none → ∀ report ∈ roundReports, ∀ other ∈ roundReports,
            report.targetTime = other.targetTime
      | _, _ => True
  | _ => True

/-- A run that aborts the ready generators leaves those behind that come after a failure. -/
theorem aborts_iff_abortConfigured {runner next : LoadTestRunner} {index : Nat}
    {remaining : List Nat} (sound : runner.Sound)
    (programEq : runner.program = .abortConfigured (index :: remaining))
    (stepped : runner.abortConfigured false index remaining = some next) :
    AbortsAll next ↔ remaining = [] := by
  have expects := sound.expects
  have names := sound.names
  rw [programEq] at expects names
  rcases names with ⟨nodup, bounds⟩
  rcases List.nodup_cons.mp nodup with ⟨absent, -⟩
  unfold LoadTestRunner.abortConfigured at stepped
  split at stepped
  · rename_i impossible
    cases impossible
  · rename_i link found _
    cases stepped
    constructor
    · intro all
      by_contra someLeft
      rcases List.exists_mem_of_ne_nil _ someLeft with ⟨other, member⟩
      have different : index ≠ other := fun same => absent (same ▸ member)
      have otherBound := bounds other (.tail _ member)
      have otherFound := List.getElem?_eq_getElem otherBound
      have inNext : (runner.links.set index { link with issued := true, handle := .aborted })[other]? =
          some runner.links[other] := by
        rw [List.getElem?_set_ne different, otherFound]
      have leftBehind := all _ (List.mem_of_getElem? inNext)
      rcases expects other _ otherFound with ⟨-, fresh, configured⟩ | ⟨notIn, -⟩
      · rcases leftBehind with gone | issued
        · rw [Handle.isGone_of_isConfigured configured] at gone
          cases gone
        · rw [fresh.1] at issued
          cases issued
      · exact notIn (.tail _ member)
    · rintro rfl
      intro otherLink otherMem
      rcases List.mem_iff_getElem?.mp otherMem with ⟨other, otherFound⟩
      change (runner.links.set index _)[other]? = some otherLink at otherFound
      rw [List.getElem?_set] at otherFound
      split_ifs at otherFound with same
      · obtain rfl := Option.some.inj otherFound
        exact .inr rfl
      · rcases expects other otherLink otherFound with ⟨member, -⟩ | ⟨-, failed | ⟨issued, -⟩⟩
        · exact absurd (List.mem_singleton.mp member).symm same
        · left
          rw [failed]
          rfl
        · exact .inr issued
  · cases stepped

/-- A failed start leaves everybody behind who could be started. -/
theorem aborts_iff_joinStart {runner : LoadTestRunner} {joined : Nat} (sound : runner.Sound)
    (programEq : runner.program = .joinStarts joined) :
    AbortsAll (runner.goto (.failed .start)) ↔
      ∀ other ∈ runner.links, other.handle = .startFailed := by
  have expects := sound.expects
  rw [programEq] at expects
  constructor
  · intro all link member
    rcases List.mem_iff_getElem?.mp member with ⟨index, found⟩
    rcases expects index link found with ⟨fresh, ⟨-, starting | failed⟩ | started⟩
    · rcases all link (List.mem_of_getElem? found) with gone | issued
      · rw [starting] at gone
        cases gone
      · rw [fresh.1] at issued
        cases issued
    · exact failed
    · rcases all link (List.mem_of_getElem? found) with gone | issued
      · rw [started] at gone
        cases gone
      · rw [fresh.1] at issued
        cases issued
  · intro all link member
    left
    rw [all link member]
    rfl

/-- A link of a round that is not removed is left behind by an error. -/
theorem not_abortsAll_of_inRound {runner : LoadTestRunner} {handles : List Nat} {index : Nat}
    {roundReports : List IntervalReport} (sound : runner.Sound)
    (programEq : runner.program = .collect handles index roundReports) {generator : Nat}
    (member : generator ∈ handles) {links : List Link}
    (same : links[generator]? = runner.links[generator]?) :
    ∃ link ∈ links, ¬ (link.handle.isGone ∨ link.issued) := by
  have expects := sound.expects
  have names := sound.names
  rw [programEq] at expects names
  have found := List.getElem?_eq_getElem (names.2.1 generator member)
  refine ⟨_, List.mem_of_getElem? (same.trans found), ?_⟩
  rcases expects generator _ found with ⟨fresh, ⟨-, started⟩ | ⟨absent, -⟩⟩
  · rw [started, fresh.1]
    rintro (gone | issued)
    · cases gone
    · cases issued
  · exact absurd member absent

/-- A crash leaves everybody behind who has not finished. -/
theorem aborts_iff_collectFails {runner next : LoadTestRunner} {handles : List Nat}
    {index : Nat} {roundReports : List IntervalReport} (sound : runner.Sound)
    (programEq : runner.program = .collect handles index roundReports)
    (stepped : runner.collectFails handles index = some next) :
    AbortsAll next ↔ handles.length = 1 := by
  rcases Option.bind_eq_some_iff.mp stepped with ⟨generator, turn, rest⟩
  rcases Option.bind_eq_some_iff.mp rest with ⟨link, found, made⟩
  obtain rfl := Option.some.inj made
  have names := sound.names
  have expects := sound.expects
  rw [programEq] at names expects
  have perm := List.swapRemove_perm turn
  rcases List.nodup_cons.mp (perm.nodup_iff.mp names.1) with ⟨absent, -⟩
  constructor
  · intro all
    by_contra several
    have someLeft : handles.swapRemove index ≠ [] := by
      intro none
      rw [none] at perm
      exact several perm.length_eq
    rcases List.exists_mem_of_ne_nil _ someLeft with ⟨other, member⟩
    have different : generator ≠ other := fun same => absent (same ▸ member)
    have unchanged :
        (runner.links.set generator { link with handle := .crashed })[other]? =
          runner.links[other]? := List.getElem?_set_ne different
    rcases not_abortsAll_of_inRound sound programEq (perm.mem_iff.mpr (.tail _ member))
      unchanged with ⟨left, leftMem, leftBehind⟩
    exact leftBehind (all left leftMem)
  · intro single
    rcases List.length_eq_one_iff.mp single with ⟨only, rfl⟩
    obtain rfl := List.mem_singleton.mp (List.mem_of_getElem? turn)
    intro otherLink otherMem
    rcases List.mem_iff_getElem?.mp otherMem with ⟨other, otherFound⟩
    change (runner.links.set generator _)[other]? = some otherLink at otherFound
    rw [List.getElem?_set] at otherFound
    split_ifs at otherFound with same
    · obtain rfl := Option.some.inj otherFound
      exact .inl rfl
    · rcases expects other otherLink otherFound with ⟨-, ⟨member, -⟩ | ⟨-, finished⟩⟩
      · exact absurd (List.mem_singleton.mp member).symm same
      · left
        rw [finished]
        rfl

/-- Reports that disagree end a run that has aborted nobody. -/
theorem aborts_iff_merge {runner : LoadTestRunner} {handles : List Nat} {index : Nat}
    {roundReports : List IntervalReport} {error : Error} (sound : runner.Sound)
    (programEq : runner.program = .collect handles index roundReports)
    (failed : (runner.merge handles roundReports).program = .failed error) :
    AbortsAll (runner.merge handles roundReports) ↔
      ∀ report ∈ roundReports, ∀ other ∈ roundReports,
        report.targetTime = other.targetTime := by
  have names := sound.names
  rw [programEq] at names
  have reported : roundReports ≠ [] := by
    rintro rfl
    cases failed
  have someHandle : handles ≠ [] := by
    rintro rfl
    exact reported (List.length_eq_zero_iff.mp (names.2.2.2.trans (Nat.le_zero.mp names.2.2.1)))
  rcases List.exists_mem_of_ne_nil _ someHandle with ⟨generator, member⟩
  have sameLinks : (runner.merge handles roundReports).links = runner.links := by
    unfold LoadTestRunner.merge
    split <;> rfl
  constructor
  · intro all
    rcases not_abortsAll_of_inRound sound programEq member rfl with ⟨left, leftMem, leftBehind⟩
    exact absurd (all left (sameLinks ▸ leftMem)) leftBehind
  · intro agree
    rcases mergeRound_agree (runner.handlesAt handles) reported agree with ⟨merged, mergedEq, -⟩
    simp only [LoadTestRunner.merge, mergedEq] at failed
    cases failed

/-- At every exit of a failing run: nobody is left behind exactly if the exit is one of
those that leave nobody behind. -/
theorem aborts_iff_leavesNobody {runner next : LoadTestRunner} {event : RunEvent}
    {error : Error} (sound : runner.Sound) (stepped : runner.stepRun event = some next)
    (failed : next.program = .failed error) :
    AbortsAll next ↔ runner.LeavesNobody (.run event) := by
  have expects := sound.expects
  revert stepped
  unfold LeavesNobody
  fun_cases LoadTestRunner.stepRun runner event
  all_goals
    rename_i programEq
    first
      | (rw [programEq] at expects ⊢; intro stepped)
      | simp
  case case1 joined =>
    unfold LoadTestRunner.joinConnect allConnected at stepped
    split at stepped <;> split_ifs at stepped <;> cases stepped <;> cases failed
  case case3 index remaining =>
    unfold LoadTestRunner.abortConnected at stepped
    split at stepped <;> cases stepped <;> cases failed
  case case4 index remaining =>
    unfold LoadTestRunner.abortConnected at stepped
    split at stepped <;> cases stepped <;> cases failed
  case case5 index remaining | case6 index remaining =>
    unfold LoadTestRunner.awaitAborted at stepped
    split at stepped <;> [split_ifs at stepped; skip] <;> cases stepped <;> cases failed
  case case7 joined =>
    unfold LoadTestRunner.joinConfigure allReady at stepped
    split at stepped <;> split_ifs at stepped <;> cases stepped <;> cases failed
  case case9 index remaining =>
    unfold LoadTestRunner.abortConfigured at stepped
    split at stepped
    · cases stepped
      cases failed
    · rename_i impossible
      cases impossible
    · cases stepped
  case case10 => exact aborts_iff_abortConfigured sound programEq stepped
  case case11 joined =>
    unfold LoadTestRunner.joinStart at stepped
    split at stepped
    · cases stepped
      cases failed
    · rename_i link found
      split_ifs at stepped with running startFailed <;> cases stepped
      · refine (aborts_iff_joinStart sound programEq).trans ⟨fun all _ _ _ => all, ?_⟩
        intro all
        exact all link found startFailed
      · cases failed
  case case15 index remaining =>
    rcases Option.bind_eq_some_iff.mp stepped with ⟨link, -, rest⟩
    rcases Option.bind_eq_some_iff.mp rest with ⟨changed, -, made⟩
    obtain rfl := Option.some.inj made
    cases failed
  case case16 handles index roundReports =>
    unfold LoadTestRunner.collectNext at stepped
    split at stepped
    · rename_i roundEnd
      cases stepped
      refine (aborts_iff_merge sound programEq failed).trans ⟨fun agree _ => agree, ?_⟩
      intro agree
      exact agree roundEnd
    · rcases Option.bind_eq_some_iff.mp stepped with ⟨link, -, rest⟩
      rcases Option.bind_eq_some_iff.mp rest with ⟨update, -, made⟩
      obtain rfl := Option.some.inj made
      cases update <;> cases failed
  case case17 => exact aborts_iff_collectFails sound programEq stepped
  all_goals cases stepped
  case case12 | case13 | case18 | case19 | case20 | case21 | case24 => cases failed
  all_goals
    -- Nobody is left at the remaining exits.
    refine ⟨fun _ => trivial, fun _ link member => ?_⟩
    rcases List.mem_iff_getElem?.mp member with ⟨index, found⟩
    have expected := expects index link found
  case case2 | case8 =>
    rcases expected with ⟨member, -⟩ | ⟨-, gone | ⟨issued, -⟩⟩
    · cases member
    · left
      rw [gone]
      rfl
    · exact .inr issued
  case case14 =>
    rcases expected with ⟨member, -⟩ | ⟨-, finished | ⟨issued, -⟩⟩
    · cases member
    · left
      rw [finished]
      rfl
    · exact .inr issued
  case case22 | case23 =>
    left
    rw [expected.2]
    rfl

/-- A task that runs on after `run` has failed leaves nobody behind either. -/
theorem AbortsAll.stepLink {runner next : LoadTestRunner} {index : Nat}
    {change : Link → Option Link} (all : AbortsAll runner)
    (stepped : runner.stepLink index change = some next)
    (changes : ∀ link changed, change link = some changed →
      link.handle.isGone ∨ link.issued → changed.handle.isGone ∨ changed.issued) :
    AbortsAll next := by
  rcases Option.bind_eq_some_iff.mp stepped with ⟨link, found, rest⟩
  rcases Option.bind_eq_some_iff.mp rest with ⟨changed, changedEq, made⟩
  obtain rfl := Option.some.inj made
  intro other otherMem
  rcases List.mem_or_eq_of_mem_set otherMem with old | rfl
  · exact all other old
  · exact changes link other changedEq (all link (List.mem_of_getElem? found))

theorem stepRun_failed {runner next : LoadTestRunner} {event : RunEvent} {error : Error}
    (failed : runner.program = .failed error) (stepped : runner.stepRun event = some next) :
    next = runner.goto (.exited error) := by
  cases event <;> simp only [LoadTestRunner.stepRun, failed] at stepped <;> cases stepped
  rfl

theorem AbortsAll.step {runner next : LoadTestRunner} {event : Event} {error : Error}
    (all : AbortsAll runner) (failed : runner.program = .failed error)
    (stepped : runner.step event = some next) : AbortsAll next := by
  cases event with
  | task index succeeds =>
      refine all.stepLink (stepLink_of_stepTask stepped) fun link changed moved settled => ?_
      rcases Link.task_cases moved with ⟨running, -, issued, -⟩
      rcases settled with gone | before
      · rcases running with ⟨handle, -⟩ | ⟨handle, -⟩ | ⟨handle, -⟩ | ⟨handle, -⟩ <;>
          rw [handle] at gone <;> cases gone
      · exact .inr (issued.trans before)
  | commandTask index succeeds =>
      refine all.stepLink (stepLink_of_stepTask stepped) fun link changed moved settled => ?_
      rcases Link.stepCommandTask_keeps moved with ⟨-, handle, issued, -⟩
      rw [handle, issued]
      exact settled
  | deliver index =>
      refine all.stepLink stepped fun link changed moved settled => ?_
      rcases Option.map_eq_some_iff.mp moved with ⟨message, -, rfl⟩
      exact settled
  | generator index event =>
      refine all.stepLink stepped fun link changed moved settled => ?_
      rcases Link.stepGenerator_eq_some moved with ⟨generator, -, -, rfl⟩
      exact settled
  | run event =>
      obtain rfl := stepRun_failed failed stepped
      exact all

/-- Tasks, network and generators do not move the program. -/
theorem program_of_step {runner next : LoadTestRunner} {event : Event}
    (stepped : runner.step event = some next) (notRun : ∀ runEvent, event ≠ .run runEvent) :
    next.program = runner.program := by
  have ofLink : ∀ {index : Nat} {change : Link → Option Link},
      runner.stepLink index change = some next → next.program = runner.program := by
    intro index change moved
    rcases Option.bind_eq_some_iff.mp moved with ⟨link, -, rest⟩
    rcases Option.bind_eq_some_iff.mp rest with ⟨changed, -, made⟩
    obtain rfl := Option.some.inj made
    rfl
  cases event with
  | task index succeeds | commandTask index succeeds => exact ofLink (stepLink_of_stepTask stepped)
  | deliver index | generator index event => exact ofLink stepped
  | run runEvent => exact absurd rfl (notRun runEvent)

/-- When `run` fails, nobody is left behind. -/
def FailsAborted (runner : LoadTestRunner) : Prop :=
  ∀ error, runner.program = .failed error → AbortsAll runner

theorem failsAborted_of_reachableBy {runner : LoadTestRunner}
    (reachable : machine.ReachableBy LeavesNobody runner) : FailsAborted runner := by
  apply reachable.invariant_of_known (fun _ => sound_of_reachable)
  · rintro _ ⟨config, -, -, rfl⟩ error failed
    cases failed
  · intro before event next sound ih allowed stepped error failed
    by_cases ofRun : ∃ runEvent, event = .run runEvent
    · rcases ofRun with ⟨runEvent, rfl⟩
      exact (aborts_iff_leavesNobody sound stepped failed).mpr allowed
    · have same := program_of_step stepped (not_exists.mp ofRun)
      rw [same] at failed
      exact (ih error failed).step failed stepped

/-- A run that fails has issued an abort to everybody who is still there if it takes none
of the exits that leave somebody behind; and at those exits it has not. -/
theorem aborts_everyone (runner : LoadTestRunner) :
    (∀ error, machine.ReachableBy LeavesNobody runner → runner.program = .failed error →
      AbortsAll runner) ∧
    ∀ event next error, machine.Reachable runner →
      machine.step runner (.run event) = some next → next.program = .failed error →
        (AbortsAll next ↔ runner.LeavesNobody (.run event)) :=
  ⟨fun error reachable failed => failsAborted_of_reachableBy reachable error failed,
    fun _ _ _ reachable stepped failed =>
      aborts_iff_leavesNobody (sound_of_reachable reachable) stepped failed⟩

section TwoGenerators

/-- Steps before the exits that may leave somebody behind. -/
private def beforeReady (runner : LoadTestRunner) (_event : Event) : Bool :=
  match runner.program with
  | .abortConfigured _ | .joinStarts _ | .collect _ _ _ => false
  | _ => true

/-- The second generator is aborted because the first one was not reached. -/
theorem aborts_everyone_unreachable : ∃ runner error, machine.Reachable runner ∧
    runner.program = .failed error ∧ AbortsAll runner ∧
      ∃ link ∈ runner.links, link.handle.isGone = false := by
  have permitted : ∀ runner event, beforeReady runner event → LeavesNobody runner event := by
    intro runner event allowed
    unfold beforeReady at allowed
    unfold LeavesNobody
    split
    · split
      case h_5 => trivial
      all_goals
        rename_i programEq
        rw [programEq] at allowed
        cases allowed
    · trivial
  rcases machine.exists_reachableBy_of_exec permitted twoGenerators_initial
    [.task 0 false, .task 1 true, .run .proceeds, .run .proceeds, .run .proceeds,
      .run .proceeds, .run .fails, .run .proceeds]
    (fun runner => decide (runner.program = .failed .connect ∧
      ∃ link ∈ runner.links, link.handle.isGone = false))
    (by decide) with ⟨runner, reachable, checked⟩
  rcases of_decide_eq_true checked with ⟨failed, left⟩
  exact ⟨runner, _, reachable.reachable, failed,
    (aborts_everyone runner).1 _ reachable failed, left⟩

/-- A generator crashes before its first report, and the other one runs on. -/
theorem leaves_behind_when_crashed : ¬ ∀ runner error, machine.Reachable runner →
    runner.program = .failed error → AbortsAll runner := by
  intro all
  rcases machine.exists_reachable_of_exec twoGenerators_initial
    (untilReady ++ [.task 0 true, .task 1 true, .run .proceeds, .run .proceeds, .run .proceeds,
      .run .proceeds, .run .fails])
    (fun runner => decide (runner.program = .failed (.collect (.instanceCrashed "127.0.0.1:8000")) ∧
      ∃ link ∈ runner.links, link.handle.isGone = false ∧ link.issued = false))
    (by decide) with ⟨runner, reachable, checked⟩
  rcases of_decide_eq_true checked with ⟨failed, link, member, there, unissued⟩
  rcases all runner _ reachable failed link member with gone | issued
  · rw [there] at gone
    cases gone
  · rw [unissued] at issued
    cases issued

end TwoGenerators

/-! ## From the channel to the stream -/

/-- Every abort that `send_abort` has accepted was written to its stream, or could not
be. -/
def AbortsWritten (runner : LoadTestRunner) : Prop :=
  ∀ link ∈ runner.links, link.queued → .command .abort ∈ link.sent ∨ link.commandTask = .ended

/-- The process exits only when no accepted abort is left in a channel or half written. -/
def ExitsDrained (runner : LoadTestRunner) : Event → Prop
  | .run _ => ∀ error, runner.program = .failed error →
      ∀ link ∈ runner.links, link.queued → link.commands = [] ∧ link.commandTask ≠ .sending .abort
  | _ => True

/-- Network and generators leave the streams of an exited process alone. -/
theorem AbortsWritten.stepLink {runner next : LoadTestRunner} {index : Nat}
    {change : Link → Option Link} (written : AbortsWritten runner)
    (stepped : runner.stepLink index change = some next)
    (changes : ∀ link changed, change link = some changed →
      changed.queued = link.queued ∧ changed.sent = link.sent ∧
        changed.commandTask = link.commandTask) : AbortsWritten next := by
  rcases Option.bind_eq_some_iff.mp stepped with ⟨link, found, rest⟩
  rcases Option.bind_eq_some_iff.mp rest with ⟨changed, changedEq, made⟩
  obtain rfl := Option.some.inj made
  intro other otherMem queued
  rcases List.mem_or_eq_of_mem_set otherMem with old | rfl
  · exact written other old queued
  · rcases changes link other changedEq with ⟨same, sent, task⟩
    rw [sent, task]
    exact written link (List.mem_of_getElem? found) (same ▸ queued)

theorem AbortsWritten.step {runner next : LoadTestRunner} {event : Event} {error : Error}
    (written : AbortsWritten runner) (exited : runner.program = .exited error)
    (stepped : runner.step event = some next) : AbortsWritten next := by
  cases event with
  | task index succeeds | commandTask index succeeds =>
      simp [LoadTestRunner.step, stepTask, exited, hasExited] at stepped
  | deliver index =>
      refine written.stepLink stepped fun link changed moved => ?_
      rcases Option.map_eq_some_iff.mp moved with ⟨message, -, rfl⟩
      exact ⟨rfl, rfl, rfl⟩
  | generator index event =>
      refine written.stepLink stepped fun link changed moved => ?_
      rcases Link.stepGenerator_eq_some moved with ⟨generator, -, -, rfl⟩
      exact ⟨rfl, rfl, rfl⟩
  | run event =>
      cases event <;> simp only [LoadTestRunner.step, LoadTestRunner.stepRun, exited] at stepped <;>
        cases stepped

def Program.isFailed : Program → Bool
  | .failed _ => true
  | _ => false

/-- Once the process has exited, every accepted abort is written. -/
def ExitsWritten (runner : LoadTestRunner) : Prop :=
  ∀ error, runner.program = .exited error → AbortsWritten runner

section TwoGenerators

/-- Both generators are started, and `interval.csv` cannot be created. -/
private def untilAborted : List Event :=
  untilReady ++ [.task 0 true, .task 1 true, .run .proceeds, .run .proceeds, .run .proceeds,
    .run .fails, .run .proceeds, .run .proceeds, .run .proceeds]

private def isDrained (runner : LoadTestRunner) : Event → Bool
  | .run _ => decide ((∀ link ∈ runner.links,
      link.commands = [] ∧ link.commandTask ≠ .sending .abort) ∨
        runner.program.isFailed = false)
  | _ => true

end TwoGenerators

end LoadTestRunner

end CreoBench
