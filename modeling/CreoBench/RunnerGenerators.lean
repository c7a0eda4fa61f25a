import CreoBench.StartBarrier

/-!
# The generators of a run

Most steps of a run leave all generators alone: only a message that arrives and a
step of a generator itself change one of them.  So what each generator keeps by
itself, it keeps in every run.
-/

namespace CreoBench

/-- The tasks of the orchestrator touch neither the generator nor its updates. -/
theorem Link.untouched_of_task {link next : Link} {succeeds : Bool}
    (stepped : link.task succeeds = some next) :
    next.generator = link.generator ∧ next.received = link.received := by
  revert stepped
  fun_cases Link.task link succeeds <;> intro stepped
  case case5 =>
    rcases Option.map_eq_some_iff.mp stepped with ⟨response, -, rfl⟩
    exact ⟨rfl, rfl⟩
  case case9 => cases stepped
  all_goals
    cases stepped
    exact ⟨rfl, rfl⟩

theorem Link.untouched_of_stepCommandTask {link next : Link} {succeeds : Bool}
    (stepped : link.stepCommandTask succeeds = some next) :
    next.generator = link.generator ∧ next.received = link.received := by
  unfold Link.stepCommandTask at stepped
  split at stepped <;> cases stepped <;> exact ⟨rfl, rfl⟩

namespace LoadTestRunner

/-- The generators at the other ends of the links. -/
def ends (runner : LoadTestRunner) : List LoadGenerator :=
  runner.links.map (·.generator)

theorem eq_new_of_mem_ends {config : LoadTestConfig} {generator : LoadGenerator}
    (member : generator ∈ (new config).ends) : generator = .new := by
  rcases List.mem_map.mp member with ⟨link, linkMem, rfl⟩
  rcases exists_new_of_mem_links linkMem with ⟨address, share, rfl⟩
  rfl

theorem ends_updateLink (runner : LoadTestRunner) (index : Nat) (changed : Link)
    (program : Program) :
    (runner.updateLink index changed program).ends =
      runner.ends.set index changed.generator :=
  List.map_set

theorem ends_updateLink_same {runner : LoadTestRunner} {index : Nat} {link changed : Link}
    (program : Program) (found : runner.links[index]? = some link)
    (same : changed.generator = link.generator) :
    (runner.updateLink index changed program).ends = runner.ends := by
  rw [ends_updateLink, same]
  exact List.set_eq_self_of_getElem? (by rw [ends, List.getElem?_map, found]; rfl)

theorem ends_spawn (runner : LoadTestRunner) (handle : Handle) (program : Program) :
    (runner.spawn handle program).ends = runner.ends := by
  change (runner.links.map _).map _ = _
  rw [List.map_map]
  rfl

section Steps

variable {runner next : LoadTestRunner} {succeeds : Bool} {index joined : Nat}
variable {remaining handles : List Nat} {roundReports : List IntervalReport}

theorem ends_joinConnect (stepped : runner.joinConnect joined = some next) :
    next.ends = runner.ends := by
  unfold joinConnect at stepped
  split at stepped
  · cases stepped
    unfold allConnected
    split_ifs
    · exact ends_spawn ..
    · rfl
  · split_ifs at stepped
    cases stepped
    rfl

theorem ends_joinConfigure (stepped : runner.joinConfigure joined = some next) :
    next.ends = runner.ends := by
  unfold joinConfigure at stepped
  split at stepped
  · cases stepped
    unfold allReady
    split_ifs
    · exact ends_spawn ..
    · rfl
  · split_ifs at stepped
    cases stepped
    rfl

theorem ends_joinStart (stepped : runner.joinStart joined = some next) :
    next.ends = runner.ends := by
  unfold joinStart at stepped
  split at stepped
  · cases stepped
    rfl
  · split_ifs at stepped <;> cases stepped <;> rfl

theorem ends_abortConnected (stepped : runner.abortConnected succeeds index remaining = some next) :
    next.ends = runner.ends := by
  unfold abortConnected at stepped
  split at stepped <;> cases stepped <;> rename_i found <;>
    exact ends_updateLink_same _ found rfl

theorem ends_awaitAborted (stepped : runner.awaitAborted succeeds index remaining = some next) :
    next.ends = runner.ends := by
  unfold awaitAborted at stepped
  split at stepped
  · rename_i link found
    split_ifs at stepped
    cases stepped
    exact ends_updateLink_same _ found rfl
  · cases stepped

theorem ends_abortConfigured
    (stepped : runner.abortConfigured succeeds index remaining = some next) :
    next.ends = runner.ends := by
  unfold abortConfigured at stepped
  split at stepped <;> cases stepped <;> rename_i found <;>
    exact ends_updateLink_same _ found rfl

theorem ends_abortStarted (stepped : runner.abortStarted index remaining = some next) :
    next.ends = runner.ends := by
  rcases Option.bind_eq_some_iff.mp stepped with ⟨link, found, rest⟩
  rcases Option.bind_eq_some_iff.mp rest with ⟨changed, aborted, made⟩
  obtain rfl := Option.some.inj made
  apply ends_updateLink_same _ found
  unfold Link.sendAbort at aborted
  split at aborted <;> cases aborted <;> rfl

theorem ends_collectNext (stepped : runner.collectNext handles index roundReports = some next) :
    next.ends = runner.ends := by
  unfold collectNext at stepped
  split at stepped
  · cases stepped
    unfold merge
    split <;> rfl
  · rcases Option.bind_eq_some_iff.mp stepped with ⟨link, found, rest⟩
    rcases Option.bind_eq_some_iff.mp rest with ⟨update, -, made⟩
    obtain rfl := Option.some.inj made
    cases update with
    | intervalReport report =>
        exact ends_updateLink_same
          (.collect handles (index + 1) (roundReports ++ [report])) found rfl
    | finished =>
        exact ends_updateLink_same
          (.collect (handles.swapRemove index) index roundReports) found rfl

theorem ends_collectFails (stepped : runner.collectFails handles index = some next) :
    next.ends = runner.ends := by
  rcases Option.bind_eq_some_iff.mp stepped with ⟨generator, -, rest⟩
  rcases Option.bind_eq_some_iff.mp rest with ⟨link, found, made⟩
  obtain rfl := Option.some.inj made
  exact ends_updateLink_same _ found rfl

theorem ends_of_stepRun {event : RunEvent} (stepped : runner.stepRun event = some next) :
    next.ends = runner.ends := by
  revert stepped
  fun_cases LoadTestRunner.stepRun runner event <;> intro stepped
  case case1 => exact ends_joinConnect stepped
  case case3 | case4 => exact ends_abortConnected stepped
  case case5 | case6 => exact ends_awaitAborted stepped
  case case7 => exact ends_joinConfigure stepped
  case case9 | case10 => exact ends_abortConfigured stepped
  case case11 => exact ends_joinStart stepped
  case case15 => exact ends_abortStarted stepped
  case case16 => exact ends_collectNext stepped
  case case17 => exact ends_collectFails stepped
  all_goals
    cases stepped
    try rfl

/-- What a step of a run does to the generators. -/
inductive EndsStep (runner next : LoadTestRunner) (event : Event) : Prop
  | same (endsEq : next.ends = runner.ends)
  | arrived {index : Nat} {generator : LoadGenerator} {message : Message}
      (found : runner.ends[index]? = some generator)
      (endsEq : next.ends = runner.ends.set index (generator.arrive message))
  | moved {index : Nat} {generator generator' : LoadGenerator} {move : LoadGenerator.Event}
      (eventEq : event = .generator index move)
      (found : runner.ends[index]? = some generator)
      (stepped : generator.step move = some generator')
      (endsEq : next.ends = runner.ends.set index generator')

theorem ends_of_stepLink_same {change : Link → Option Link}
    (stepped : runner.stepLink index change = some next)
    (same : ∀ link changed, change link = some changed →
      changed.generator = link.generator) : next.ends = runner.ends := by
  rcases Option.bind_eq_some_iff.mp stepped with ⟨link, found, rest⟩
  rcases Option.bind_eq_some_iff.mp rest with ⟨changed, changedEq, made⟩
  obtain rfl := Option.some.inj made
  exact ends_updateLink_same _ found (same link changed changedEq)

theorem endsStep_of_step {event : Event} (stepped : runner.step event = some next) :
    EndsStep runner next event := by
  cases event with
  | task index succeeds =>
      exact .same (ends_of_stepLink_same (stepLink_of_stepTask stepped)
        fun _ _ moved => (Link.untouched_of_task moved).1)
  | commandTask index succeeds =>
      exact .same (ends_of_stepLink_same (stepLink_of_stepTask stepped)
        fun _ _ moved => (Link.untouched_of_stepCommandTask moved).1)
  | deliver index =>
      rcases Option.bind_eq_some_iff.mp stepped with ⟨link, found, rest⟩
      rcases Option.bind_eq_some_iff.mp rest with ⟨changed, delivered, made⟩
      obtain rfl := Option.some.inj made
      rcases Option.map_eq_some_iff.mp delivered with ⟨message, -, rfl⟩
      have inEnds : runner.ends[index]? = some link.generator := by
        rw [ends, List.getElem?_map, found]
        rfl
      exact .arrived inEnds (ends_updateLink ..)
  | generator index move =>
      rcases Option.bind_eq_some_iff.mp stepped with ⟨link, found, rest⟩
      rcases Option.bind_eq_some_iff.mp rest with ⟨changed, changedEq, made⟩
      obtain rfl := Option.some.inj made
      rcases Link.stepGenerator_eq_some changedEq with ⟨generator, -, moved, rfl⟩
      have inEnds : runner.ends[index]? = some link.generator := by
        rw [ends, List.getElem?_map, found]
        rfl
      exact .moved rfl inEnds moved (ends_updateLink ..)
  | run event => exact .same (ends_of_stepRun stepped)

end Steps

end LoadTestRunner

end CreoBench
