import CreoBench.DrainSync
import CreoBench.GeneratorProgress

/-!
# A run can come to its end

The orchestrator waits for its generators and they wait for it: tasks for responses,
`serve` for messages, the collector for updates.  As long as nothing has failed, this
never locks up: a run in which nothing fails leads on to the end of `run`.  The links
advance one after the other up to what the program waits for, then the program does.
-/

namespace CreoBench

/-! ## What a link can get to -/

/-- Not a disconnect, a failing send, or a failing setup. -/
def LoadGenerator.Event.works : LoadGenerator.Event → Bool
  | .disconnect | .sendFails | .setUp (.error _) | .run .sendFails => false
  | _ => true

namespace Link

/-- What a link does by itself. -/
inductive Move where
  | task
  | deliver
  | generator (event : LoadGenerator.Event)

def Move.works : Move → Bool
  | .generator event => event.works
  | _ => true

def move (link : Link) : Move → Option Link
  | .task => link.task true
  | .deliver => link.deliver
  | .generator event => link.stepGenerator event

/-- A link of which nobody takes notice. -/
def machine : Machine Link Move where
  initial link := ∃ address config, link = .new address config
  step := move

/-- The link can get somewhere without a failure. -/
abbrev CanReach (goal : Link → Prop) : Link → Prop :=
  machine.CanReach (fun _ move => move.works) goal

end Link

/-! ## What has not failed -/

open ReadyHandle in
/-- `serve` has not failed, and the clock is exact if a drain round is about to read it. -/
def LoadGenerator.Position.Unharmed : LoadGenerator.Position → Prop
  | .started handle => handle.reporter ≠ .failed ∧
      ∀ timeZero, handle.reporter = .clock timeZero → ExactSeconds handle.now
  | .sendAborted | .sendSetupFailed _ | .failed _ => False
  | _ => True

def Handle.isUnharmed : Handle → Bool
  | .unreachable | .abortSent | .aborted | .configureFailed | .startFailed | .crashed => false
  | _ => true

namespace Link

structure Unharmed (link : Link) : Prop where
  handle : link.handle.isUnharmed
  position : link.generator.position.Unharmed

/-- A link on which nothing has failed, whose profile can be scheduled. -/
structure Going (link : Link) : Prop where
  sound : link.Sound
  unharmed : link.Unharmed
  converts : ScheduledStep.fromProfile link.config.profile ≠ none

section Moves

variable {link next : Link} {goal : Link → Prop}

theorem CanReach.task (moved : link.task true = some next) (canReach : next.CanReach goal) :
    link.CanReach goal :=
  .step (show Move.task.works = true from rfl) moved canReach

theorem CanReach.deliver (moved : link.deliver = some next) (canReach : next.CanReach goal) :
    link.CanReach goal :=
  .step (show Move.deliver.works = true from rfl) moved canReach

theorem stepGenerator_of_step {event : LoadGenerator.Event} {generator : LoadGenerator}
    (moved : link.generator.step event = some generator)
    (other : ∀ message, event ≠ .arrive message) :
    link.stepGenerator event = some { link with generator } := by
  cases event
  case arrive message => exact absurd rfl (other message)
  all_goals
    rw [stepGenerator, moved]
    · rfl
    · simp

theorem CanReach.generator {event : LoadGenerator.Event} (works : event.works)
    (moved : link.stepGenerator event = some next) (canReach : next.CanReach goal) :
    link.CanReach goal :=
  .step (show (Move.generator event).works = true from works) moved canReach

theorem Going.task (going : link.Going) (moved : link.task true = some next)
    (unharmed : next.Unharmed) : next.Going :=
  ⟨going.sound.task moved, unharmed, by rw [(task_cases moved).2.1]; exact going.converts⟩

theorem Going.deliver (going : link.Going) (moved : link.deliver = some next) : next.Going := by
  have sound := going.sound.deliver moved
  rcases Option.map_eq_some_iff.mp moved with ⟨message, -, rfl⟩
  exact ⟨sound, ⟨going.unharmed.handle, going.unharmed.position⟩, going.converts⟩

theorem Going.generator {event : LoadGenerator.Event} (going : link.Going)
    (moved : link.stepGenerator event = some next)
    (unharmed : next.generator.position.Unharmed) : next.Going := by
  have sound := going.sound.stepGenerator moved
  rcases stepGenerator_eq_some moved with ⟨generator, -, -, rfl⟩
  exact ⟨sound, ⟨going.unharmed.handle, unharmed⟩, going.converts⟩

end Moves

/-! ## Up to the response -/

theorem canReach_connected {link : Link} (going : link.Going)
    (handle : link.handle = .connecting ∨ link.handle = .connected) :
    link.CanReach fun next => next.Going ∧ next.handle = .connected := by
  rcases handle with connecting | connected
  · have moved : link.task true = some { link with handle := .connected } := by
      simp only [Link.task, connecting]
    exact .task moved (.here ⟨going.task moved ⟨rfl, going.unharmed.position⟩, rfl⟩)
  · exact .here ⟨going, connected⟩

section Configures

variable {link : Link} {config : LoadGeneratorConfig} {info : GeneratorInfo}

/-- The goal of the second phase. -/
def IsReady (link : Link) : Prop := link.Going ∧ link.handle.isConfigured

theorem canReach_ready_of_answered (going : link.Going) (configSent : link.handle = .configSent)
    (answered : link.generator.answered = some (.ready info)) : link.CanReach IsReady := by
  have moved : link.task true = some { link with handle := .configured info } := by
    simp only [Link.task, configSent, answered]
    rfl
  exact .task moved (.here ⟨going.task moved ⟨rfl, going.unharmed.position⟩, rfl⟩)

theorem canReach_ready_of_sendReady (going : link.Going)
    (configSent : link.handle = .configSent)
    (position : link.generator.position = .sendReady info config) : link.CanReach IsReady := by
  let generator : LoadGenerator :=
    { link.generator with answered := some (.ready info), position := .waitForCommand config }
  have moved : link.stepGenerator .send = some { link with generator } := by
    refine stepGenerator_of_step ?_ nofun
    simp only [LoadGenerator.step, position, LoadGenerator.Position.response]
    rfl
  refine .generator rfl moved ?_
  exact canReach_ready_of_answered (going.generator moved trivial) configSent rfl

theorem canReach_ready_of_setUp (going : link.Going) (configSent : link.handle = .configSent)
    (position : link.generator.position = .setUp config) : link.CanReach IsReady := by
  let info : GeneratorInfo := ⟨"", "", "", 0, 0⟩
  let generator : LoadGenerator := { link.generator with position := .sendReady info config }
  have moved : link.stepGenerator (.setUp (.ok info)) = some { link with generator } := by
    refine stepGenerator_of_step ?_ nofun
    simp only [LoadGenerator.step, position]
    rfl
  refine .generator rfl moved ?_
  exact canReach_ready_of_sendReady (going.generator moved trivial) configSent rfl

theorem canReach_ready_of_arrived (going : link.Going) (configSent : link.handle = .configSent)
    (position : link.generator.position = .waitForConfig)
    (arrived : link.generator.arrived[0]? = some (.configure (.config config))) :
    link.CanReach IsReady := by
  let generator : LoadGenerator :=
    { link.generator with read := link.generator.read + 1, position := .setUp config }
  have moved : link.stepGenerator (.receive 0) = some { link with generator } := by
    have read := going.sound.generator.readSoFar
    rw [position] at read
    refine stepGenerator_of_step ?_ nofun
    rw [← show link.generator.read = 0 from read] at arrived
    simp only [LoadGenerator.step, arrived, position, Option.bind_eq_bind, Option.bind_some]
    rfl
  refine .generator rfl moved ?_
  exact canReach_ready_of_setUp (going.generator moved trivial) configSent rfl

theorem sent_of_configSent (going : link.Going) (configSent : link.handle = .configSent) :
    link.sent = [.configure (.config link.config)] := by
  have sends := going.sound.sends
  rw [configSent] at sends
  exact sends

theorem canReach_ready_of_waitForConfig (going : link.Going)
    (configSent : link.handle = .configSent)
    (position : link.generator.position = .waitForConfig) : link.CanReach IsReady := by
  have sent := sent_of_configSent going configSent
  have arrived := going.sound.arrived
  rw [sent] at arrived
  rcases List.prefix_cons_iff.mp arrived with nothing | ⟨rest, all, -⟩
  · let generator := link.generator.arrive (.configure (.config link.config))
    have moved : link.deliver = some { link with generator } := by
      rw [Link.deliver, sent, nothing]
      rfl
    have found : generator.arrived[0]? = some (.configure (.config link.config)) := by
      change (link.generator.arrived ++ _)[0]? = _
      rw [nothing]
      rfl
    exact .deliver moved
      (canReach_ready_of_arrived (going.deliver moved) configSent position found)
  · exact canReach_ready_of_arrived going configSent position (by rw [all]; rfl)

/-- The response of a generator that has been sent its configuration is on its way. -/
theorem canReach_ready_of_configSent (going : link.Going)
    (configSent : link.handle = .configSent) : link.CanReach IsReady := by
  have unharmed := going.unharmed.position
  cases position : link.generator.position with
  | waitForConfig => exact canReach_ready_of_waitForConfig going configSent position
  | setUp config => exact canReach_ready_of_setUp going configSent position
  | sendReady info config => exact canReach_ready_of_sendReady going configSent position
  | waitForCommand config =>
      rcases going.sound.generator.waiting config position with ⟨info, answered⟩
      exact canReach_ready_of_answered going configSent answered
  | started handle =>
      have readSoFar := going.sound.generator.readSoFar
      rw [position] at readSoFar
      have start := going.sound.arrived.getElem?_eq_some readSoFar.1
      rw [sent_of_configSent going configSent] at start
      cases start
  | sendAborted | sendSetupFailed reason | failed error =>
      rw [position] at unharmed
      exact unharmed.elim

theorem canReach_ready (going : link.Going)
    (handle : link.handle = .configuring ∨ link.handle = .configSent ∨
      link.handle.isConfigured) : link.CanReach IsReady := by
  rcases handle with configuring | configSent | configured
  · have moved : link.task true =
        some (link.send (.configure (.config link.config)) .configSent) := by
      simp only [Link.task, configuring]
    refine .task moved ?_
    exact canReach_ready_of_configSent (going.task moved ⟨rfl, going.unharmed.position⟩) rfl
  · exact canReach_ready_of_configSent going configSent
  · exact .here ⟨going, configured⟩

end Configures

theorem canReach_started {link : Link} (going : link.Going)
    (handle : link.handle = .starting ∨ link.handle = .started) :
    link.CanReach fun next => next.Going ∧ next.handle = .started := by
  rcases handle with starting | started
  · have moved : link.task true = some (link.send (.command .start) .started) := by
      simp only [Link.task, starting]
    exact .task moved (.here ⟨going.task moved ⟨rfl, going.unharmed.position⟩, rfl⟩)
  · exact .here ⟨going, started⟩

/-! ## Up to the final update -/

section Finishes

variable {link : Link}

/-- The goal of the load test. -/
def IsDone (link : Link) : Prop := link.Going ∧ link.HasEnded

end Finishes

end Link

namespace LoadTestRunner

/-- Nothing fails on the way. -/
abbrev CanReach (goal : LoadTestRunner → Prop) : LoadTestRunner → Prop :=
  machine.CanReach (fun _ event => event.succeeds) goal

theorem succeeds_generator (index : Nat) (event : LoadGenerator.Event) :
    (Event.generator index event).succeeds = event.works := by
  cases event with
  | setUp outcome => cases outcome <;> rfl
  | run event => cases event <;> rfl
  | arrive | receive | disconnect | send | sendFails => rfl

section Links

variable {runner : LoadTestRunner} {link next : Link} {index : Nat}
variable {goal : Link → Prop} {final : LoadTestRunner → Prop}

theorem exists_step_of_move {move : Link.Move} (found : runner.links[index]? = some link)
    (running : hasExited runner.program = false) (works : move.works)
    (moved : link.move move = some next) :
    ∃ event : Event, event.succeeds ∧
      runner.step event = some (runner.updateLink index next runner.program) := by
  have lifted : ∀ change : Link → Option Link, change link = some next →
      runner.stepLink index change = some (runner.updateLink index next runner.program) := by
    intro change changed
    rw [stepLink, found, Option.bind_eq_bind, Option.bind_some, changed]
    rfl
  cases move with
  | task =>
      refine ⟨.task index true, rfl, ?_⟩
      rw [step, stepTask, running]
      exact lifted _ moved
  | deliver => exact ⟨.deliver index, rfl, lifted _ moved⟩
  | generator event =>
      exact ⟨.generator index event, (succeeds_generator index event).trans works, lifted _ moved⟩

/-- One link advances, and then the run does. -/
theorem canReach_link (canReach : link.CanReach goal) {runner : LoadTestRunner}
    (found : runner.links[index]? = some link) (running : hasExited runner.program = false)
    (goesOn : ∀ next, goal next →
      CanReach final (runner.updateLink index next runner.program)) :
    CanReach final runner := by
  induction canReach generalizing runner with
  | @here link reached =>
      have same : runner.updateLink index link runner.program = runner := by
        rw [updateLink, List.set_eq_self_of_getElem? found]
      rw [← same]
      exact goesOn link reached
  | @step link next move works moved _ ih =>
      rcases exists_step_of_move found running works moved with ⟨event, eventWorks, stepped⟩
      refine .step eventWorks stepped (ih ?_ running fun last reached => ?_)
      · exact List.getElem?_set_self (List.getElem?_eq_some_iff.mp found).1
      · have again : (runner.updateLink index next runner.program).updateLink index last
            runner.program = runner.updateLink index last runner.program := by
          rw [updateLink, updateLink, List.set_set, updateLink]
        exact again ▸ goesOn last reached

theorem canReach_rest (running : hasExited runner.program = false) {rest done : List Link}
    (reached : ∀ link ∈ done, goal link) (each : ∀ link ∈ rest, link.CanReach goal)
    (goesOn : ∀ links, links.length = (done ++ rest).length → (∀ link ∈ links, goal link) →
      CanReach final { runner with links }) :
    CanReach final { runner with links := done ++ rest } := by
  induction rest generalizing done with
  | nil =>
      rw [List.append_nil] at goesOn ⊢
      exact goesOn done rfl reached
  | cons link rest ih =>
      have found : (done ++ link :: rest)[done.length]? = some link := by simp
      refine canReach_link (each link List.mem_cons_self) found running fun next nextReached => ?_
      have moved : (done ++ link :: rest).set done.length next = done ++ [next] ++ rest := by simp
      change CanReach final { runner with links := (done ++ link :: rest).set done.length next }
      rw [moved]
      refine ih ?_ (fun link member => each link (.tail _ member)) fun links length => ?_
      · intro link member
        rcases List.mem_append.mp member with before | last
        · exact reached link before
        · rw [List.mem_singleton.mp last]
          exact nextReached
      · exact goesOn links (length.trans (by simp))

/-- All links advance, one after the other, and then the run does. -/
theorem canReach_links (running : hasExited runner.program = false)
    (each : ∀ link ∈ runner.links, link.CanReach goal)
    (goesOn : ∀ links, links.length = runner.links.length → (∀ link ∈ links, goal link) →
      CanReach final { runner with links }) :
    CanReach final runner := by
  have start : CanReach final { runner with links := [] ++ runner.links } :=
    canReach_rest running (by simp) each goesOn
  exact start

end Links

/-! ## The first three phases -/

/-- Nothing has failed on any link, and all profiles can be scheduled. -/
def Alive (runner : LoadTestRunner) : Prop :=
  ∀ link ∈ runner.links, link.Unharmed ∧ ScheduledStep.fromProfile link.config.profile ≠ none

structure Going (runner : LoadTestRunner) : Prop where
  reachable : machine.Reachable runner
  alive : runner.Alive

section Phases

variable {runner : LoadTestRunner} {joined : Nat}

theorem Going.link (going : runner.Going) {link : Link} (member : link ∈ runner.links) :
    link.Going :=
  ⟨(sound_of_reachable going.reachable).links link member, (going.alive link member).1,
    (going.alive link member).2⟩

/-- What the program expects of a link. -/
theorem Going.exists_expects (going : runner.Going) {link : Link}
    (member : link ∈ runner.links) : ∃ index, runner.program.Expects index link := by
  rcases List.mem_iff_getElem?.mp member with ⟨index, found⟩
  exact ⟨index, (sound_of_reachable going.reachable).expects index link found⟩

/-- The goal of a phase. -/
def Reaches (program : Program) (runner : LoadTestRunner) : Prop :=
  CanReach (fun next => next.Going ∧ next.program = program) runner

theorem reaches_of_alive {program : Program} (reachable : machine.Reachable runner)
    (canReach : CanReach (fun next => next.Alive ∧ next.program = program) runner) :
    runner.Reaches program :=
  (canReach.and_reachable reachable).trans fun _ reached =>
    .here ⟨⟨reached.2, reached.1.1⟩, reached.1.2⟩

theorem CanReach.proceeds {next : LoadTestRunner} {final : LoadTestRunner → Prop}
    (stepped : runner.stepRun .proceeds = some next) (canReach : CanReach final next) :
    CanReach final runner :=
  .step (show (Event.run .proceeds).succeeds = true from rfl) stepped canReach

/-- The program joins its tasks one after the other when all have ended. -/
theorem canReach_of_joins (program : Nat → Program) {final : LoadTestRunner → Prop}
    (joins : ∀ joined link, runner.links[joined]? = some link →
      (runner.goto (program joined)).stepRun .proceeds =
        some (runner.goto (program (joined + 1))))
    (ends : ∀ joined, runner.links[joined]? = none → ∃ next,
      (runner.goto (program joined)).stepRun .proceeds = some next ∧ CanReach final next)
    (joined : Nat) : CanReach final (runner.goto (program joined)) := by
  induction left : runner.links.length - joined generalizing joined with
  | zero =>
      rcases ends joined (List.getElem?_eq_none (by omega)) with ⟨next, stepped, canReach⟩
      exact .proceeds stepped canReach
  | succ left ih =>
      have found := List.getElem?_eq_getElem (by omega : joined < runner.links.length)
      exact .proceeds (joins joined _ found) (ih (joined + 1) (by omega))

/-- All links advance up to where the tasks have ended, and the program joins them. -/
theorem reaches_of_joins (goal : Link → Prop) (program : Nat → Program) {after : Program}
    (going : runner.Going) (programEq : runner.program = program joined)
    (running : hasExited (program joined) = false)
    (each : ∀ link ∈ runner.links, link.CanReach fun next => next.Going ∧ goal next)
    (joins : ∀ (runner : LoadTestRunner) joined link, runner.links[joined]? = some link →
      goal link → (runner.goto (program joined)).stepRun .proceeds =
        some (runner.goto (program (joined + 1))))
    (ends : ∀ (runner : LoadTestRunner) joined, runner.Alive → runner.links[joined]? = none →
      (∀ link ∈ runner.links, goal link) → ∃ next,
        (runner.goto (program joined)).stepRun .proceeds = some next ∧ next.Alive ∧
          next.program = after) :
    runner.Reaches after := by
  apply reaches_of_alive going.reachable
  refine canReach_links (by rw [programEq, running]) each fun links _ reached => ?_
  have atJoin : { runner with links } =
      LoadTestRunner.goto { runner with links } (program joined) := by
    rw [← programEq]
    rfl
  rw [atJoin]
  refine canReach_of_joins program (fun joined link found => ?_) (fun joined beyond => ?_) joined
  · exact joins _ joined link found (reached link (List.mem_of_getElem? found)).2
  · rcases ends { runner with links } joined
      (fun link member => ⟨(reached link member).1.unharmed, (reached link member).1.converts⟩)
      beyond (fun link member => (reached link member).2) with ⟨next, stepped, alive, afterEq⟩
    exact ⟨next, stepped, .here ⟨alive, afterEq⟩⟩

theorem Alive.spawn {handle : Handle} {program : Program} (alive : runner.Alive)
    (unharmed : handle.isUnharmed) : (runner.spawn handle program).Alive := by
  intro link member
  rcases List.mem_map.mp member with ⟨before, beforeMem, rfl⟩
  exact ⟨⟨unharmed, (alive before beforeMem).1.position⟩, (alive before beforeMem).2⟩

theorem reaches_joinConfigures (going : runner.Going)
    (program : runner.program = .joinConnects joined) : runner.Reaches (.joinConfigures 0) := by
  refine reaches_of_joins (·.handle = .connected) .joinConnects going program rfl
    (fun link member => ?_) (fun runner joined link found connected => ?_)
    fun runner joined alive beyond connected => ?_
  · have unharmed := (going.alive link member).1.handle
    rcases going.exists_expects member with ⟨index, expects⟩
    rw [program] at expects
    refine Link.canReach_connected (going.link member) ?_
    rcases expects.2 with ⟨-, connecting⟩ | unreachable | connected
    · exact .inl connecting
    · rw [unreachable] at unharmed
      cases unharmed
    · exact .inr connected
  · change (runner.goto _).joinConnect joined = _
    rw [joinConnect, show (runner.goto (.joinConnects joined)).links = runner.links from rfl, found]
    exact if_neg (by rw [connected]; nofun)
  · have all : runner.links.all (·.handle.isConnected) := by
      rw [List.all_eq_true]
      intro link member
      rw [connected link member]
      rfl
    refine ⟨runner.spawn .configuring (.joinConfigures 0), ?_, alive.spawn rfl, rfl⟩
    change (runner.goto _).joinConnect joined = _
    rw [joinConnect, show (runner.goto (.joinConnects joined)).links = runner.links from rfl, beyond]
    exact congrArg some (if_pos all)

theorem reaches_joinStarts (going : runner.Going)
    (program : runner.program = .joinConfigures joined) : runner.Reaches (.joinStarts 0) := by
  refine reaches_of_joins (·.handle.isConfigured) .joinConfigures going program rfl
    (fun link member => ?_) (fun runner joined link found configured => ?_)
    fun runner joined alive beyond configured => ?_
  · have unharmed := (going.alive link member).1.handle
    rcases going.exists_expects member with ⟨index, expects⟩
    rw [program] at expects
    refine Link.canReach_ready (going.link member) ?_
    rcases expects.2 with ⟨-, configuring | configSent⟩ | failed | configured
    · exact .inl configuring
    · exact .inr (.inl configSent)
    · rw [failed] at unharmed
      cases unharmed
    · exact .inr (.inr configured)
  · change (runner.goto _).joinConfigure joined = _
    rw [joinConfigure, show (runner.goto (.joinConfigures joined)).links = runner.links from rfl,
      found]
    refine if_neg ?_
    rintro (configuring | configSent)
    · rw [configuring] at configured
      cases configured
    · rw [configSent] at configured
      cases configured
  · have all : runner.links.all (·.handle.isConfigured) := List.all_eq_true.mpr configured
    refine ⟨{ runner with generators := runner.readyGenerators }.spawn .starting (.joinStarts 0),
      ?_, Alive.spawn (by exact alive) rfl, rfl⟩
    change (runner.goto _).joinConfigure joined = _
    rw [joinConfigure, show (runner.goto (.joinConfigures joined)).links = runner.links from rfl,
      beyond]
    exact congrArg some (if_pos all)

theorem reaches_createPersisters (going : runner.Going)
    (program : runner.program = .joinStarts joined) : runner.Reaches .createPersisters := by
  refine reaches_of_joins (·.handle = .started) .joinStarts going program rfl
    (fun link member => ?_) (fun runner joined link found started => ?_)
    fun runner joined alive beyond started => ?_
  · have unharmed := (going.alive link member).1.handle
    rcases going.exists_expects member with ⟨index, expects⟩
    rw [program] at expects
    refine Link.canReach_started (going.link member) ?_
    rcases expects.2 with ⟨-, starting | failed⟩ | started
    · exact .inl starting
    · rw [failed] at unharmed
      cases unharmed
    · exact .inr started
  · change (runner.goto _).joinStart joined = _
    rw [joinStart, show (runner.goto (.joinStarts joined)).links = runner.links from rfl, found]
    dsimp only
    rw [started, if_neg nofun, if_neg nofun]
    rfl
  · refine ⟨runner.goto .createPersisters, ?_, alive, rfl⟩
    change (runner.goto _).joinStart joined = _
    rw [joinStart, show (runner.goto (.joinStarts joined)).links = runner.links from rfl, beyond]
    rfl

end Phases

/-! ## The rounds -/

section Rounds

variable {runner : LoadTestRunner} {handles : List Nat} {index : Nat}
variable {roundReports : List IntervalReport}

/-- The updates that the orchestrator has not received yet. -/
def updatesLeft (runner : LoadTestRunner) : Nat :=
  (runner.links.map fun link => link.generator.updates.length - link.received).sum

/-- How far the program is from its next `recv` or from the end. -/
def Program.distance : Program → Nat
  | .collect handles index roundReports =>
      if index < handles.length then 0 else if roundReports = [] then 1 else 3
  | .persist _ _ => 2
  | _ => 0

theorem Program.distance_collect (handles : List Nat) (index : Nat)
    (roundReports : List IntervalReport) :
    (Program.collect handles index roundReports).distance =
      if index < handles.length then 0 else if roundReports = [] then 1 else 3 := rfl

theorem Program.distance_collect_le (handles : List Nat) (index : Nat)
    (roundReports : List IntervalReport) :
    (Program.collect handles index roundReports).distance ≤ 3 := by
  rw [distance_collect]
  split_ifs <;> omega


/-- How `run` can end if nothing has failed. -/
inductive Ends (runner : LoadTestRunner) : Prop
  | succeeded (metadata : RunMetadata) (program : runner.program = .succeeded metadata)
  | outOfSync (address : String) (expected actual : Binary64)
      (program : runner.program = .failed (.collect (.timeMismatch address expected actual)))
      (differ : Differ runner.links runner.merged.length)

def Program.isCollecting : Program → Bool
  | .collect .. | .persist .. => true
  | _ => false

/-- All generators have sent everything, and nothing has failed. -/
structure Collecting (runner : LoadTestRunner) : Prop where
  going : runner.Going
  ended : ∀ link ∈ runner.links, link.HasEnded
  program : runner.program.isCollecting

/-- A step of the collector, and what is closer after it. -/
structure Closer (runner next : LoadTestRunner) : Prop where
  collecting : next.Collecting
  less : 4 * next.updatesLeft + next.program.distance <
    4 * runner.updatesLeft + runner.program.distance

theorem length_updates {link : Link} (sound : link.Sound) (ended : link.HasEnded) :
    link.generator.updates.length = link.generator.reported.length + 1 := by
  rcases sound.generator.updates_eq with shape | shape
  · rw [Link.HasEnded, shape] at ended
    simp at ended
  · rw [shape]
    simp

/-- The handle that `recv` is called on has an update to return. -/
theorem Collecting.exists_update (collecting : runner.Collecting)
    (program : runner.program = .collect handles index roundReports) {generator : Nat}
    (found : handles[index]? = some generator) :
    ∃ link update, runner.links[generator]? = some link ∧ link.nextUpdate = some update ∧
      link.received < link.generator.updates.length := by
  have collects := (collected_of_reachable collecting.going.reachable).program
  rw [program] at collects
  rcases collects with ⟨⟨taken, waiting, rfl, rfl, -, took⟩, -⟩
  rw [List.getElem?_append_right (Nat.le_refl _)] at found
  rcases took generator (List.mem_of_getElem? found) with ⟨link, linkFound, received⟩
  have member := List.mem_of_getElem? linkFound
  have length := length_updates (collecting.going.link member).sound (collecting.ended link member)
  have within : link.received < link.generator.updates.length := by
    have reported := received.reported
    rw [received.received, length]
    omega
  refine ⟨link, GeneratorUpdate.codec.seen link.generator.updates[link.received], linkFound, ?_,
    within⟩
  rw [Link.nextUpdate, List.getElem?_eq_getElem within]
  rfl

/-- An update is taken off a link. -/
theorem Collecting.closer_updateLink (collecting : runner.Collecting) {generator : Nat}
    {link : Link} (changed : Link) (found : runner.links[generator]? = some link)
    (within : link.received < link.generator.updates.length)
    (same : changed.generator = link.generator ∧ changed.config = link.config)
    (received : changed.received = link.received + 1) (unharmed : changed.handle.isUnharmed)
    (reachable : machine.Reachable
      (runner.updateLink generator changed (.collect handles index roundReports))) :
    runner.Closer (runner.updateLink generator changed (.collect handles index roundReports)) := by
  have member := List.mem_of_getElem? found
  refine ⟨⟨⟨reachable, fun other otherMem => ?_⟩, fun other otherMem => ?_, rfl⟩, ?_⟩
  · rcases List.mem_or_eq_of_mem_set otherMem with old | rfl
    · exact collecting.going.alive other old
    · refine ⟨⟨unharmed, ?_⟩, ?_⟩
      · rw [same.1]
        exact (collecting.going.alive link member).1.position
      · rw [same.2]
        exact (collecting.going.alive link member).2
  · rcases List.mem_or_eq_of_mem_set otherMem with old | rfl
    · exact collecting.ended other old
    · rw [Link.HasEnded, same.1]
      exact collecting.ended link member
  · have total := List.sum_map_set found changed fun link =>
      link.generator.updates.length - link.received
    rw [same.1, received] at total
    have near := Program.distance_collect_le handles index roundReports
    change 4 * ((runner.links.set generator changed).map _).sum +
      (Program.collect handles index roundReports).distance < 4 * (runner.links.map _).sum + _
    omega

/-- The program takes its next update off a link. -/
theorem Collecting.collect (collecting : runner.Collecting)
    (program : runner.program = .collect handles index roundReports) {generator : Nat}
    (found : handles[index]? = some generator) :
    ∃ next, runner.stepRun .proceeds = some next ∧ runner.Closer next := by
  rcases collecting.exists_update program found with ⟨link, update, linkFound, nextUpdate, within⟩
  have stepped : runner.stepRun .proceeds =
      some (runner.receive handles index roundReports generator link update) := by
    simp only [stepRun, program]
    rw [collectNext, found]
    dsimp only
    rw [linkFound, Option.bind_eq_bind, Option.bind_some, nextUpdate]
    rfl
  have reachable : machine.Reachable (runner.receive handles index roundReports generator link
      update) :=
    .step collecting.going.reachable trivial
      (show machine.step runner (.run .proceeds) = _ from stepped)
  have unharmed := (collecting.going.alive link (List.mem_of_getElem? linkFound)).1.handle
  refine ⟨_, stepped, ?_⟩
  cases update with
  | intervalReport report =>
      exact collecting.closer_updateLink { link with received := link.received + 1 } linkFound
        within ⟨rfl, rfl⟩ rfl unharmed reachable
  | finished =>
      exact collecting.closer_updateLink
        { link with received := link.received + 1, handle := .finished } linkFound
        within ⟨rfl, rfl⟩ rfl rfl reachable

/-- The program goes on without the links. -/
theorem Collecting.closer (collecting : runner.Collecting) {next : LoadTestRunner}
    (stepped : runner.stepRun .proceeds = some next) (links : next.links = runner.links)
    (goesOn : next.program.isCollecting)
    (less : next.program.distance < runner.program.distance) : runner.Closer next := by
  have reachable : machine.Reachable next :=
    .step collecting.going.reachable trivial
      (show machine.step runner (.run .proceeds) = some next from stepped)
  refine ⟨⟨⟨reachable, ?_⟩, ?_, goesOn⟩, ?_⟩
  · intro link member
    exact collecting.going.alive link (links ▸ member)
  · intro link member
    exact collecting.ended link (links ▸ member)
  · have same : next.updatesLeft = runner.updatesLeft := by rw [updatesLeft, links, updatesLeft]
    omega

/-- Where the collector stands at the end of `run`. -/
def IsOver (runner : LoadTestRunner) : Prop := runner.program = .finish ∨ runner.Ends

/-- A round is merged. -/
theorem Collecting.merge (collecting : runner.Collecting)
    (program : runner.program = .collect handles index roundReports)
    (ended : handles[index]? = none) :
    ∃ next, runner.stepRun .proceeds = some next ∧
      (runner.Closer next ∨ next.IsOver) := by
  have stepped : runner.stepRun .proceeds = some (runner.merge handles roundReports) := by
    simp only [stepRun, program]
    rw [collectNext, ended]
  have reachable : machine.Reachable (runner.merge handles roundReports) :=
    .step collecting.going.reachable trivial
      (show machine.step runner (.run .proceeds) = _ from stepped)
  refine ⟨_, stepped, ?_⟩
  have beyond := List.getElem?_eq_none_iff.mp ended
  have collects := (collected_of_reachable reachable).program
  revert stepped collects
  fun_cases LoadTestRunner.merge runner handles roundReports
  · intro stepped collects
    exact .inr (.inl rfl)
  · rename_i report merged
    intro stepped collects
    refine .inl (collecting.closer stepped rfl rfl ?_)
    have some : roundReports ≠ [] := by
      rintro rfl
      cases merged
    rw [program, Program.distance_collect, if_neg (Nat.not_lt.mpr beyond), if_neg some]
    exact Nat.lt_succ_self 2
  · rename_i error merged
    intro stepped collects
    unfold mergeRound at merged
    split at merged
    · cases merged
    · dsimp only at merged
      split at merged <;> cases merged
      exact .inr (.inr (.outOfSync _ _ _ rfl collects))

/-- A merged report is sent to the writer task. -/
theorem Collecting.persist (collecting : runner.Collecting) {report : IntervalReport}
    (program : runner.program = .persist handles report) :
    ∃ next, runner.stepRun .proceeds = some next ∧ runner.Closer next := by
  have stepped : runner.stepRun .proceeds = some (runner.goto (.collect handles 0 [])) := by
    simp only [stepRun, program]
  refine ⟨_, stepped, collecting.closer stepped rfl rfl ?_⟩
  rw [program]
  change (Program.collect handles 0 []).distance < 2
  rw [Program.distance_collect, if_pos (c := ([] : List IntervalReport) = []) rfl]
  split_ifs <;> omega

/-- The collector is at the end or comes closer to it. -/
theorem Collecting.progress (collecting : runner.Collecting) :
    ∃ next, runner.stepRun .proceeds = some next ∧ (runner.Closer next ∨ next.IsOver) := by
  cases program : runner.program with
  | collect handles index roundReports =>
      cases found : handles[index]? with
      | none => exact collecting.merge program found
      | some generator =>
          rcases collecting.collect program found with ⟨next, stepped, closer⟩
          exact ⟨next, stepped, .inl closer⟩
  | persist handles report =>
      rcases collecting.persist program with ⟨next, stepped, closer⟩
      exact ⟨next, stepped, .inl closer⟩
  | joinConnects | abortConnected | awaitAborted | joinConfigures | abortConfigured | joinStarts
  | createPersisters | abortStarted | finish | succeeded | failed | exited =>
      have goesOn := collecting.program
      rw [program] at goesOn
      cases goesOn

theorem IsOver.canEnd (isOver : runner.IsOver) : CanReach Ends runner := by
  rcases isOver with finish | ends
  · have stepped : runner.stepRun .proceeds = some (runner.goto (.succeeded runner.metadata)) := by
      simp only [stepRun, finish]
    exact .proceeds stepped (.here (.succeeded _ rfl))
  · exact .here ends

theorem Collecting.canEnd (collecting : runner.Collecting) : CanReach Ends runner := by
  have canReach : CanReach IsOver runner := by
    refine Machine.canReach_of_measure
      (fun runner => 4 * runner.updatesLeft + runner.program.distance) ?_ collecting
    intro runner collecting
    rcases collecting.progress with ⟨next, stepped, closer | isOver⟩
    · exact ⟨.run .proceeds, next, rfl, stepped, .inr ⟨closer.collecting, closer.less⟩⟩
    · exact ⟨.run .proceeds, next, rfl, stepped, .inl isOver⟩
  exact canReach.trans fun _ isOver => isOver.canEnd

end Rounds

/-! ## The whole run -/

section Whole

variable {runner : LoadTestRunner} {joined : Nat}

/-- `run` has neither given up nor begun to abort generators. -/
def Program.goesOn : Program → Bool
  | .joinConnects _ | .joinConfigures _ | .joinStarts _ | .createPersisters | .collect ..
  | .persist .. | .finish | .succeeded _ => true
  | _ => false

end Whole

/-! The first generator has a transaction in flight before the second has been started. -/

section OneBusy

private def untilBusy : List ReadyHandle.Event :=
  [.report, .pace [], .pace [], .report, .report, .report, .pace [500000000],
    .tick 500000000, .pace []]

/-- The reporter waits for a step, or the generator has not started. -/
private def isWaiting : LoadGenerator.Position → Bool
  | .waitForCommand _ => true
  | .started handle => handle.reporter.running?.isSome
  | _ => false

end OneBusy

end LoadTestRunner

end CreoBench
