import CreoBench.Library.ListIndex
import CreoBench.RecordedTimes
import CreoBench.Verdict

/-!
# A load generator with its tasks

To the reporter and to the pacer a dispatched transaction is a counter that goes up
when its task is spawned and comes down when the task logs its result.  Here the tasks
are those that take users from the pool and send requests.  A run of all of them is a
run of the reporter and the pacer with tasks that end at any time with any result, and
so what is known of the reports is known of the requests.
-/

open scoped List

namespace CreoBench

/-- A started generator together with the tasks of its dispatcher.  No step of the code
depends on which task of the handle is which. -/
structure WorkingGenerator (World Url Jar : Type) where
  handle : ReadyHandle
  system : Dispatch.System World Url Jar
  /-- The tasks that have not logged yet, in the order of the handle's tasks. -/
  running : List Nat
  /-- The tasks that have, in the order of the handle's log. -/
  logged : List Nat

namespace WorkingGenerator

variable {World Url Jar : Type}

inductive Event where
  | tick (elapsed : Duration)
  | pace (gaps : List Duration)
  | report
  | sendFails
  | task (index : Nat) (event : Dispatch.TaskEvent)

/-- What a step of the pacer dispatches. -/
def dispatchedSince (before after : ReadyHandle) : Option Transaction :=
  (after.tasks.drop before.tasks.length).head?.map (·.transaction)

/-- The result that a task logs next. -/
def nextResult : Dispatch.Stage World Url Jar → Option TransactionResult
  | .logging result => some result
  | _ => none

/-- What the task at `index` logs with a step. -/
def resultAt (system : Dispatch.System World Url Jar) (index : Nat) :
    Dispatch.TaskEvent → Option TransactionResult
  | .logResult => system.tasks[index]?.bind fun task => nextResult task.stage
  | _ => none

/-- `tracker.log_result(result)` at the end of the task at `index`. -/
def log (generator : WorkingGenerator World Url Jar) (index : Nat)
    (result : TransactionResult) : Option (WorkingGenerator World Url Jar) := do
  let position := generator.running.idxOf index
  let task ← generator.handle.tasks[position]?
  return { generator with
    handle := { generator.handle with
      tracker := generator.handle.tracker.logResult result
      tasks := generator.handle.tasks.eraseIdx position
      history.logged := generator.handle.history.logged ++
        [⟨task, result, generator.handle.reports.length⟩] }
    running := generator.running.eraseIdx position
    logged := generator.logged ++ [index] }

section Machine

variable (lua : Lua World) (web : WebLibrary Url Jar) (loadgeneratorId : LoadGeneratorId)
variable (virtualUserCount : UInt32)

/-- The tasks by themselves. -/
abbrev tasks : Machine (Dispatch.System World Url Jar) Dispatch.System.Event :=
  Dispatch.System.machine lua web loadgeneratorId virtualUserCount

/-- The pacer has moved, and the task of what it has dispatched is spawned. -/
def pace (generator : WorkingGenerator World Url Jar) (handle : ReadyHandle) :
    Option Transaction → Option (WorkingGenerator World Url Jar)
  | none => some { generator with handle }
  | some transaction => do
      let system ← (tasks lua web loadgeneratorId virtualUserCount).step generator.system
        (.dispatch transaction.startTime transaction.targetTime)
      return { generator with
        handle, system, running := generator.running ++ [generator.system.tasks.length] }

/-- A task has moved, and what it logs is counted. -/
def count (generator : WorkingGenerator World Url Jar) (index : Nat) :
    Option TransactionResult → Option (WorkingGenerator World Url Jar)
  | none => some generator
  | some result => generator.log index result

def step (generator : WorkingGenerator World Url Jar) :
    Event → Option (WorkingGenerator World Url Jar)
  | .tick elapsed => do
      let handle ← generator.handle.step (.tick elapsed)
      let system ← (tasks lua web loadgeneratorId virtualUserCount).step generator.system
        (.tick elapsed)
      return { generator with handle, system }
  | .pace gaps => do
      let handle ← generator.handle.step (.pace gaps)
      generator.pace lua web loadgeneratorId virtualUserCount handle
        (dispatchedSince generator.handle handle)
  | .report => (generator.handle.step .report).map fun handle => { generator with handle }
  | .sendFails => (generator.handle.step .sendFails).map fun handle => { generator with handle }
  | .task index event => do
      let system ← (tasks lua web loadgeneratorId virtualUserCount).step generator.system
        (.task index event)
      { generator with system }.count index (resultAt generator.system index event)

/-- A generator that is told to start when its pool has been set up. -/
def machine : Machine (WorkingGenerator World Url Jar) Event where
  initial generator :=
    (∃ profile warmup, generator.handle =
      .new loadgeneratorId profile warmup generator.system.now) ∧
    (tasks lua web loadgeneratorId virtualUserCount).initial generator.system ∧
    generator.running = [] ∧ generator.logged = []
  step := step lua web loadgeneratorId virtualUserCount

end Machine

/-! ## Results are made of outcomes -/

/-- Made of the outcome of a transaction by `now`. -/
def Made (now : Instant) (transaction : Transaction) (result : TransactionResult) : Prop :=
  ∃ outcome : Outcome, ∃ finishedAt ≤ now, result = outcome.result transaction finishedAt

/-- The result that a task has at a stage. -/
def MadeAt (now : Instant) (transaction : Transaction) : Dispatch.Stage World Url Jar → Prop
  | .releasing _ (.log result) | .pushed (.log result) | .logging result =>
      Made now transaction result
  | _ => True

section Results

open Dispatch

variable {lua : Lua World} {web : WebLibrary Url Jar} {loadgeneratorId : LoadGeneratorId}
variable {virtualUserCount : UInt32} {system next : System World Url Jar}

theorem Made.later {now later : Instant} {transaction : Transaction} {result : TransactionResult}
    (made : Made now transaction result) (le : now ≤ later) : Made later transaction result := by
  rcases made with ⟨outcome, finishedAt, before, same⟩
  exact ⟨outcome, finishedAt, before.trans le, same⟩

theorem MadeAt.later {now later : Instant} {transaction : Transaction}
    {stage : Stage World Url Jar} (made : MadeAt now transaction stage) (le : now ≤ later) :
    MadeAt later transaction stage := by
  cases stage with
  | logging result => exact Made.later made le
  | releasing user after | pushed after =>
      cases after with
      | drop code => trivial
      | log result => exact Made.later made le
  | _ => trivial

theorem madeAt_ownStep {now : Instant} {task task' : Task World Url Jar} {event : TaskEvent}
    (stepped : ownStep lua web now task task.stage event = some task') :
    MadeAt now task'.transaction task'.stage := by
  revert stepped
  generalize task.stage = stage
  fun_cases ownStep lua web now task stage event
  all_goals intro stepped
  all_goals cases stepped
  case case16 user outcome => exact ⟨outcome, now, le_rfl, rfl⟩
  case case17 code => exact ⟨.dropped none code, now, le_rfl, rfl⟩
  all_goals trivial

theorem madeAt_poolMove {now : Instant} {task task' : Task World Url Jar}
    (made : MadeAt now task.transaction task.stage) (move : PoolMove system task task') :
    MadeAt now task'.transaction task'.stage := by
  cases move with
  | @push user after stageEq =>
      cases after with
      | drop code => trivial
      | log result =>
          rw [stageEq] at made
          exact made
  | log stageEq =>
      rw [stageEq] at made
      exact made
  | @takeUser waited user stageEq member => cases waited <;> trivial
  | _ => trivial

theorem madeAt_of_reachable
    (reachable : (tasks lua web loadgeneratorId virtualUserCount).Reachable system)
    {index : Nat} {task : Task World Url Jar} (found : system.tasks[index]? = some task) :
    MadeAt system.now task.transaction task.stage := by
  apply System.forall_tasks_of_reachableBy
    (fun now task => MadeAt now task.transaction task.stage) _ _ _ _ _ reachable found
  · exact fun now startTime targetTime started => trivial
  · exact fun now later task made le => made.later le
  · exact fun system index event task task' _ before made own => madeAt_ownStep own
  · exact fun system task task' made move => madeAt_poolMove made move
  · exact fun now task made queued => trivial

end Results

/-! ## One step of the tasks -/

section TaskSteps

open Dispatch

variable {lua : Lua World} {web : WebLibrary Url Jar} {loadgeneratorId : LoadGeneratorId}
variable {virtualUserCount : UInt32} {system next : System World Url Jar}
variable {index position : Nat} {event : TaskEvent} {task task' : Task World Url Jar}

theorem resultAt_eq_some {result : TransactionResult} :
    resultAt system index event = some result ↔ event = .logResult ∧
      ∃ task, system.tasks[index]? = some task ∧ task.stage = .logging result := by
  unfold resultAt
  split
  · rw [Option.bind_eq_some_iff]
    refine ⟨fun ⟨task, found, logs⟩ => ⟨rfl, task, found, ?_⟩, fun ⟨_, task, found, stageEq⟩ =>
      ⟨task, found, by rw [stageEq]; rfl⟩⟩
    unfold nextResult at logs
    split at logs
    · rename_i stageEq
      cases logs
      exact stageEq
    · cases logs
  · rename_i other
    exact ⟨by rintro ⟨⟩, fun ⟨same, _⟩ => absurd same other⟩

/-- A task is finished by logging its result. -/
theorem finished_of_ownStep {now : Instant}
    (stepped : ownStep lua web now task task.stage event = some task') :
    task.stage ≠ .finished ∧
      ((∃ result, event = .logResult ∧ task.stage = .logging result ∧
          task' = (task.log result).enter .finished) ∨
        task'.stage ≠ .finished ∧
          (event = .logResult → ∀ result, task.stage ≠ .logging result)) := by
  revert stepped
  generalize task.stage = stage
  fun_cases ownStep lua web now task stage event
  all_goals intro stepped
  all_goals cases stepped
  case case18 result => exact ⟨by rintro ⟨⟩, .inl ⟨result, rfl, rfl, rfl⟩⟩
  all_goals exact ⟨by rintro ⟨⟩, .inr ⟨by rintro ⟨⟩, by rintro ⟨⟩⟩⟩

theorem unfinished_of_poolMove (move : PoolMove system task task') :
    task.stage ≠ .finished ∧ task'.stage ≠ .finished ∧
      ∀ result, task.stage ≠ .logging result := by
  cases move with
  | @takeUser waited user stageEq member =>
      rw [stageEq]
      cases waited <;> exact ⟨by rintro ⟨⟩, by rintro ⟨⟩, by rintro _ ⟨⟩⟩
  | timeOut waiting late =>
      rcases waiting with stageEq | stageEq <;> rw [stageEq] <;>
        exact ⟨by rintro ⟨⟩, by rintro ⟨⟩, by rintro _ ⟨⟩⟩
  | takePermit stageEq | miss stageEq | claim stageEq | wait stageEq | resume stageEq
  | panic stageEq | push stageEq | drop stageEq | log stageEq =>
      rw [stageEq]
      exact ⟨by rintro ⟨⟩, by rintro ⟨⟩, by rintro _ ⟨⟩⟩

/-- What a step of the task at `index` makes of the task at `position`: the transaction and
all that has finished stay as they are, and a task finishes with what it logs. -/
structure Continues (system : System World Url Jar) (index : Nat) (event : TaskEvent)
    (position : Nat) (task task' : Task World Url Jar) : Prop where
  transaction : task'.transaction = task.transaction
  finished : task.stage = .finished → task' = task
  unfinished : task.stage ≠ .finished →
    (task'.stage ≠ .finished ∧ (position = index → resultAt system index event = none)) ∨
      position = index ∧ ∃ result, resultAt system index event = some result ∧
        task.stage = .logging result ∧ task'.stage = .finished ∧ task'.trace.logged = [result]

theorem continues_of_step (pooled : system.Pooled virtualUserCount) (accounted : next.Accounted)
    (stepped : system.step lua web loadgeneratorId (.task index event) = some next)
    (found : system.tasks[position]? = some task) (nextEq : next.tasks[position]? = some task') :
    Continues system index event position task task' := by
  have quiet : (event = .logResult → ∀ result, task.stage ≠ .logging result) →
      position = index → resultAt system index event = none := by
    rintro silent rfl
    cases resultEq : resultAt system position event with
    | none => rfl
    | some result =>
        rcases resultAt_eq_some.mp resultEq with ⟨logs, other, otherEq, stageEq⟩
        rw [found] at otherEq
        cases otherEq
        exact absurd stageEq (silent logs result)
  cases System.changed_of_step pooled stepped nextEq with
  | kept before other =>
      cases found.symm.trans before
      refine ⟨rfl, fun _ => rfl, fun unfinished => .inl ⟨unfinished, ?_⟩⟩
      rintro rfl
      exact absurd rfl (other event)
  | own before own =>
      cases found.symm.trans before
      rcases finished_of_ownStep own with ⟨unfinished, ⟨result, rfl, stageEq, rfl⟩ | ⟨runs, silent⟩⟩
      · refine ⟨rfl, fun finished => absurd finished unfinished, fun _ => .inr
          ⟨rfl, result, resultAt_eq_some.mpr ⟨rfl, task, before, stageEq⟩, stageEq, rfl, ?_⟩⟩
        rcases accounted.tasks _ _ nextEq with ⟨other, loggedEq, -⟩
        have one : task.trace.logged ++ [result] = [other] := loggedEq
        have none : task.trace.logged = [] := by
          have lengths := congrArg List.length one
          rw [List.length_append] at lengths
          exact List.length_eq_zero_iff.mp (by simpa using lengths)
        change task.trace.logged ++ [result] = [result]
        rw [none, List.nil_append]
      · exact ⟨transaction_ownStep own, fun finished => absurd finished unfinished,
          fun _ => .inl ⟨runs, quiet silent⟩⟩
  | pooled before move =>
      cases found.symm.trans before
      rcases unfinished_of_poolMove move with ⟨unfinished, runs, silent⟩
      exact ⟨transaction_poolMove move, fun finished => absurd finished unfinished,
        fun _ => .inl ⟨runs, quiet fun _ => silent⟩⟩
  | handed before queued =>
      cases found.symm.trans before
      refine ⟨rfl, fun finished => ?_, fun _ => .inl ⟨by rintro ⟨⟩, quiet ?_⟩⟩
      · rw [queued] at finished
        cases finished
      · intro _ result
        rw [queued]
        rintro ⟨⟩

/-- What a step of a task leaves as it is. -/
theorem frame_of_step
    (stepped : system.step lua web loadgeneratorId (.task index event) = some next) :
    next.tasks.length = system.tasks.length ∧ next.now = system.now := by
  rcases Option.bind_eq_some_iff.mp stepped with ⟨task, found, moved⟩
  cases own : ownStep lua web system.now task task.stage event with
  | some task' =>
      rw [own] at moved
      cases moved
      exact ⟨List.length_set, rfl⟩
  | none =>
      rw [own] at moved
      rcases System.poolStep_effect moved with ⟨task', effect⟩
      refine ⟨?_, effect.now⟩
      rcases effect.tasks with set | ⟨first, -, -, handed⟩
      · rw [set, List.length_set]
      · rw [handed, List.length_modify, List.length_set]

/-- Every task goes on in a step of one of them. -/
theorem exists_continues (pooled : system.Pooled virtualUserCount)
    (accounted : system.Accounted)
    (stepped : (tasks lua web loadgeneratorId virtualUserCount).step system (.task index event) =
      some next) (found : system.tasks[position]? = some task) :
    ∃ task', next.tasks[position]? = some task' ∧
      Continues system index event position task task' := by
  rcases Option.map_eq_some_iff.mp stepped with ⟨moved, step, rfl⟩
  rw [System.observe_tasks]
  have bound : position < moved.tasks.length := by
    rw [(frame_of_step step).1]
    exact (List.getElem?_eq_some_iff.mp found).1
  have nextEq : moved.tasks[position]? = some moved.tasks[position] :=
    List.getElem?_eq_getElem bound
  exact ⟨_, nextEq, continues_of_step pooled (accounted.step pooled step) step found nextEq⟩

end TaskSteps

/-! ## The tasks of the handle are those of the system -/

/-- The task at `index` has not logged yet. -/
def Runs (system : Dispatch.System World Url Jar) (index : Nat) (task : ReadyHandle.Task) :
    Prop :=
  ∃ real, system.tasks[index]? = some real ∧ real.transaction = task.transaction ∧
    real.stage ≠ .finished

/-- The task at `index` has logged this result and nothing else. -/
def HasLogged (system : Dispatch.System World Url Jar) (index : Nat)
    (entry : ReadyHandle.Logged) : Prop :=
  ∃ real, system.tasks[index]? = some real ∧ real.transaction = entry.task.transaction ∧
    real.stage = .finished ∧ real.trace.logged = [entry.result]

structure Coupled (loadgeneratorId : LoadGeneratorId) (generator : WorkingGenerator World Url Jar) :
    Prop where
  now : generator.handle.now = generator.system.now
  id : generator.handle.loadgeneratorId = loadgeneratorId
  running : List.Forall₂ (Runs generator.system) generator.running generator.handle.tasks
  logged : List.Forall₂ (HasLogged generator.system) generator.logged
    generator.handle.history.logged
  names : generator.running ++ generator.logged ~ List.range generator.system.tasks.length

section Coupled

open Dispatch

variable {lua : Lua World} {web : WebLibrary Url Jar} {loadgeneratorId : LoadGeneratorId}
variable {virtualUserCount : UInt32} {generator next : WorkingGenerator World Url Jar}
variable {system system' : System World Url Jar} {index : Nat}

theorem Runs.append {task : ReadyHandle.Task} (runs : Runs system index task)
    (tasks : ∃ more, system'.tasks = system.tasks ++ more) : Runs system' index task := by
  rcases runs with ⟨real, found, same, running⟩
  rcases tasks with ⟨more, tasks⟩
  refine ⟨real, ?_, same, running⟩
  rw [tasks, List.getElem?_append_left (List.getElem?_eq_some_iff.mp found).1, found]

theorem HasLogged.append {entry : ReadyHandle.Logged} (logged : HasLogged system index entry)
    (tasks : ∃ more, system'.tasks = system.tasks ++ more) : HasLogged system' index entry := by
  rcases logged with ⟨real, found, same, finished⟩
  rcases tasks with ⟨more, tasks⟩
  refine ⟨real, ?_, same, finished⟩
  rw [tasks, List.getElem?_append_left (List.getElem?_eq_some_iff.mp found).1, found]

/-- Steps after which the handle and the tasks are the same, apart from the time. -/
theorem Coupled.keep (coupled : generator.Coupled loadgeneratorId)
    (now : next.handle.now = next.system.now)
    (id : next.handle.loadgeneratorId = generator.handle.loadgeneratorId)
    (handleTasks : next.handle.tasks = generator.handle.tasks)
    (log : next.handle.history.logged = generator.handle.history.logged)
    (tasks : next.system.tasks = generator.system.tasks)
    (running : next.running = generator.running) (logged : next.logged = generator.logged) :
    next.Coupled loadgeneratorId := by
  have same : ∃ more, next.system.tasks = generator.system.tasks ++ more := ⟨[], by simp [tasks]⟩
  refine ⟨now, id.trans coupled.id, ?_, ?_, ?_⟩
  · rw [running, handleTasks]
    exact coupled.running.imp fun _ _ runs => runs.append same
  · rw [logged, log]
    exact coupled.logged.imp fun _ _ hasLogged => hasLogged.append same
  · rw [running, logged, tasks]
    exact coupled.names

/-! ### The pacer dispatches -/

/-- A transaction is dispatched when its scheduled arrival is reached. -/
theorem transaction_dispatched {pacer pacer' : Pacer} {now : Instant} {gaps : List Duration}
    {transaction : Transaction}
    (stepped : pacer.step loadgeneratorId now gaps = some (pacer', .dispatch transaction)) :
    transaction.loadgeneratorId = loadgeneratorId ∧
      transaction.startTime.instant.instant ≤ now := by
  revert stepped
  fun_cases Pacer.step pacer loadgeneratorId now gaps
  all_goals intro stepped
  all_goals cases stepped
  rename_i due _ _
  exact ⟨rfl, due⟩

/-- The task of a dispatched transaction is the last one on both sides. -/
theorem Coupled.spawn (coupled : generator.Coupled loadgeneratorId) {handle : ReadyHandle}
    {task : ReadyHandle.Task} {system' : System World Url Jar}
    (now : handle.now = system'.now) (id : handle.loadgeneratorId = loadgeneratorId)
    (handleTasks : handle.tasks = generator.handle.tasks ++ [task])
    (log : handle.history.logged = generator.handle.history.logged)
    (spawned : system'.tasks = generator.system.tasks ++ [⟨task.transaction, .spawned, .empty⟩]) :
    Coupled loadgeneratorId { generator with
      handle, system := system'
      running := generator.running ++ [generator.system.tasks.length] } := by
  have more : ∃ more, system'.tasks = generator.system.tasks ++ more := ⟨_, spawned⟩
  have last : Runs system' generator.system.tasks.length task := by
    refine ⟨⟨task.transaction, .spawned, .empty⟩, ?_, rfl, by rintro ⟨⟩⟩
    rw [spawned, List.getElem?_concat_length]
  refine ⟨now, id, ?_, ?_, ?_⟩
  · rw [handleTasks]
    exact List.rel_append (coupled.running.imp fun _ _ runs => runs.append more)
      (.cons last .nil)
  · rw [log]
    exact coupled.logged.imp fun _ _ hasLogged => hasLogged.append more
  · calc generator.running ++ [generator.system.tasks.length] ++ generator.logged
        _ ~ generator.running ++ generator.logged ++ [generator.system.tasks.length] := by
          rw [List.append_assoc, List.append_assoc]
          exact List.perm_append_comm.append_left _
        _ ~ List.range generator.system.tasks.length ++ [generator.system.tasks.length] :=
          coupled.names.append_right _
        _ ~ List.range system'.tasks.length := by
          rw [spawned, List.length_append, List.length_singleton, List.range_succ]

theorem Coupled.pace (coupled : generator.Coupled loadgeneratorId) {handle : ReadyHandle}
    {gaps : List Duration} (paced : generator.handle.pace gaps = some handle)
    (stepped : generator.pace lua web loadgeneratorId virtualUserCount handle
      (dispatchedSince generator.handle handle) = some next) :
    next.Coupled loadgeneratorId := by
  cases ReadyHandle.pace_cases paced with
  | quiet | announced | receiverDropped =>
      rw [dispatchedSince, List.drop_length] at stepped
      cases stepped
      exact coupled.keep coupled.now rfl rfl rfl rfl rfl rfl
  | @dispatched pacer pacer' transaction pacerEq dispatched =>
      rw [coupled.id, coupled.now] at dispatched
      rcases transaction_dispatched dispatched with ⟨rfl, due⟩
      have since : dispatchedSince generator.handle { generator.handle with
          pacer := some pacer'
          tracker := generator.handle.tracker.logDispatched 1
          tasks := generator.handle.tasks ++ [⟨generator.handle.phase, transaction⟩]
          history.dispatched := generator.handle.history.dispatched ++
            [⟨generator.handle.phase, transaction⟩] } = some transaction := by
        rw [dispatchedSince, List.drop_left]
        rfl
      rw [since] at stepped
      rcases Option.bind_eq_some_iff.mp stepped with ⟨system', moved, made⟩
      cases made
      rcases Option.map_eq_some_iff.mp moved with ⟨system'', step, rfl⟩
      rw [System.step, if_pos due] at step
      cases step
      exact coupled.spawn (by rw [System.observe_now]; exact coupled.now) coupled.id rfl rfl
        (System.observe_tasks ..)

/-! ### A task moves -/

section TaskMoves

variable {event : TaskEvent} {position : Nat} {result : TransactionResult}

theorem Runs.step {task : ReadyHandle.Task} (runs : Runs system position task)
    (pooled : system.Pooled virtualUserCount) (accounted : system.Accounted)
    (stepped : (tasks lua web loadgeneratorId virtualUserCount).step system (.task index event) =
      some system') (quiet : position = index → resultAt system index event = none) :
    Runs system' position task := by
  rcases runs with ⟨real, found, same, running⟩
  rcases exists_continues pooled accounted stepped found with ⟨real', nextEq, goesOn⟩
  rcases goesOn.unfinished running with ⟨still, -⟩ | ⟨here, result, logs, -⟩
  · exact ⟨real', nextEq, goesOn.transaction.trans same, still⟩
  · rw [quiet here] at logs
    cases logs

theorem HasLogged.step {entry : ReadyHandle.Logged} (hasLogged : HasLogged system position entry)
    (pooled : system.Pooled virtualUserCount) (accounted : system.Accounted)
    (stepped : (tasks lua web loadgeneratorId virtualUserCount).step system (.task index event) =
      some system') : HasLogged system' position entry := by
  rcases hasLogged with ⟨real, found, same, finished, logged⟩
  rcases exists_continues pooled accounted stepped found with ⟨real', nextEq, goesOn⟩
  obtain rfl := goesOn.finished finished
  exact ⟨real', nextEq, same, finished, logged⟩

theorem Runs.log {task : ReadyHandle.Task} (runs : Runs system index task)
    (pooled : system.Pooled virtualUserCount) (accounted : system.Accounted)
    (stepped : (tasks lua web loadgeneratorId virtualUserCount).step system (.task index event) =
      some system') (logs : resultAt system index event = some result) (reportsBefore : Nat) :
    HasLogged system' index ⟨task, result, reportsBefore⟩ := by
  rcases runs with ⟨real, found, same, running⟩
  rcases exists_continues pooled accounted stepped found with ⟨real', nextEq, goesOn⟩
  rcases goesOn.unfinished running with ⟨-, quiet⟩ | ⟨-, other, logged, -, finished, trace⟩
  · rw [quiet rfl] at logs
    cases logs
  · rw [logs] at logged
    cases logged
    exact ⟨real', nextEq, goesOn.transaction.trans same, finished, trace⟩

/-- The task of the handle that a task logs for. -/
theorem log_cases (coupled : generator.Coupled loadgeneratorId)
    (logged : { generator with system := system' }.log index result = some next) :
    ∃ task, generator.handle.tasks[generator.running.idxOf index]? = some task ∧
      generator.running[generator.running.idxOf index]? = some index ∧
        Runs generator.system index task ∧
          next = { generator with
            handle := { generator.handle with
              tracker := generator.handle.tracker.logResult result
              tasks := generator.handle.tasks.eraseIdx (generator.running.idxOf index)
              history.logged := generator.handle.history.logged ++
                [⟨task, result, generator.handle.reports.length⟩] }
            system := system'
            running := generator.running.eraseIdx (generator.running.idxOf index)
            logged := generator.logged ++ [index] } := by
  rcases Option.bind_eq_some_iff.mp logged with ⟨task, found, made⟩
  cases made
  have bound : generator.running.idxOf index < generator.running.length := by
    rw [coupled.running.length_eq]
    exact (List.getElem?_eq_some_iff.mp found).1
  have runningEq := List.getElem?_idxOf (List.idxOf_lt_length_iff.mp bound)
  exact ⟨task, found, runningEq, coupled.running.of_getElem? runningEq found, rfl⟩

theorem Coupled.task (coupled : generator.Coupled loadgeneratorId)
    (pooled : generator.system.Pooled virtualUserCount) (accounted : generator.system.Accounted)
    (moved : (tasks lua web loadgeneratorId virtualUserCount).step generator.system
      (.task index event) = some system')
    (stepped : { generator with system := system' }.count index
      (resultAt generator.system index event) = some next) : next.Coupled loadgeneratorId := by
  have frame : system'.tasks.length = generator.system.tasks.length ∧
      system'.now = generator.system.now := by
    rcases Option.map_eq_some_iff.mp moved with ⟨system'', step, rfl⟩
    rw [System.observe_tasks, System.observe_now]
    exact frame_of_step step
  have logged := coupled.logged.imp fun _ _ hasLogged => hasLogged.step pooled accounted moved
  cases logs : resultAt generator.system index event with
  | none =>
      rw [logs] at stepped
      cases stepped
      refine ⟨coupled.now.trans frame.2.symm, coupled.id, ?_, logged, ?_⟩
      · exact coupled.running.imp fun _ _ runs => runs.step pooled accounted moved fun _ => logs
      · rw [frame.1]
        exact coupled.names
  | some result =>
      rw [logs] at stepped
      rcases log_cases coupled stepped with ⟨task, found, runningEq, runs, rfl⟩
      refine ⟨coupled.now.trans frame.2.symm, coupled.id, ?_, ?_, ?_⟩
      · -- the others are not the one that logs
        have nodup : generator.running.Nodup :=
          (coupled.names.nodup_iff.mpr List.nodup_range).of_append_left
        have others : ∀ other ∈ generator.running.eraseIdx (generator.running.idxOf index),
            other ≠ index := by
          intro other member
          rw [List.eraseIdx_idxOf_eq_erase] at member
          exact (nodup.mem_erase_iff.mp member).1
        have erased := (List.forall₂_and_left _ _).mpr
          ⟨others, coupled.running.eraseIdx (generator.running.idxOf index)⟩
        exact erased.imp fun _ _ ⟨other, runs⟩ =>
          runs.step pooled accounted moved fun same => absurd same other
      · exact List.rel_append logged (.cons (runs.log pooled accounted moved logs _) .nil)
      · calc generator.running.eraseIdx (generator.running.idxOf index) ++
              (generator.logged ++ [index])
            _ ~ index :: generator.running.eraseIdx (generator.running.idxOf index) ++
                generator.logged := by
              rw [← List.append_assoc]
              exact List.perm_append_comm
            _ ~ generator.running ++ generator.logged :=
              (List.perm_cons_eraseIdx runningEq).symm.append_right _
            _ ~ List.range system'.tasks.length := by
              rw [frame.1]
              exact coupled.names

end TaskMoves

/-! ### Runs -/

theorem pace_cases {handle : ReadyHandle} {dispatched : Option Transaction}
    (stepped : generator.pace lua web loadgeneratorId virtualUserCount handle dispatched =
      some next) :
    next.handle = handle ∧ (next.system = generator.system ∨ ∃ event,
      (tasks lua web loadgeneratorId virtualUserCount).step generator.system event =
        some next.system) := by
  cases dispatched with
  | none =>
      cases stepped
      exact ⟨rfl, .inl rfl⟩
  | some transaction =>
      rcases Option.bind_eq_some_iff.mp stepped with ⟨system', moved, made⟩
      cases made
      exact ⟨rfl, .inr ⟨_, moved⟩⟩

theorem system_count {logs : Option TransactionResult}
    (stepped : generator.count index logs = some next) : next.system = generator.system := by
  cases logs with
  | none =>
      cases stepped
      rfl
  | some result =>
      rcases Option.bind_eq_some_iff.mp stepped with ⟨task, found, made⟩
      cases made
      rfl

/-- The tasks move by themselves. -/
theorem system_of_reachable
    (reachable : (machine lua web loadgeneratorId virtualUserCount).Reachable generator) :
    (tasks lua web loadgeneratorId virtualUserCount).Reachable generator.system := by
  apply reachable.project WorkingGenerator.system
  · exact fun _ initial => initial.2.1
  · intro generator event next _ stepped
    cases event with
    | tick elapsed =>
        cases stepped
        exact .inr ⟨.tick elapsed, trivial, rfl⟩
    | pace gaps =>
        rcases Option.bind_eq_some_iff.mp stepped with ⟨handle, -, paced⟩
        rcases (pace_cases paced).2 with same | ⟨event, moved⟩
        · exact .inl same
        · exact .inr ⟨event, trivial, moved⟩
    | report | sendFails =>
        rcases Option.map_eq_some_iff.mp stepped with ⟨handle, -, rfl⟩
        exact .inl rfl
    | task index event =>
        rcases Option.bind_eq_some_iff.mp stepped with ⟨system', moved, counted⟩
        rw [system_count counted]
        exact .inr ⟨_, trivial, moved⟩

theorem coupled_of_reachable
    (reachable : (machine lua web loadgeneratorId virtualUserCount).Reachable generator) :
    generator.Coupled loadgeneratorId := by
  apply Machine.ReachableBy.invariant_of_known (fun _ => system_of_reachable) _ _ reachable
  · rintro generator ⟨⟨profile, warmup, handleEq⟩, ⟨-, -, noTasks, -⟩, noRunning, noLogged⟩
    refine ⟨by rw [handleEq]; rfl, by rw [handleEq]; rfl, ?_, ?_, ?_⟩
    · rw [noRunning, handleEq]
      exact .nil
    · rw [noLogged, handleEq]
      exact .nil
    · rw [noRunning, noLogged, noTasks]
      exact .nil
  · intro generator event next reached coupled _ stepped
    cases event with
    | tick elapsed =>
        cases stepped
        refine coupled.keep ?_ rfl rfl rfl (System.observe_tasks ..) rfl rfl
        rw [System.observe_now]
        exact congrArg (· + elapsed) coupled.now
    | pace gaps =>
        rcases Option.bind_eq_some_iff.mp stepped with ⟨handle, moved, paced⟩
        exact coupled.pace moved paced
    | report =>
        rcases Option.map_eq_some_iff.mp stepped with ⟨handle, reported, rfl⟩
        rcases ReadyHandle.report_effect reported with ⟨handleTasks, -, log, -⟩
        have now : handle.now = generator.handle.now := by
          cases ReadyHandle.report_cases reported <;> rfl
        exact coupled.keep (now.trans coupled.now) (ReadyHandle.step_config reported).1
          handleTasks log rfl rfl rfl
    | sendFails =>
        rcases Option.map_eq_some_iff.mp stepped with ⟨handle, failed, rfl⟩
        rw [ReadyHandle.sendFails_eq_some failed]
        exact coupled.keep coupled.now rfl rfl rfl rfl rfl rfl
    | task index event =>
        rcases Option.bind_eq_some_iff.mp stepped with ⟨system', moved, counted⟩
        exact coupled.task (System.pooled_of_reachable reached)
          (System.accounted_of_reachable reached) moved counted

/-- No send fails, and the last task in flight does not log its result while no further
report is bound to be built. -/
def KeepsLastResult (generator : WorkingGenerator World Url Jar) : Event → Prop
  | .task index event => (resultAt generator.system index event).isSome →
      ¬ (generator.handle.LastReportBuilt ∧ generator.handle.tasks.length = 1)
  | .sendFails => False
  | _ => True

/-- To the handle, a task that logs ends with an outcome. -/
theorem exists_complete_of_log (coupled : generator.Coupled loadgeneratorId)
    (reachable : (tasks lua web loadgeneratorId virtualUserCount).Reachable generator.system)
    {event : TaskEvent} {result : TransactionResult}
    (logs : resultAt generator.system index event = some result)
    (logged : { generator with system := system' }.log index result = some next) :
    ∃ position outcome finishedAt,
      generator.handle.step (.complete position outcome finishedAt) = some next.handle := by
  rcases log_cases coupled logged with ⟨task, found, -, ⟨real, realEq, same, -⟩, rfl⟩
  rcases resultAt_eq_some.mp logs with ⟨-, other, otherEq, stageEq⟩
  cases realEq.symm.trans otherEq
  have made := madeAt_of_reachable reachable realEq
  rw [stageEq] at made
  rcases made with ⟨outcome, finishedAt, past, rfl⟩
  refine ⟨generator.running.idxOf index, outcome, finishedAt, ?_⟩
  rw [← coupled.now] at past
  rw [ReadyHandle.step, ReadyHandle.complete, found, same]
  exact if_pos past

/-- Every step of the load generator is one of its handle, or the handle does not notice. -/
theorem handle_of_step
    (reachable : (machine lua web loadgeneratorId virtualUserCount).Reachable generator)
    {event : Event}
    (stepped : (machine lua web loadgeneratorId virtualUserCount).step generator event =
      some next) :
    next.handle = generator.handle ∨ ∃ event',
      (generator.KeepsLastResult event → generator.handle.KeepsLastResult event') ∧
        generator.handle.step event' = some next.handle := by
  have coupled := coupled_of_reachable reachable
  cases event with
  | tick elapsed =>
      cases stepped
      exact .inr ⟨.tick elapsed, fun _ => trivial, rfl⟩
  | pace gaps =>
      rcases Option.bind_eq_some_iff.mp stepped with ⟨handle, moved, paced⟩
      rw [(pace_cases paced).1]
      exact .inr ⟨.pace gaps, fun _ => trivial, moved⟩
  | report =>
      rcases Option.map_eq_some_iff.mp stepped with ⟨handle, reported, rfl⟩
      exact .inr ⟨.report, fun _ => trivial, reported⟩
  | sendFails =>
      rcases Option.map_eq_some_iff.mp stepped with ⟨handle, failed, rfl⟩
      exact .inr ⟨.sendFails, id, failed⟩
  | task index event =>
      rcases Option.bind_eq_some_iff.mp stepped with ⟨system', moved, counted⟩
      cases logs : resultAt generator.system index event with
      | none =>
          rw [logs] at counted
          cases counted
          exact .inl rfl
      | some result =>
          rw [logs] at counted
          rcases exists_complete_of_log coupled (system_of_reachable reachable) logs counted with
            ⟨position, outcome, finishedAt, completed⟩
          exact .inr ⟨.complete position outcome finishedAt,
            fun keeps => keeps (Option.isSome_iff_exists.mpr ⟨result, logs⟩), completed⟩

/-- A load generator with its tasks runs as one whose tasks end at any time. -/
theorem handle_of_reachableBy {allowed : WorkingGenerator World Url Jar → Event → Prop}
    {permits : ReadyHandle → ReadyHandle.Event → Prop}
    (permitted : ∀ generator event event', allowed generator event →
      (generator.KeepsLastResult event → generator.handle.KeepsLastResult event') →
        permits generator.handle event')
    (reachable : (machine lua web loadgeneratorId virtualUserCount).ReachableBy allowed
      generator) : ReadyHandle.machine.ReachableBy permits generator.handle := by
  induction reachable with
  | start initial =>
      rcases initial with ⟨⟨profile, warmup, handleEq⟩, -⟩
      exact .start ⟨_, profile, warmup, _, handleEq⟩
  | step reached allows stepped ih =>
      rcases handle_of_step reached.reachable stepped with same | ⟨event', kept, moved⟩
      · rw [same]
        exact ih
      · exact ih.step (permitted _ _ _ allows kept) moved

end Coupled

/-! ## At the end -/

section AtEnd

open Dispatch

variable {lua : Lua World} {web : WebLibrary Url Jar} {loadgeneratorId : LoadGeneratorId}
variable {virtualUserCount : UInt32} {generator : WorkingGenerator World Url Jar}
variable {system : System World Url Jar}

/-- Every user is in the free list, once, with a permit for each. -/
structure AllReturned (virtualUserCount : UInt32) (pool : Pool (VirtualUser World Jar)) :
    Prop where
  users : ∀ id, (pool.users.map (·.id)).count id = if id.value < virtualUserCount then 1 else 0
  permits : pool.available = pool.users.length

theorem allReturned_of_finished (pooled : system.Pooled virtualUserCount)
    (finished : ∀ task ∈ system.tasks, task.stage = .finished) :
    AllReturned virtualUserCount system.pool := by
  have conserved := Pool.Shared.users_conserved pooled.reachable
  have idle : ∀ call ∈ system.shared.callers, call = .idle := by
    intro call member
    rcases List.mem_map.mp member with ⟨task, taskMem, rfl⟩
    rw [finished task taskMem]
    rfl
  have nothing : ∀ amount : Pool.Call → Nat, amount .idle = 0 →
      (system.shared.callers.map amount).sum = 0 := by
    intro amount zero
    apply List.sum_eq_zero
    intro value member
    rcases List.mem_map.mp member with ⟨call, callMem, rfl⟩
    rw [idle call callMem, zero]
  have balanced := conserved.balanced
  rw [Pool.Shared.takenPermits, Pool.Shared.pushedUsers, nothing _ rfl, nothing _ rfl] at balanced
  constructor
  · intro id
    have placed := conserved.placed id
    rw [Pool.Shared.places, nothing _ rfl] at placed
    exact placed
  · have lengths : system.shared.pool.users.length = system.pool.users.length :=
      List.length_map _
    rw [← lengths, balanced]
    rfl

/-- What a task has done in full. -/
structure Completed (task : Task World Url Jar) (result : TransactionResult) : Prop where
  finished : task.stage = .finished
  logged : task.trace.logged = [result]
  describes : Describes task.transaction task.trace result

/-- With nothing left to run, the tasks have logged what the handle has counted. -/
theorem exists_completed (coupled : generator.Coupled loadgeneratorId)
    (reachable : (tasks lua web loadgeneratorId virtualUserCount).Reachable generator.system)
    (idle : generator.handle.tasks = []) :
    ∃ entries, entries ~ generator.handle.history.logged ∧
      generator.system.tasks.map (·.transaction) = entries.map (·.task.transaction) ∧
        List.Forall₂ Completed generator.system.tasks (entries.map (·.result)) := by
  have noRunning : generator.running = [] := by
    have running := coupled.running
    rw [idle] at running
    exact List.forall₂_nil_right_iff.mp running
  have names := coupled.names
  rw [noRunning, List.nil_append] at names
  -- the log in the order in which the tasks were spawned
  obtain ⟨entries, related, sorted⟩ := List.perm_comp_forall₂ names.symm coupled.logged
  have lengthEq : generator.system.tasks.length = entries.length := by
    rw [← related.length_eq, List.length_range]
  have hasLogged : ∀ index (bound : index < generator.system.tasks.length)
      (entryBound : index < entries.length),
      generator.system.tasks[index].transaction = entries[index].task.transaction ∧
        Completed generator.system.tasks[index] entries[index].result := by
    intro index bound entryBound
    have nameEq : (List.range generator.system.tasks.length)[index]? = some index :=
      List.getElem?_range bound
    rcases related.of_getElem? nameEq (List.getElem?_eq_getElem entryBound) with
      ⟨task, found, same, finished, logged⟩
    obtain rfl : generator.system.tasks[index] = task := by
      rw [List.getElem?_eq_getElem bound] at found
      exact Option.some.inj found
    rcases (System.results_describe_sends reachable found).1 finished with
      ⟨result, traced, describes⟩
    rw [logged] at traced
    cases traced
    exact ⟨same, finished, logged, describes⟩
  refine ⟨entries, sorted, ?_, List.forall₂_iff_get.mpr ⟨?_, ?_⟩⟩
  · apply List.ext_getElem
    · rw [List.length_map, List.length_map, lengthEq]
    · intro index bound entryBound
      rw [List.getElem_map, List.getElem_map]
      exact (hasLogged index (by simpa using bound) (by simpa using entryBound)).1
  · rw [List.length_map, lengthEq]
  · intro index bound resultBound
    have entryBound : index < entries.length := by simpa using resultBound
    rw [List.get_eq_getElem, List.get_eq_getElem, List.getElem_map]
    exact (hasLogged index bound entryBound).2

instance (generator : WorkingGenerator World Url Jar) (event : Event) :
    Decidable (generator.KeepsLastResult event) :=
  match event with
  | .task .. => inferInstanceAs (Decidable (_ → ¬ ((_ ∧ ¬ _) ∧ _)))
  | .sendFails => inferInstanceAs (Decidable False)
  | .tick _ | .pace _ | .report => inferInstanceAs (Decidable True)

end AtEnd

section OneUser

/-- One user for one transaction within one second, without warmup. -/
private def oneUser : WorkingGenerator Unit String Unit where
  handle := .new ⟨0⟩ ⟨[⟨.fromSecs 1, 1⟩]⟩ ⟨0, 0, 0⟩ 0
  system := Dispatch.OneUser.start
  running := []
  logged := []

/-- The transaction is dispatched half a second into the step. -/
private def untilDispatched : List Event :=
  [.report, .pace [], .pace [], .report, .report, .report, .pace [500000000], .tick 500000000,
    .pace []]

/-- Its task succeeds after 3 ms. -/
private def taskEvents : List Event :=
  [.task 0 .checkDeadline, .task 0 .tryAcquire, .task 0 (.takeRandomUser 0),
    .task 0 (.nextUserSpec 0), .task 0 .resolveUrl, .task 0 .measure, .task 0 .send,
    .tick 3000000, .task 0 (.receive (.ok ⟨200, [], none⟩)), .task 0 .finish, .task 0 .judge,
    .task 0 .convert, .task 0 .push, .task 0 .addPermits, .task 0 .logResult]

private def untilFinished : List Event :=
  [.pace [], .pace [500000000], .pace [], .pace [], .report, .tick 497000000, .report, .report,
    .report, .report, .report]

end OneUser

end WorkingGenerator

end CreoBench
