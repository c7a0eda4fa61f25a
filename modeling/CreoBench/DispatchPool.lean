import CreoBench.Dispatch

/-!
# Dispatched transactions as callers of the pool

Seen from the pool, a task is a caller that acquires a user, holds it and
releases it, and a permit that is handed over is added and assigned in one step.
Every run of the tasks is therefore a run of the pool's machine, with the users
known by their ids.
-/

namespace CreoBench

namespace Pool

variable {User : Type}

/-- The pool with its users known by their ids. -/
def byId (id : User → VirtualUserId) (pool : Pool User) : Pool VirtualUserId :=
  ⟨pool.users.map id, pool.available⟩

theorem takePermit_byId (id : User → VirtualUserId) {pool next : Pool User}
    (taken : pool.takePermit = some next) :
    (pool.byId id).takePermit = some (next.byId id) := by
  unfold takePermit at taken
  split_ifs at taken with some_free
  cases taken
  exact if_pos some_free

theorem takeRandomUser_byId (id : User → VirtualUserId) (pool : Pool User) (draw : Nat) :
    (pool.byId id).takeRandomUser draw =
      (pool.takeRandomUser draw).map fun (user, next) => (id user, next.byId id) := by
  have lengthEq : (pool.byId id).users.length = pool.users.length := List.length_map id
  unfold takeRandomUser
  rw [lengthEq]
  cases randomRange draw pool.users.length with
  | none => rfl
  | some index =>
      cases found : pool.users[index]? with
      | none => simp [byId, found]
      | some user => simp [byId, found, List.map_swapRemove]

end Pool

namespace Dispatch

variable {World Url Jar : Type}

/-- The call of the pool in which a stage is. -/
def Stage.call : Stage World Url Jar → Pool.Call
  | .spawned | .onSchedule | .tried | .dropping _ | .logging _ | .finished => .idle
  | .queued => .acquiring
  | .assigned => .assigned
  | .permitted _ => .permitted
  | .awaited user | .ready user | .concluded user _ | .panicked (some user) => .holding user.id
  | .resolved attempt | .located attempt _ | .measuring attempt _ _ | .sending attempt _ _
  | .received attempt _ _ | .measured attempt _ _ => .holding attempt.user.id
  | .releasing user _ => .releasing user.id
  | .pushed _ => .released
  | .panicked none => .panicked

/-- Nothing that a task does by itself concerns the pool, but that it begins to
release its user. -/
theorem ownStep_call {lua : Lua World} {web : WebLibrary Url Jar} {now : Instant}
    {task next : Task World Url Jar} {stage : Stage World Url Jar} {event : TaskEvent}
    (stepped : ownStep lua web now task stage event = some next) :
    next.stage.call = stage.call ∨
      ∃ id, stage.call = .holding id ∧ next.stage.call = .releasing id := by
  revert stepped
  fun_cases ownStep lua web now task stage event <;> intro stepped <;> cases stepped
  all_goals simp [Task.enter, Task.conclude, Stage.call]

/-- The semaphore's queue holds exactly the callers that wait, and nobody waits
while a permit is unclaimed. -/
structure Queue (waiters : List Nat) (callers : List Pool.Call) (available : Nat) : Prop where
  nodup : waiters.Nodup
  mem_iff : ∀ index, index ∈ waiters ↔ callers[index]? = some .acquiring
  served : waiters ≠ [] → available = 0

namespace Queue

variable {waiters : List Nat} {callers : List Pool.Call} {available : Nat}
variable {index : Nat} {call call' : Pool.Call}

theorem getElem?_set (found : callers[index]? = some call) (other : Nat) :
    (callers.set index call')[other]? =
      if index = other then some call' else callers[other]? := by
  obtain ⟨bound, -⟩ := List.getElem?_eq_some_iff.mp found
  rw [List.getElem?_set]
  simp [bound]

theorem move (queue : Queue waiters callers available)
    (found : callers[index]? = some call) (before : call ≠ .acquiring)
    (after : call' ≠ .acquiring) : Queue waiters (callers.set index call') available := by
  refine ⟨queue.nodup, fun other => ?_, queue.served⟩
  rw [queue.mem_iff, getElem?_set found]
  by_cases same : index = other
  · subst same
    simp [found, before, after]
  · simp [same]

theorem spend {available' : Nat} (queue : Queue waiters callers available)
    (less : available' ≤ available) : Queue waiters callers available' := by
  refine ⟨queue.nodup, queue.mem_iff, fun waiting => ?_⟩
  have none_left := queue.served waiting
  omega

theorem join (queue : Queue waiters callers 0) (found : callers[index]? = some call)
    (before : call ≠ .acquiring) :
    Queue (waiters ++ [index]) (callers.set index .acquiring) 0 := by
  have absent : index ∉ waiters := by
    rw [queue.mem_iff, found]
    simpa using before
  refine ⟨?_, fun other => ?_, fun _ => rfl⟩
  · rw [List.nodup_append]
    refine ⟨queue.nodup, List.nodup_singleton index, ?_⟩
    rintro other member _ newMember rfl
    exact absent (List.mem_singleton.mp newMember ▸ member)
  · rw [List.mem_append, queue.mem_iff, List.mem_singleton, getElem?_set found]
    by_cases same : index = other
    · simp [same]
    · simp [same, Ne.symm same]

theorem leave (queue : Queue waiters callers available)
    (found : callers[index]? = some .acquiring) (after : call' ≠ .acquiring) :
    Queue (waiters.erase index) (callers.set index call') available := by
  refine ⟨queue.nodup.erase index, fun other => ?_, ?_⟩
  · rw [queue.nodup.mem_erase_iff, queue.mem_iff, getElem?_set found]
    by_cases same : index = other
    · simp [same, after]
    · simp [same, Ne.symm same]
  · intro waiting
    apply queue.served
    rintro rfl
    exact waiting rfl

theorem serve {first : Nat} (queue : Queue (first :: waiters) callers available) :
    Queue waiters (callers.set first .assigned) 0 := by
  have found : callers[first]? = some .acquiring := (queue.mem_iff first).mp List.mem_cons_self
  have left : Queue _ (callers.set first .assigned) _ := queue.leave found Pool.Call.noConfusion
  rw [List.erase_cons_head] at left
  exact ⟨left.nodup, left.mem_iff, fun _ => rfl⟩

theorem enter (queue : Queue waiters callers available) :
    Queue waiters (callers ++ [.idle]) available := by
  refine ⟨queue.nodup, fun other => ?_, queue.served⟩
  rw [queue.mem_iff, List.getElem?_concat_eq_some]
  simp

end Queue

namespace System

/-- The pool and the callers that the tasks are. -/
def shared (system : System World Url Jar) : Pool.Shared where
  pool := system.pool.byId VirtualUser.id
  callers := system.tasks.map (·.stage.call)

/-- The pool has come to its state by a run of its own machine, and the queue is in
order. -/
structure Pooled (virtualUserCount : UInt32) (system : System World Url Jar) : Prop where
  reachable : (Pool.machine virtualUserCount).Reachable system.shared
  queue : Queue system.waiters system.shared.callers system.pool.available

variable {virtualUserCount : UInt32} {system next : System World Url Jar}
variable {index : Nat} {task : Task World Url Jar}

theorem callers_eq (found : system.tasks[index]? = some task) :
    system.shared.callers[index]? = some task.stage.call := by
  simp [shared, found]

theorem shared_put (task : Task World Url Jar) :
    (system.put index task).shared =
      ⟨system.shared.pool, system.shared.callers.set index task.stage.call⟩ := by
  simp [shared, put, List.map_set]

/-- One step of a caller. -/
theorem Pooled.call (pooled : system.Pooled virtualUserCount)
    (found : system.tasks[index]? = some task) {event : Pool.CallEvent}
    {pool' : Pool VirtualUserId} {call' : Pool.Call}
    (stepped : Pool.callStep system.shared.pool task.stage.call event = some (pool', call')) :
    (Pool.machine virtualUserCount).Reachable
      ⟨pool', system.shared.callers.set index call'⟩ := by
  refine @Machine.ReachableBy.step _ _ _ _ _ _ (.call index event) pooled.reachable trivial ?_
  simp [Pool.machine, callers_eq found, stepped]

/-- A permit that is added goes to the first task in the queue, if there is one. -/
theorem Pooled.addPermits
    (reachable : (Pool.machine virtualUserCount).Reachable
      ⟨system.shared.pool.addPermit, system.shared.callers⟩)
    (queue : Queue system.waiters system.shared.callers system.pool.available) :
    system.addPermits.Pooled virtualUserCount := by
  unfold System.addPermits
  cases waiting : system.waiters with
  | nil =>
      rw [waiting] at queue
      exact ⟨reachable, queue.nodup, queue.mem_iff, fun nonempty => absurd rfl nonempty⟩
  | cons first waiters =>
      rw [waiting] at queue
      have found : system.shared.callers[first]? = some .acquiring :=
        (queue.mem_iff first).mp List.mem_cons_self
      have noneLeft : system.pool.available = 0 := queue.served (List.cons_ne_nil _ _)
      obtain ⟨task, taskEq, -⟩ : ∃ task, system.tasks[first]? = some task ∧
          task.stage.call = .acquiring := by
        simpa [shared] using found
      have handedOver : ({ system with
          waiters
          tasks := system.tasks.modify first (·.hand system.now) } : System World Url Jar).shared =
          ⟨system.shared.pool, system.shared.callers.set first .assigned⟩ := by
        simp only [shared, List.modify_eq_set_of_getElem? taskEq, List.map_set]
        rfl
      refine ⟨?_, ?_⟩
      · rw [handedOver]
        refine @Machine.ReachableBy.step _ _ _ _ _ _ (.call first .assign) reachable trivial ?_
        simp [Pool.machine, found, Pool.callStep, Pool.takePermit, Pool.addPermit]
      · rw [handedOver]
        exact queue.serve.spend (Nat.le_of_eq noneLeft)

/-- A step that is none for the pool. -/
theorem Pooled.stay {task' : Task World Url Jar} (pooled : system.Pooled virtualUserCount)
    (found : system.tasks[index]? = some task) (same : task'.stage.call = task.stage.call) :
    (system.put index task').Pooled virtualUserCount := by
  have unchanged : (system.put index task').shared = system.shared := by
    rw [shared_put, same, List.set_eq_self_of_getElem? (callers_eq found)]
  exact ⟨unchanged ▸ pooled.reachable, unchanged ▸ pooled.queue⟩

/-- A step of the pool by a task that does not wait, neither before nor after it. -/
theorem Pooled.move {pool' : Pool (VirtualUser World Jar)} {task' : Task World Url Jar}
    {event : Pool.CallEvent} (pooled : system.Pooled virtualUserCount)
    (found : system.tasks[index]? = some task)
    (stepped : Pool.callStep system.shared.pool task.stage.call event =
      some (pool'.byId VirtualUser.id, task'.stage.call))
    (before : task.stage.call ≠ .acquiring) (after : task'.stage.call ≠ .acquiring)
    (less : pool'.available ≤ system.pool.available) :
    ({ system with pool := pool' }.put index task').Pooled virtualUserCount := by
  refine ⟨?_, ?_⟩
  · rw [shared_put]
    exact pooled.call found stepped
  · rw [shared_put]
    exact (pooled.queue.move (callers_eq found) before after).spend less

theorem Pooled.ownStep {lua : Lua World} {web : WebLibrary Url Jar} {event : TaskEvent}
    {task' : Task World Url Jar} (pooled : system.Pooled virtualUserCount)
    (found : system.tasks[index]? = some task)
    (stepped : Dispatch.ownStep lua web system.now task task.stage event = some task') :
    (system.put index task').Pooled virtualUserCount := by
  rcases ownStep_call stepped with same | ⟨id, holding, releasing⟩
  · exact pooled.stay found same
  · have released : Pool.callStep system.shared.pool task.stage.call .release =
        some (system.pool.byId VirtualUser.id, task'.stage.call) := by
      rw [holding, releasing]
      rfl
    apply pooled.move found released _ _ le_rfl
    · rw [holding]
      exact Pool.Call.noConfusion
    · rw [releasing]
      exact Pool.Call.noConfusion

/-- A task takes a permit that nobody has claimed, in `acquire`. -/
theorem Pooled.claim {pool' : Pool (VirtualUser World Jar)}
    (pooled : system.Pooled virtualUserCount) (found : system.tasks[index]? = some task)
    (stageEq : task.stage = .tried) (taken : system.pool.takePermit = some pool') :
    ({ system with pool := pool' }.put index
      ((task.poll system.now).hand system.now)).Pooled virtualUserCount := by
  have callers : system.shared.callers[index]? = some .idle := by
    rw [callers_eq found, stageEq]
    rfl
  have began : Pool.callStep system.shared.pool task.stage.call .acquire =
      some (system.shared.pool, .acquiring) := by
    rw [stageEq]
    rfl
  have waiting := pooled.call found began
  have bound : index < system.shared.callers.length :=
    (List.getElem?_eq_some_iff.mp callers).1
  refine ⟨?_, ?_⟩
  · rw [shared_put]
    have claimed := @Machine.ReachableBy.step _ _ _ _ _
      ⟨pool'.byId VirtualUser.id, system.shared.callers.set index .assigned⟩
      (.call index .assign) waiting trivial
    apply claimed
    have permit : system.shared.pool.takePermit = some (pool'.byId VirtualUser.id) :=
      Pool.takePermit_byId _ taken
    simp [Pool.machine, Pool.callStep, permit, bound]
  · rw [shared_put]
    have less : pool'.available ≤ system.pool.available := by
      have oneLess := (Pool.takePermit_eq_some taken).2
      omega
    exact (pooled.queue.move callers Pool.Call.noConfusion Pool.Call.noConfusion).spend less

theorem Pooled.wait (pooled : system.Pooled virtualUserCount)
    (found : system.tasks[index]? = some task) (stageEq : task.stage = .tried)
    (taken : system.pool.takePermit = none) :
    ({ system with waiters := system.waiters ++ [index] }.put index
      ((task.poll system.now).enter .queued)).Pooled virtualUserCount := by
  have began : Pool.callStep system.shared.pool task.stage.call .acquire =
      some (system.shared.pool, .acquiring) := by
    rw [stageEq]
    rfl
  have noneLeft : system.pool.available = 0 := by
    unfold Pool.takePermit at taken
    split_ifs at taken with some_free
    omega
  refine ⟨?_, ?_⟩
  · rw [shared_put]
    exact pooled.call found began
  · rw [shared_put]
    apply ((noneLeft ▸ pooled.queue).join (callers_eq found) _).spend (Nat.le_of_eq noneLeft)
    rw [stageEq]
    exact Pool.Call.noConfusion

theorem Pooled.giveUp (pooled : system.Pooled virtualUserCount)
    (found : system.tasks[index]? = some task) (stageEq : task.stage = .queued)
    (code : DroppedCode) :
    ({ system with waiters := system.waiters.erase index }.put index
      (task.enter (.dropping code))).Pooled virtualUserCount := by
  have cancelled : Pool.callStep system.shared.pool task.stage.call .cancel =
      some (system.shared.pool, .idle) := by
    rw [stageEq]
    rfl
  have callers := callers_eq found
  rw [stageEq] at callers
  refine ⟨?_, ?_⟩
  · rw [shared_put]
    exact pooled.call found cancelled
  · rw [shared_put]
    exact pooled.queue.leave callers Pool.Call.noConfusion

/-- A task returns a permit: it has pushed its user, or gives up one that it was handed. -/
theorem Pooled.giveBack {stage : Stage World Url Jar} {event : Pool.CallEvent}
    (pooled : system.Pooled virtualUserCount) (found : system.tasks[index]? = some task)
    (idle : stage.call = .idle) (before : task.stage.call ≠ .acquiring)
    (stepped : Pool.callStep system.shared.pool task.stage.call event =
      some (system.shared.pool.addPermit, .idle)) :
    (system.put index (task.enter stage)).addPermits.Pooled virtualUserCount := by
  have entered : (task.enter stage).stage.call = .idle := idle
  apply Pooled.addPermits
  · rw [shared_put, entered]
    exact pooled.call found stepped
  · rw [shared_put, entered]
    exact pooled.queue.move (callers_eq found) before Pool.Call.noConfusion

theorem Pooled.poolStep {event : TaskEvent} (pooled : system.Pooled virtualUserCount)
    (found : system.tasks[index]? = some task)
    (stepped : system.poolStep index task task.stage event = some next) :
    next.Pooled virtualUserCount := by
  revert stepped
  generalize stageEq : task.stage = stage
  fun_cases System.poolStep system index task stage event
  all_goals intro stepped
  all_goals cases stepped
  case case1 pool taken =>
    have oneLess := (Pool.takePermit_eq_some taken).2
    have moved : Pool.callStep system.shared.pool task.stage.call .tryAcquire =
        some (pool.byId VirtualUser.id, .permitted) := by
      rw [stageEq]
      simp [Stage.call, Pool.callStep, shared, Pool.takePermit_byId _ taken]
    exact pooled.move found moved (by simp [stageEq, Stage.call]) Pool.Call.noConfusion (by omega)
  case case2 => exact pooled.stay found (by rw [stageEq]; rfl)
  case case3 pool taken => exact pooled.claim found stageEq taken
  case case4 taken => exact pooled.wait found stageEq taken
  case case5 =>
    have moved : Pool.callStep system.shared.pool task.stage.call .resume =
        some (system.pool.byId VirtualUser.id, .permitted) := by
      rw [stageEq]
      rfl
    exact pooled.move found moved (by simp [stageEq, Stage.call]) Pool.Call.noConfusion le_rfl
  case case6 => exact pooled.giveUp found stageEq _
  case case8 =>
    have returned : Pool.callStep system.shared.pool task.stage.call .cancel =
        some (system.shared.pool.addPermit, .idle) := by
      rw [stageEq]
      rfl
    exact pooled.giveBack found rfl (by simp [stageEq, Stage.call]) returned
  case case10 waited draw empty =>
    have moved : Pool.callStep system.shared.pool task.stage.call (.takeRandomUser draw) =
        some (system.pool.byId VirtualUser.id, .panicked) := by
      rw [stageEq]
      simp [Stage.call, Pool.callStep, shared, Pool.takeRandomUser_byId, empty]
    exact pooled.move found moved (by simp [stageEq, Stage.call]) Pool.Call.noConfusion le_rfl
  case case11 waited draw user pool taken =>
    have samePermits := (Pool.takeRandomUser_eq_some taken).2
    have moved : Pool.callStep system.shared.pool task.stage.call (.takeRandomUser draw) =
        some (pool.byId VirtualUser.id, .holding user.id) := by
      rw [stageEq]
      simp [Stage.call, Pool.callStep, shared, Pool.takeRandomUser_byId, taken]
    cases waited <;>
      exact pooled.move found moved (by simp [stageEq, Stage.call]) Pool.Call.noConfusion
        (Nat.le_of_eq samePermits)
  case case12 user after =>
    have moved : Pool.callStep system.shared.pool task.stage.call .push =
        some ((system.pool.push user).byId VirtualUser.id, .released) := by
      rw [stageEq]
      simp [Stage.call, Pool.callStep, shared, Pool.push, Pool.byId]
    exact pooled.move found moved (by simp [stageEq, Stage.call]) Pool.Call.noConfusion le_rfl
  case case13 | case14 =>
    have returned : Pool.callStep system.shared.pool task.stage.call .addPermits =
        some (system.shared.pool.addPermit, .idle) := by
      rw [stageEq]
      rfl
    exact pooled.giveBack found rfl (by simp [stageEq, Stage.call]) returned

theorem Pooled.observe {before : System World Url Jar} (pooled : system.Pooled virtualUserCount) :
    (before.observe system).Pooled virtualUserCount := by
  unfold System.observe
  split_ifs
  · exact ⟨pooled.reachable, pooled.queue⟩
  · exact pooled

theorem Pooled.step {lua : Lua World} {web : WebLibrary Url Jar}
    {loadgeneratorId : LoadGeneratorId} {event : Event}
    (pooled : system.Pooled virtualUserCount)
    (stepped : system.step lua web loadgeneratorId event = some next) :
    next.Pooled virtualUserCount := by
  cases event with
  | tick elapsed =>
      cases stepped
      exact ⟨pooled.reachable, pooled.queue⟩
  | dispatch startTime targetTime =>
      simp only [System.step, Option.ite_none_right_eq_some] at stepped
      rcases stepped with ⟨-, made⟩
      cases made
      refine ⟨?_, ?_⟩
      · refine @Machine.ReachableBy.step _ _ _ _ _ _ .enter pooled.reachable trivial ?_
        simp [Pool.machine, shared, Stage.call]
      · simpa [shared, Stage.call] using pooled.queue.enter
  | task index event =>
      rcases Option.bind_eq_some_iff.mp stepped with ⟨task, found, moved⟩
      cases own : Dispatch.ownStep lua web system.now task task.stage event with
      | some task' =>
          rw [own] at moved
          cases moved
          exact pooled.ownStep found own
      | none =>
          rw [own] at moved
          exact pooled.poolStep found moved

theorem pooled_of_initial {lua : Lua World} {web : WebLibrary Url Jar}
    {loadgeneratorId : LoadGeneratorId}
    (initial : (machine lua web loadgeneratorId virtualUserCount).initial system) :
    system.Pooled virtualUserCount := by
  rcases initial with ⟨⟨Failure, setup, isSetUp, built⟩, noWaiters, noTasks, -⟩
  rcases Pool.withClientAndRng_eq_ok built with ⟨users, permits⟩
  have ids := Pool.map_setUpUsers (fun id user ready => (isSetUp id user ready).1) users
  have noCallers : system.shared.callers = [] := by simp [shared, noTasks]
  refine ⟨.start ⟨?_, noCallers⟩, ?_⟩
  · have permitsEq : system.pool.available = (Pool.userIds virtualUserCount).length := by
      rw [permits, ← ids, List.length_map]
    simp [Pool.withClientAndRng, Pool.setUpUsers_ok, shared, Pool.byId, ids, permitsEq, pure,
      Except.pure, bind, Except.bind]
  · rw [noCallers, noWaiters]
    exact ⟨List.nodup_nil, by simp, by simp⟩

/-- Every run of the tasks is a run of the pool's machine. -/
theorem pooled_of_reachable {lua : Lua World} {web : WebLibrary Url Jar}
    {loadgeneratorId : LoadGeneratorId}
    (reachable : (machine lua web loadgeneratorId virtualUserCount).Reachable system) :
    system.Pooled virtualUserCount := by
  apply reachable.invariant fun _ initial => pooled_of_initial initial
  intro system event next pooled _ stepped
  rcases Option.map_eq_some_iff.mp stepped with ⟨moved, step, rfl⟩
  exact (pooled.step step).observe

end System

end Dispatch

end CreoBench
