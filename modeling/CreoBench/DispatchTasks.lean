import CreoBench.DispatchPool

/-!
# What a step does to the tasks

A step of the system starts a task, moves one task by itself or at the pool, and
may hand a permit to the task that is first in the queue.
-/

namespace CreoBench

namespace Dispatch

variable {World Url Jar : Type}

/-- What a step at the pool does to the task that makes it. -/
inductive PoolMove (system : System World Url Jar) :
    Task World Url Jar → Task World Url Jar → Prop
  | takePermit {task : Task World Url Jar} :
      task.stage = .onSchedule → 0 < system.pool.available →
        PoolMove system task (task.enter (.permitted false))
  | miss {task : Task World Url Jar} :
      task.stage = .onSchedule → system.pool.available = 0 →
        PoolMove system task (task.enter .tried)
  | claim {task : Task World Url Jar} :
      task.stage = .tried → 0 < system.pool.available →
        PoolMove system task ((task.poll system.now).hand system.now)
  | wait {task : Task World Url Jar} :
      task.stage = .tried → system.pool.available = 0 →
        PoolMove system task ((task.poll system.now).enter .queued)
  | resume {task : Task World Url Jar} :
      task.stage = .assigned → PoolMove system task (task.enter (.permitted true))
  | timeOut {task : Task World Url Jar} :
      task.stage = .queued ∨ task.stage = .assigned → task.deadline ≤ system.now →
        PoolMove system task (task.enter (.dropping .noVirtualUser))
  | panic {task : Task World Url Jar} {waited : Bool} :
      task.stage = .permitted waited → system.pool.users = [] →
        PoolMove system task (task.enter (.panicked none))
  | takeUser {task : Task World Url Jar} {waited : Bool} {user : VirtualUser World Jar} :
      task.stage = .permitted waited → user ∈ system.pool.users →
        PoolMove system task
          ((task.acquire user).enter (if waited then .awaited user else .ready user))
  | push {task : Task World Url Jar} {user : VirtualUser World Jar} {after : AfterRelease} :
      task.stage = .releasing user after →
        PoolMove system task ((task.release user).enter (.pushed after))
  | drop {task : Task World Url Jar} {code : DroppedCode} :
      task.stage = .pushed (.drop code) → PoolMove system task (task.enter (.dropping code))
  | log {task : Task World Url Jar} {result : TransactionResult} :
      task.stage = .pushed (.log result) → PoolMove system task (task.enter (.logging result))

namespace System

variable {system next : System World Url Jar} {index : Nat} {task : Task World Url Jar}

/-- A step at the pool moves its task, and hands a permit to the first in the queue if
it adds one. -/
structure PoolEffect (system next : System World Url Jar) (index : Nat)
    (task task' : Task World Url Jar) : Prop where
  move : PoolMove system task task'
  now : next.now = system.now
  free : next.free = system.free
  tasks : next.tasks = system.tasks.set index task' ∨
    ∃ first ∈ system.waiters, task.stage ≠ .queued ∧
      next.tasks = (system.tasks.set index task').modify first (·.hand system.now)
  users : ∀ user ∈ next.pool.users,
    user ∈ system.pool.users ∨ ∃ after, task.stage = .releasing user after

theorem PoolEffect.of_put {task' : Task World Url Jar} (move : PoolMove system task task') :
    PoolEffect system (system.put index task') index task task' :=
  ⟨move, rfl, rfl, .inl rfl, fun _ member => .inl member⟩

theorem PoolEffect.of_addPermits {task' : Task World Url Jar}
    (move : PoolMove system task task') (running : task.stage ≠ .queued) :
    PoolEffect system (system.put index task').addPermits index task task' := by
  unfold System.addPermits
  cases waiting : system.waiters with
  | nil =>
      have noWaiters : (system.put index task').waiters = [] := waiting
      rw [noWaiters]
      exact ⟨move, rfl, rfl, .inl rfl, fun _ member => .inl member⟩
  | cons first waiters =>
      have someWaiter : (system.put index task').waiters = first :: waiters := waiting
      rw [someWaiter]
      exact ⟨move, rfl, rfl, .inr ⟨first, by simp [waiting], running, rfl⟩,
        fun _ member => .inl member⟩

theorem available_of_takePermit {pool : Pool (VirtualUser World Jar)}
    (taken : system.pool.takePermit = some pool) : 0 < system.pool.available := by
  have oneLess := (Pool.takePermit_eq_some taken).2
  omega

theorem available_of_takePermit_none (taken : system.pool.takePermit = none) :
    system.pool.available = 0 := by
  unfold Pool.takePermit at taken
  split_ifs at taken with some_free
  omega

theorem poolStep_effect {event : TaskEvent}
    (stepped : system.poolStep index task task.stage event = some next) :
    ∃ task', PoolEffect system next index task task' := by
  revert stepped
  generalize stageEq : task.stage = stage
  fun_cases System.poolStep system index task stage event
  all_goals intro stepped
  all_goals cases stepped
  case case1 pool taken =>
    refine ⟨_, .takePermit stageEq (available_of_takePermit taken), rfl, rfl, .inl rfl, ?_⟩
    intro user member
    exact .inl ((Pool.takePermit_eq_some taken).1 ▸ member)
  case case2 taken => exact ⟨_, .of_put (.miss stageEq (available_of_takePermit_none taken))⟩
  case case3 pool taken =>
    refine ⟨_, .claim stageEq (available_of_takePermit taken), rfl, rfl, .inl rfl, ?_⟩
    intro user member
    exact .inl ((Pool.takePermit_eq_some taken).1 ▸ member)
  case case4 taken =>
    exact ⟨_, .wait stageEq (available_of_takePermit_none taken), rfl, rfl, .inl rfl,
      fun _ member => .inl member⟩
  case case5 => exact ⟨_, .of_put (.resume stageEq)⟩
  case case6 late =>
    exact ⟨_, .timeOut (.inl stageEq) late, rfl, rfl, .inl rfl, fun _ member => .inl member⟩
  case case8 late => exact ⟨_, .of_addPermits (.timeOut (.inr stageEq) late) (by simp [stageEq])⟩
  case case10 empty =>
    exact ⟨_, .of_put (.panic stageEq (Pool.takeRandomUser_eq_none.mp empty))⟩
  case case11 user pool taken =>
    have users := (Pool.takeRandomUser_eq_some taken).1
    refine ⟨_, .takeUser stageEq (users.mem_iff.mpr List.mem_cons_self), rfl, rfl, .inl rfl, ?_⟩
    intro other member
    exact .inl (users.mem_iff.mpr (List.mem_cons_of_mem _ member))
  case case12 user after =>
    refine ⟨_, .push stageEq, rfl, rfl, .inl rfl, ?_⟩
    intro other member
    rcases List.mem_append.mp member with old | new
    · exact .inl old
    · exact .inr ⟨after, by rw [stageEq, List.mem_singleton.mp new]⟩
  case case13 => exact ⟨_, .of_addPermits (.drop stageEq) (by simp [stageEq])⟩
  case case14 => exact ⟨_, .of_addPermits (.log stageEq) (by simp [stageEq])⟩

/-- How a task came to be what it is after a step. -/
inductive Changed (lua : Lua World) (web : WebLibrary Url Jar)
    (loadgeneratorId : LoadGeneratorId) (system : System World Url Jar) :
    Event → Nat → Task World Url Jar → Prop
  | dispatched {startTime : StartTime} {targetTime : RelativeLoadTestTime} {index : Nat} :
      startTime.instant.instant ≤ system.now → system.tasks[index]? = none →
        Changed lua web loadgeneratorId system (.dispatch startTime targetTime) index
          ⟨⟨loadgeneratorId, startTime, targetTime⟩, .spawned, .empty⟩
  | kept {event : Event} {index : Nat} {task : Task World Url Jar} :
      system.tasks[index]? = some task → (∀ taskEvent, event ≠ .task index taskEvent) →
        Changed lua web loadgeneratorId system event index task
  | own {index : Nat} {event : TaskEvent} {task task' : Task World Url Jar} :
      system.tasks[index]? = some task →
        ownStep lua web system.now task task.stage event = some task' →
          Changed lua web loadgeneratorId system (.task index event) index task'
  | pooled {index : Nat} {event : TaskEvent} {task task' : Task World Url Jar} :
      system.tasks[index]? = some task → PoolMove system task task' →
        Changed lua web loadgeneratorId system (.task index event) index task'
  | handed {event : Event} {index : Nat} {task : Task World Url Jar} :
      system.tasks[index]? = some task → task.stage = .queued →
        Changed lua web loadgeneratorId system event index (task.hand system.now)

variable {lua : Lua World} {web : WebLibrary Url Jar} {loadgeneratorId : LoadGeneratorId}
variable {virtualUserCount : UInt32} {event : Event}

theorem stage_of_acquiring (acquiring : task.stage.call = .acquiring) :
    task.stage = .queued := by
  revert acquiring
  cases task.stage with
  | queued => exact fun _ => rfl
  | panicked lost => cases lost <;> exact nofun
  | _ => exact nofun

/-- Every waiter is a task in the queue. -/
theorem waiter_queued (pooled : system.Pooled virtualUserCount) {first : Nat}
    (waiting : first ∈ system.waiters) :
    ∃ waiter, system.tasks[first]? = some waiter ∧ waiter.stage = .queued := by
  have acquiring := (pooled.queue.mem_iff first).mp waiting
  rcases Option.map_eq_some_iff.mp (by simpa [shared] using acquiring) with
    ⟨waiter, found, callEq⟩
  exact ⟨waiter, found, stage_of_acquiring callEq⟩

theorem getElem?_put {task' other : Task World Url Jar} {position : Nat}
    (found : (system.put index task').tasks[position]? = some other) :
    position = index ∧ other = task' ∨
      position ≠ index ∧ system.tasks[position]? = some other := by
  rw [put, List.getElem?_set] at found
  split_ifs at found with same bound
  · cases found
    exact .inl ⟨same.symm, rfl⟩
  · exact .inr ⟨Ne.symm same, found⟩

theorem changed_of_step (pooled : system.Pooled virtualUserCount)
    (stepped : system.step lua web loadgeneratorId event = some next) {position : Nat}
    (found : next.tasks[position]? = some task) :
    Changed lua web loadgeneratorId system event position task := by
  cases event with
  | tick elapsed =>
      cases stepped
      exact .kept found (by simp)
  | dispatch startTime targetTime =>
      simp only [System.step, Option.ite_none_right_eq_some] at stepped
      rcases stepped with ⟨started, made⟩
      cases made
      rcases List.getElem?_concat_eq_some.mp found with old | ⟨rfl, new⟩
      · exact .kept old (by simp)
      · subst new
        exact .dispatched started (List.getElem?_eq_none le_rfl)
  | task index event =>
      rcases Option.bind_eq_some_iff.mp stepped with ⟨before, beforeEq, moved⟩
      cases own : ownStep lua web system.now before before.stage event with
      | some task' =>
          rw [own] at moved
          cases moved
          rcases getElem?_put found with ⟨rfl, rfl⟩ | ⟨other, old⟩
          · exact .own beforeEq own
          · exact .kept old (by rintro _ ⟨⟩; exact other rfl)
      | none =>
          rw [own] at moved
          rcases poolStep_effect moved with ⟨task', effect⟩
          rcases effect.tasks with set | ⟨first, waiting, running, handed⟩
          · rw [set] at found
            rcases getElem?_put found with ⟨rfl, rfl⟩ | ⟨other, old⟩
            · exact .pooled beforeEq effect.move
            · exact .kept old (by rintro _ ⟨⟩; exact other rfl)
          · rcases waiter_queued pooled waiting with ⟨waiter, waiterEq, queued⟩
            have other : first ≠ index := by
              rintro rfl
              cases waiterEq.symm.trans beforeEq
              exact running queued
            rw [handed, List.getElem?_modify] at found
            by_cases served : first = position
            · subst served
              rw [List.getElem?_set_ne other.symm, waiterEq] at found
              cases found
              simp only [if_true]
              exact .handed waiterEq queued
            · simp only [served, if_false, Option.map_eq_map, Option.map_id_fun', id] at found
              rcases getElem?_put found with ⟨rfl, rfl⟩ | ⟨other, old⟩
              · exact .pooled beforeEq effect.move
              · exact .kept old (by rintro _ ⟨⟩; exact other rfl)

/-- Users get into the free list from where they are released only. -/
theorem users_of_step (stepped : system.step lua web loadgeneratorId event = some next)
    {user : VirtualUser World Jar} (member : user ∈ next.pool.users) :
    user ∈ system.pool.users ∨
      ∃ (index : Nat) (task : Task World Url Jar) (after : AfterRelease),
        system.tasks[index]? = some task ∧ task.stage = .releasing user after := by
  cases event with
  | tick elapsed =>
      cases stepped
      exact .inl member
  | dispatch startTime targetTime =>
      simp only [System.step, Option.ite_none_right_eq_some] at stepped
      rcases stepped with ⟨-, made⟩
      cases made
      exact .inl member
  | task index event =>
      rcases Option.bind_eq_some_iff.mp stepped with ⟨before, beforeEq, moved⟩
      cases own : ownStep lua web system.now before before.stage event with
      | some task' =>
          rw [own] at moved
          cases moved
          exact .inl member
      | none =>
          rw [own] at moved
          rcases poolStep_effect moved with ⟨task', effect⟩
          rcases effect.users user member with old | ⟨after, releasing⟩
          · exact .inl old
          · exact .inr ⟨index, before, after, beforeEq, releasing⟩

/-- Unclaimed permits are noted after a step only, and the clock never goes back. -/
theorem free_of_step (stepped : system.step lua web loadgeneratorId event = some next) :
    next.free = system.free ∧ system.now ≤ next.now := by
  cases event with
  | tick elapsed =>
      cases stepped
      exact ⟨rfl, Nat.le_add_right _ _⟩
  | dispatch startTime targetTime =>
      simp only [System.step, Option.ite_none_right_eq_some] at stepped
      rcases stepped with ⟨-, made⟩
      cases made
      exact ⟨rfl, le_rfl⟩
  | task index event =>
      rcases Option.bind_eq_some_iff.mp stepped with ⟨before, beforeEq, moved⟩
      cases own : ownStep lua web system.now before before.stage event with
      | some task' =>
          rw [own] at moved
          cases moved
          exact ⟨rfl, le_rfl⟩
      | none =>
          rw [own] at moved
          rcases poolStep_effect moved with ⟨task', effect⟩
          exact ⟨effect.free, Nat.le_of_eq effect.now.symm⟩

/-- What is true of a task when it is dispatched, and stays true while time passes and the
task takes steps or is handed a permit, is true of every task. -/
theorem forall_tasks_of_reachableBy {allowed : System World Url Jar → Event → Prop}
    (Holds : Instant → Task World Url Jar → Prop)
    (dispatched : ∀ (now : Instant) (startTime : StartTime) (targetTime : RelativeLoadTestTime),
      startTime.instant.instant ≤ now →
        Holds now ⟨⟨loadgeneratorId, startTime, targetTime⟩, .spawned, .empty⟩)
    (later : ∀ (now later : Instant) (task : Task World Url Jar), Holds now task → now ≤ later →
      Holds later task)
    (own : ∀ (system : System World Url Jar) (index : Nat) (event : TaskEvent)
      (task task' : Task World Url Jar), allowed system (.task index event) →
        system.tasks[index]? = some task → Holds system.now task →
          ownStep lua web system.now task task.stage event = some task' → Holds system.now task')
    (atPool : ∀ (system : System World Url Jar) (task task' : Task World Url Jar),
      Holds system.now task → PoolMove system task task' → Holds system.now task')
    (handed : ∀ (now : Instant) (task : Task World Url Jar), Holds now task →
      task.stage = .queued → Holds now (task.hand now))
    (reachable : (machine lua web loadgeneratorId virtualUserCount).ReachableBy allowed system)
    {index : Nat} {task : Task World Url Jar} (found : system.tasks[index]? = some task) :
    Holds system.now task := by
  suffices holds : ∀ (index : Nat) (task : Task World Url Jar),
      system.tasks[index]? = some task → Holds system.now task from holds index task found
  apply Machine.ReachableBy.invariant_of_known (fun _ reached => pooled_of_reachable reached)
    _ _ reachable
  · intro system initial index task found
    rw [initial.2.2.1] at found
    cases found
  · intro system event next pooled holds permitted stepped index task found
    rcases Option.map_eq_some_iff.mp stepped with ⟨moved, step, rfl⟩
    rw [observe_tasks] at found
    rw [observe_now]
    apply later _ _ _ _ (free_of_step step).2
    cases changed_of_step pooled step found with
    | dispatched started new => exact dispatched _ _ _ started
    | kept before other => exact holds index task before
    | own before moves => exact own _ _ _ _ _ permitted before (holds index _ before) moves
    | pooled before move => exact atPool _ _ _ (holds index _ before) move
    | handed before queued => exact handed _ _ (holds index _ before) queued

end System

end Dispatch

end CreoBench
